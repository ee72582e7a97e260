import HostBridge.Json.Decode
import HostBridge.Proofs.Json.Lexeme
import HostBridge.Proofs.Text.Utf8

/-!
# Reading back a written value

The parser finds in the tokens of a value the tree of that value: the same shape, with the numerals
and pieces of its numbers and texts in place of these.

Main statement: whatever is decoded from the bytes of a value's text is decoded from the value's
tree (`decodeBytes_render`).
-/

namespace HostBridge.Json

mutual

/-- The tree that the text of a value has. -/
def tree : Json → Tree
  | .null => .null
  | .bool b => .bool b
  | .number n => .number n.numeral
  | .string s => .string (pieces s)
  | .array items => .array (itemTrees items)
  | .object members => .object (memberTrees members)

def itemTrees : List Json → List Tree
  | [] => []
  | item :: items => tree item :: itemTrees items

def memberTrees : List (String × Json) → List (List Piece × Tree)
  | [] => []
  | (name, value) :: members => (pieces name, tree value) :: memberTrees members

end

/-- An array with an item is parsed item by item. -/
theorem parseTree_openArray (item : Json) (rest : List Token) (fuel : ℕ) :
    parseTree (fuel + 1) (.openArray :: (item.lexemes ++ rest)) =
      (parseItems fuel (item.lexemes ++ rest)).map (fun (items, rest) => (.array items, rest)) := by
  rcases item with _ | _ | _ | _ | (_ | _) | (_ | _) <;> rfl

mutual

/-- The parser finds a value in its tokens, whatever follows them. -/
theorem parseTree_lexemes : (value : Json) → (fuel : ℕ) → 2 * value.lexemes.length ≤ fuel →
    ∀ rest, parseTree fuel (value.lexemes ++ rest) = some (value.tree, rest)
  | .null, fuel + 1, _, _ => rfl
  | .bool _, fuel + 1, _, _ => rfl
  | .number _, fuel + 1, _, _ => rfl
  | .string _, fuel + 1, _, _ => rfl
  | .array [], fuel + 1, _, _ => rfl
  | .array (item :: items), fuel, enough, rest => by
      rw [lexemes, List.length_cons, List.length_append] at enough
      obtain ⟨fuel, rfl⟩ : ∃ left, fuel = left + 2 := ⟨fuel - 2, by omega⟩
      have first := parseTree_lexemes item fuel (by omega)
      rw [lexemes, List.cons_append, List.append_assoc, parseTree_openArray,
        parseItems_itemLexemes items first (by omega), tree, itemTrees]
      rfl
  | .object [], fuel + 1, _, _ => rfl
  | .object ((name, value) :: members), fuel, enough, rest => by
      rw [lexemes, List.length_cons, List.length_cons, List.length_cons,
        List.length_append] at enough
      obtain ⟨fuel, rfl⟩ : ∃ left, fuel = left + 2 := ⟨fuel - 2, by omega⟩
      have first := parseTree_lexemes value fuel (by omega)
      have inner := parseMembers_memberLexemes members (pieces name) first (by omega) rest
      rw [lexemes, List.cons_append, List.cons_append, List.cons_append, List.append_assoc,
        parseTree, inner, tree, memberTrees]
      · rfl
      · exact fun _ same => nomatch same

/-- The lexemes of further items are parsed as their trees, when the first item is. -/
theorem parseItems_itemLexemes : (items : List Json) → {item : Tree} → {read : List Token} →
    {fuel : ℕ} → (∀ rest, parseTree fuel (read ++ rest) = some (item, rest)) →
      2 * (itemLexemes items).length ≤ fuel + 1 → ∀ rest,
        parseItems (fuel + 1) (read ++ (itemLexemes items ++ rest)) =
          some (item :: itemTrees items, rest)
  | [], _, _, _, first, _, rest => by
      rw [itemLexemes, List.singleton_append, parseItems, first, itemTrees]
  | next :: items, _, _, fuel, first, enough, rest => by
      rw [itemLexemes, List.length_cons, List.length_append] at enough
      obtain ⟨fuel, rfl⟩ : ∃ left, fuel = left + 1 := ⟨fuel - 1, by omega⟩
      have second := parseTree_lexemes next fuel (by omega)
      rw [itemLexemes, List.cons_append, List.append_assoc, parseItems, first, itemTrees]
      dsimp only
      rw [parseItems_itemLexemes items second (by omega)]
      rfl

theorem parseMembers_memberLexemes : (members : List (String × Json)) → (name : List Piece) →
    {value : Tree} → {read : List Token} → {fuel : ℕ} →
      (∀ rest, parseTree fuel (read ++ rest) = some (value, rest)) →
        2 * (memberLexemes members).length ≤ fuel + 1 → ∀ rest,
          parseMembers (fuel + 1)
              (.string name :: .colon :: (read ++ (memberLexemes members ++ rest))) =
            some ((name, value) :: memberTrees members, rest)
  | [], _, _, _, _, first, _, rest => by
      rw [memberLexemes, List.singleton_append, parseMembers, first, memberTrees]
  | (further, next) :: members, _, _, _, fuel, first, enough, rest => by
      rw [memberLexemes, List.length_cons, List.length_cons, List.length_cons,
        List.length_append] at enough
      obtain ⟨fuel, rfl⟩ : ∃ left, fuel = left + 1 := ⟨fuel - 1, by omega⟩
      have second := parseTree_lexemes next fuel (by omega)
      rw [memberLexemes, List.cons_append, List.cons_append, List.cons_append, List.append_assoc,
        parseMembers, first, memberTrees]
      dsimp only
      rw [parseMembers_memberLexemes members (pieces further) second (by omega)]
      rfl

end

/-- A printed value is parsed as its own tree. -/
theorem parse_render {value : Json} (integral : value.isIntegral = true) :
    Tree.parse (Text.glyphsOfText value.render) = some value.tree := by
  have found := parseTree_lexemes value _ (Nat.le_succ (2 * value.lexemes.length)) []
  rw [List.append_nil] at found
  rw [Tree.parse, tokens_render integral]
  dsimp only
  rw [found]

/-- Whatever is decoded from the bytes of a value's text is decoded from the value's tree. -/
theorem decodeBytes_render {α : Type} (decode : Decoder α) {value : Json}
    (integral : value.isIntegral = true) :
    decodeBytes decode (Text.encodeUtf8 value.render) = decode value.tree := by
  rw [decodeBytes, Text.glyphs_encodeUtf8, parse_render integral, Option.bind_some]

end HostBridge.Json
