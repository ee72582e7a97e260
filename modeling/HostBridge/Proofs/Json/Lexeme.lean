import HostBridge.Json.Parser
import HostBridge.Proofs.Json.Numeral

/-!
# The tokens of a written value

A value is written token by token, without blanks, and the lexer takes the text apart into the same
tokens, whatever may follow it.  Control characters without a short escape come back as code units;
the text that the pieces of a string stand for is the string all the same.

Main statements: the pieces of a text stand for it (`textOfPieces?_pieces`), and a written value is
taken apart into its tokens (`lexes_chars`).
-/

namespace HostBridge.Json

open HostBridge.Text (Glyph)

/-! ### Strings -/

/-- Whether a character is written as a code unit. -/
def isCoded (c : Char) : Bool :=
  c.toNat < 0x20 && c ∉ ['\x08', '\x0c', '\n', '\r', '\t']

/-- What a written character is read as. -/
def piece (c : Char) : Piece := if isCoded c then .unit c.toNat else .char c

/-- What a written text is read as. -/
def pieces (s : String) : List Piece := s.toList.map piece

/-- The four hexadecimal digits of a control character spell its code. -/
theorem codeUnit?_control : ∀ n < 32,
    codeUnit? '0' '0' (Text.hexDigit (n / 16)) (Text.hexDigit (n % 16)) = some n := by
  decide

/-- A short escape is read as the character it stands for. -/
theorem lexString_escape {c : Char} {short : Char} (escapes : shortEscape? short = some c)
    (plain : short ≠ 'u') (rest : List Glyph) :
    lexString (some '\\' :: some short :: rest) =
      (lexString rest).map (fun (read, rest) => (.char c :: read, rest)) := by
  rw [lexString, escapes]
  exact fun _ _ _ _ _ _ same => plain same

/-- A control character is read back from its numeric escape. -/
theorem lexString_control {c : Char} (control : c.toNat < 0x20) (rest : List Glyph) :
    lexString (some '\\' :: some 'u' :: some '0' :: some '0' ::
        some (Text.hexDigit (c.toNat / 16)) :: some (Text.hexDigit (c.toNat % 16)) :: rest) =
      (lexString rest).map (fun (read, rest) => (.unit c.toNat :: read, rest)) := by
  rw [lexString, codeUnit?_control c.toNat control]

/-- A character that needs no escape is read as itself. -/
theorem lexString_plain {c : Char} (quote : c ≠ '"') (slash : c ≠ '\\') (printed : ¬ c.toNat < 0x20)
    (rest : List Glyph) :
    lexString (some c :: rest) =
      (lexString rest).map (fun (read, rest) => (.char c :: read, rest)) := by
  rw [lexString, if_neg (not_or.mpr ⟨slash, printed⟩)]
  · exact quote
  · exact fun _ _ _ _ _ _ same => slash same
  · exact fun _ _ _ same => slash same

/-- However a character is escaped, it is read back as one piece. -/
theorem lexString_escapeChar (c : Char) (rest : List Glyph) :
    lexString ((escapeChar c).map some ++ rest) =
      (lexString rest).map (fun (read, rest) => (piece c :: read, rest)) := by
  unfold escapeChar
  by_cases quote : c = '"'
  · subst quote
    exact lexString_escape rfl (by decide) rest
  by_cases slash : c = '\\'
  · subst slash
    exact lexString_escape rfl (by decide) rest
  by_cases short : c ∈ ['\x08', '\x0c', '\n', '\r', '\t']
  · have uncoded : piece c = .char c := by
      rw [piece, isCoded, decide_eq_false (not_not.mpr short), Bool.and_false,
        if_neg Bool.false_ne_true]
    rw [uncoded]
    simp only [List.mem_cons, List.not_mem_nil, or_false] at short
    rcases short with rfl | rfl | rfl | rfl | rfl <;> exact lexString_escape rfl (by decide) rest
  · have others := short
    simp only [List.mem_cons, List.not_mem_nil, or_false, not_or] at others
    obtain ⟨backspace, feed, line, carriage, tab⟩ := others
    rw [if_neg quote, if_neg slash, if_neg backspace, if_neg feed, if_neg line, if_neg carriage,
      if_neg tab]
    by_cases control : c.toNat < 0x20
    · have coded : piece c = .unit c.toNat := by
        rw [piece, isCoded, decide_eq_true control, decide_eq_true short, Bool.and_true,
          if_pos rfl]
      rw [if_pos control, coded]
      exact lexString_control control rest
    · have uncoded : piece c = .char c := by
        rw [piece, isCoded, decide_eq_false control, Bool.false_and, if_neg Bool.false_ne_true]
      rw [if_neg control, uncoded]
      exact lexString_plain quote slash control rest

/-- A text that is escaped character by character is read back up to its closing quote. -/
theorem lexString_flatMap (cs : List Char) (rest : List Glyph) :
    lexString ((cs.flatMap escapeChar).map some ++ some '"' :: rest) =
      some (cs.map piece, rest) := by
  induction cs with
  | nil => rfl
  | cons c cs ih =>
      rw [List.flatMap_cons, List.map_append, List.append_assoc, lexString_escapeChar, ih]
      rfl

/-- A code below the surrogates is a character of its own. -/
theorem charsOfPieces?_unit {code : ℕ} (small : code < 0xd800) (rest : List Piece) :
    charsOfPieces? (.unit code :: rest) = (charsOfPieces? rest).map (Char.ofNat code :: ·) := by
  have high : ¬ (0xd800 ≤ code ∧ code < 0xdc00) := by omega
  have low : ¬ (0xdc00 ≤ code ∧ code < 0xe000) := by omega
  have surrogate : ¬ (0xd800 ≤ code ∧ code < 0xe000) := by omega
  -- In front of another code unit this one could have been the first of a pair.
  by_cases pair : ∃ next more, rest = .unit next :: more
  · obtain ⟨next, more, rfl⟩ := pair
    rw [charsOfPieces?, if_neg high, if_neg low]
  · rw [charsOfPieces?, if_neg surrogate]
    exact fun next more same => pair ⟨next, more, same⟩

/-- The piece of a character is read as that character. -/
theorem charsOfPieces?_piece (c : Char) (rest : List Piece) :
    charsOfPieces? (piece c :: rest) = (charsOfPieces? rest).map (c :: ·) := by
  by_cases coded : isCoded c
  · have control : c.toNat < 0x20 := of_decide_eq_true ((Bool.and_eq_true _ _).mp coded).1
    rw [piece, if_pos coded, charsOfPieces?_unit (by omega), Char.ofNat_toNat]
  · rw [piece, if_neg coded, charsOfPieces?]

/-- The pieces of a text stand for it. -/
@[simp] theorem textOfPieces?_pieces (s : String) : textOfPieces? (pieces s) = some s := by
  have read : charsOfPieces? (pieces s) = some s.toList := by
    unfold pieces
    induction s.toList with
    | nil => rfl
    | cons c cs ih => rw [List.map_cons, charsOfPieces?_piece, ih, Option.map_some]
  rw [textOfPieces?, read, Option.map_some, String.ofList_toList]

/-! ### The tokens of a value -/

mutual

/-- Whether every number in a value is an integer. -/
def isIntegral : Json → Bool
  | .number (.float _) => false
  | .array items => areIntegral items
  | .object members => haveIntegral members
  | _ => true

@[inherit_doc isIntegral]
def areIntegral : List Json → Bool
  | [] => true
  | item :: items => isIntegral item && areIntegral items

@[inherit_doc isIntegral]
def haveIntegral : List (String × Json) → Bool
  | [] => true
  | (_, value) :: members => isIntegral value && haveIntegral members

end

mutual

/-- The tokens that a value is written with. -/
def lexemes : Json → List Token
  | .null => [.null]
  | .bool b => [.bool b]
  | .number n => [.number n.numeral]
  | .string s => [.string (pieces s)]
  | .array [] => [.openArray, .closeArray]
  | .array (item :: items) => .openArray :: (lexemes item ++ itemLexemes items)
  | .object [] => [.openObject, .closeObject]
  | .object ((name, value) :: members) =>
    .openObject :: .string (pieces name) :: .colon :: (lexemes value ++ memberLexemes members)

/-- The tokens of the items of an array after the first, with the bracket that closes it. -/
def itemLexemes : List Json → List Token
  | [] => [.closeArray]
  | item :: items => .comma :: (lexemes item ++ itemLexemes items)

/-- The tokens of the members of an object after the first, with the brace that closes it. -/
def memberLexemes : List (String × Json) → List Token
  | [] => [.closeObject]
  | (name, value) :: members =>
    .comma :: .string (pieces name) :: .colon :: (lexemes value ++ memberLexemes members)

end

/-- A token that starts with a digit is a number. -/
theorem lexToken_of_isDigit {c : Char} (digit : c.isDigit = true) (rest : List Glyph) :
    lexToken (some c :: rest) =
      (lexNumber false (some c :: rest)).map (fun (n, rest) => (.number n, rest)) := by
  rw [lexToken]
  all_goals
    intro _ same
    cases same
    exact absurd digit (by decide)

theorem isSpace_of_isDigit {c : Char} (digit : c.isDigit = true) : isSpace (some c) = false := by
  have other (space : Char) (blank : space.isDigit = false) : some c ≠ some space := by
    rintro ⟨⟩
    exact absurd digit (by rw [blank]; decide)
  rw [isSpace, decide_eq_false (other ' ' rfl), decide_eq_false (other '\t' rfl),
    decide_eq_false (other '\n' rfl), decide_eq_false (other '\r' rfl)]
  rfl

/-- Glyphs that the lexer takes apart into the given tokens. -/
def Lexes (glyphs : List Glyph) (read : List Token) : Prop :=
  ∀ fuel, glyphs.length ≤ fuel → tokensWith fuel glyphs = some read

namespace Lexes

theorem nil : Lexes [] [] := by
  intro fuel _
  cases fuel <;> rfl

variable {rest : List Glyph} {read : List Token} (lexes : Lexes rest read)

include lexes

/-- A token is read off the front of what it lexes from. -/
theorem token {first : Glyph} (further : List Glyph) {token : Token}
    (solid : isSpace first = false)
    (lexed : lexToken (first :: (further ++ rest)) = some (token, rest)) :
    Lexes (first :: (further ++ rest)) (token :: read) := by
  intro fuel enough
  cases fuel with
  | zero => exact absurd enough (Nat.not_succ_le_zero _)
  | succ fuel =>
      have left : rest.length ≤ fuel := by
        rw [List.length_cons, List.length_append] at enough
        omega
      rw [tokensWith, solid, if_neg Bool.false_ne_true, lexed]
      dsimp only
      rw [lexes fuel left, Option.map_some]

/-- A punctuation mark is a token of one glyph. -/
theorem mark {first : Glyph} {token : Token} (solid : isSpace first = false)
    (lexed : lexToken (first :: rest) = some (token, rest)) :
    Lexes (first :: rest) (token :: read) :=
  lexes.token [] solid lexed

/-- A printed text is one token. -/
theorem string (s : String) :
    Lexes ((stringChars s.toList).map some ++ rest) (.string (pieces s) :: read) := by
  have lexed : lexToken (some '"' ::
      ((s.toList.flatMap escapeChar ++ ['"']).map some ++ rest)) =
        some (.string (pieces s), rest) := by
    rw [List.map_append, List.append_assoc, lexToken]
    change (lexString ((s.toList.flatMap escapeChar).map some ++ some '"' :: rest)).map _ = _
    rw [lexString_flatMap]
    rfl
  exact lexes.token _ rfl lexed

theorem name (s : String) :
    Lexes ((stringChars s.toList).map some ++ some ':' :: rest)
      (.string (pieces s) :: .colon :: read) :=
  (lexes.mark rfl rfl : Lexes (some ':' :: rest) _).string s

/-- Printed digits are one token, when no more digits follow. -/
theorem digits (n : ℕ) (follows : Follows rest) :
    Lexes ((natChars n).map some ++ rest) (.number (integral false n) :: read) := by
  have lexed := lexNumber_natChars false n follows
  have numeric : ∀ c ∈ natChars n, c.isDigit = true := fun _ =>
    Nat.isDigit_of_mem_toDigits (by decide) (by decide)
  cases written : natChars n with
  | nil => exact absurd written Nat.toDigits_ne_nil
  | cons c cs =>
      rw [written, List.map_cons, List.cons_append] at lexed
      have digit : c.isDigit = true := numeric c (written ▸ List.mem_cons_self)
      refine lexes.token (cs.map some) (isSpace_of_isDigit digit) ?_
      rw [lexToken_of_isDigit digit, lexed]
      rfl

/-- A printed integer is one token, when what follows ends it. -/
theorem number {n : Number} (integral : (Json.number n).isIntegral = true)
    (follows : Follows rest) : Lexes (n.chars.map some ++ rest) (.number n.numeral :: read) := by
  cases n with
  | unsigned n => exact lexes.digits n.toNat follows
  | negative n =>
      by_cases negative : n.toInt < 0
      · have lexed : lexToken (some '-' :: ((natChars n.toInt.natAbs).map some ++ rest)) =
            some (.number (Json.integral true n.toInt.natAbs), rest) := by
          rw [lexToken, lexNumber_natChars true _ follows]
          rfl
        rw [Number.chars, if_pos negative, Number.numeral, decide_eq_true negative]
        exact lexes.token _ rfl lexed
      · rw [Number.chars, if_neg negative, Number.numeral, decide_eq_false negative]
        exact lexes.digits n.toInt.natAbs follows
  | float x => cases integral

end Lexes

/-- What stands after an item ends a number. -/
theorem follows_itemsChars (items : List Json) (rest : List Glyph) :
    Follows ((itemsChars items).map some ++ rest) := by
  cases items with
  | nil => exact .closeArray _
  | cons item items => exact .comma _

theorem follows_membersChars (members : List (String × Json)) (rest : List Glyph) :
    Follows ((membersChars members).map some ++ rest) := by
  cases members with
  | nil => exact .closeObject _
  | cons member members => exact .comma _

mutual

/-- A written value is taken apart into its tokens. -/
theorem lexes_chars {rest : List Glyph} {read : List Token} (lexes : Lexes rest read)
    (follows : Follows rest) : (value : Json) → value.isIntegral = true →
      Lexes (value.chars.map some ++ rest) (value.lexemes ++ read)
  | .null, _ => lexes.token [some 'u', some 'l', some 'l'] rfl rfl
  | .bool true, _ => lexes.token [some 'r', some 'u', some 'e'] rfl rfl
  | .bool false, _ => lexes.token [some 'a', some 'l', some 's', some 'e'] rfl rfl
  | .number n, integral => lexes.number integral follows
  | .string s, _ => lexes.string s
  | .array [], _ => (lexes.mark rfl rfl : Lexes (some ']' :: rest) _).mark rfl rfl
  | .array (item :: items), integral => by
      obtain ⟨first, others⟩ := (Bool.and_eq_true _ _).mp integral
      have left := lexes_itemsChars lexes items others
      have inner := lexes_chars left (follows_itemsChars items rest) item first
      simpa only [chars, lexemes, List.map_cons, List.map_append, List.cons_append,
        List.append_assoc] using (inner.mark rfl rfl : Lexes (some '[' :: _) (.openArray :: _))
  | .object [], _ => (lexes.mark rfl rfl : Lexes (some '\x7d' :: rest) _).mark rfl rfl
  | .object ((name, value) :: members), integral => by
      obtain ⟨first, others⟩ := (Bool.and_eq_true _ _).mp integral
      have left := lexes_membersChars lexes members others
      have inner := (lexes_chars left (follows_membersChars members rest) value first).name name
      simpa only [chars, lexemes, List.map_cons, List.map_append, List.cons_append,
        List.append_assoc] using (inner.mark rfl rfl : Lexes (some '\x7b' :: _) (.openObject :: _))

/-- The items of a printed array lex to their lexemes. -/
theorem lexes_itemsChars {rest : List Glyph} {read : List Token} (lexes : Lexes rest read) :
    (items : List Json) → areIntegral items = true →
      Lexes ((itemsChars items).map some ++ rest) (itemLexemes items ++ read)
  | [], _ => lexes.mark rfl rfl
  | item :: items, integral => by
      obtain ⟨first, others⟩ := (Bool.and_eq_true _ _).mp integral
      have left := lexes_itemsChars lexes items others
      have inner := lexes_chars left (follows_itemsChars items rest) item first
      simpa only [itemsChars, itemLexemes, List.map_cons, List.map_append, List.cons_append,
        List.append_assoc] using (inner.mark rfl rfl : Lexes (some ',' :: _) (.comma :: _))

theorem lexes_membersChars {rest : List Glyph} {read : List Token} (lexes : Lexes rest read) :
    (members : List (String × Json)) → haveIntegral members = true →
      Lexes ((membersChars members).map some ++ rest) (memberLexemes members ++ read)
  | [], _ => lexes.mark rfl rfl
  | (name, value) :: members, integral => by
      obtain ⟨first, others⟩ := (Bool.and_eq_true _ _).mp integral
      have left := lexes_membersChars lexes members others
      have inner := (lexes_chars left (follows_membersChars members rest) value first).name name
      simpa only [membersChars, memberLexemes, List.map_cons, List.map_append, List.cons_append,
        List.append_assoc] using (inner.mark rfl rfl : Lexes (some ',' :: _) (.comma :: _))

end

/-- A printed value is read as its lexemes. -/
theorem tokens_render {value : Json} (integral : value.isIntegral = true) :
    tokens (Text.glyphsOfText value.render) = some value.lexemes := by
  have lexes := lexes_chars .nil .nothing value integral _ (Nat.le_refl _)
  simpa only [tokens, Text.glyphsOfText, render, String.toList_ofList, List.append_nil] using lexes

end HostBridge.Json
