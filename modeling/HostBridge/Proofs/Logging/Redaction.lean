import HostBridge.Logging.Sink
import HostBridge.Proofs.Table
import Mathlib.Data.List.Infix

/-!
# What redaction hides

A sensitive name contains a fragment once its letters and separators are folded, and a log that goes
through redaction does not tell apart tables that differ in the values of sensitive names only.

Main statements: which names are sensitive (`sensitivity`), what is left of a table (`masking`), and
that a sink receives the same of events whose fields differ in sensitive values only
(`Sink.receive_of_agrees`).
-/

namespace HostBridge.Logging

/-! ### Sensitive names -/

/-- A letter or separator as hyphens are written with underscores. -/
def dash (c : Char) : Char := if c = '-' then '_' else c

/-- Only a hyphen is a hyphen in lower case. -/
theorem toLower_eq_hyphen_iff (c : Char) : c.toLower = '-' ↔ c = '-' := by
  unfold Char.toLower
  split
  next upper =>
    have least : 65 ≤ c.val.toNat := UInt32.le_iff_toNat_le.mp upper.1
    have most : c.val.toNat ≤ 90 := UInt32.le_iff_toNat_le.mp upper.2
    have lowered : (c.val + ('a'.val - 'A'.val)).toNat = (c.val.toNat + 32) % 4294967296 :=
      UInt32.toNat_add _ _
    constructor
    · intro same
      have number : (c.val + ('a'.val - 'A'.val)).toNat = 45 :=
        congrArg (fun c => c.val.toNat) same
      omega
    · rintro rfl
      exact absurd least (by decide)
  · rfl

/-- Folding a character is lowering its case and then joining the two dashes. -/
theorem foldChar_eq_dash (c : Char) : foldChar c = dash c.toLower := by
  rw [foldChar, dash]
  by_cases hyphen : c = '-'
  · rw [if_pos hyphen, if_pos ((toLower_eq_hyphen_iff c).mpr hyphen)]
  · rw [if_neg hyphen, if_neg (mt (toLower_eq_hyphen_iff c).mp hyphen)]

/-- Hyphens may be replaced before the letters are lowered or after. -/
theorem foldChar_eq_toLower (c : Char) : foldChar c = (dash c).toLower := by
  rw [foldChar, dash]
  by_cases hyphen : c = '-'
  · rw [if_pos hyphen, if_pos hyphen]
    decide
  · rw [if_neg hyphen, if_neg hyphen]

/-- The search finds a fragment exactly when it is an infix. -/
theorem occursIn_iff (fragment text : List Char) :
    occursIn fragment text = true ↔ fragment <:+: text := by
  induction text with
  | nil => rw [occursIn, List.isEmpty_iff, List.infix_nil]
  | cons c text ih =>
      rw [occursIn, Bool.or_eq_true, ih, List.isPrefixOf_iff_prefix, List.infix_cons_iff]

/-- A name is sensitive when its folded letters contain a sensitive fragment. -/
theorem isSensitive_iff (name : String) :
    isSensitive name = true ↔ ∃ fragment ∈ sensitiveFragments,
      fragment.toList <:+: (name.toList.map Char.toLower).map dash := by
  have folded : name.toList.map foldChar = (name.toList.map Char.toLower).map dash := by
    rw [List.map_map]
    exact List.map_congr_left (fun c _ => foldChar_eq_dash c)
  simp only [isSensitive, folded, List.any_eq_true, occursIn_iff]

/-- Whether a name is sensitive is up to its folded letters. -/
theorem isSensitive_of_folded {name other : String}
    (same : name.toList.map foldChar = other.toList.map foldChar) :
    isSensitive name = isSensitive other := by
  rw [isSensitive, isSensitive, same]

theorem isSensitive_of_toLower {name other : String}
    (same : name.toList.map Char.toLower = other.toList.map Char.toLower) :
    isSensitive name = isSensitive other := by
  apply isSensitive_of_folded
  have folded := congrArg (List.map dash) same
  rw [List.map_map, List.map_map] at folded
  rw [funext foldChar_eq_dash]
  exact folded

theorem isSensitive_of_dash {name other : String}
    (same : name.toList.map dash = other.toList.map dash) :
    isSensitive name = isSensitive other := by
  apply isSensitive_of_folded
  have folded := congrArg (List.map Char.toLower) same
  rw [List.map_map, List.map_map] at folded
  rw [funext foldChar_eq_toLower]
  exact folded

/-- A name stays sensitive whatever is put around it. -/
theorem isSensitive_append {name : String} (sensitive : isSensitive name = true)
    (before after : String) : isSensitive (before ++ name ++ after) = true := by
  obtain ⟨fragment, listed, within⟩ := (isSensitive_iff name).mp sensitive
  refine (isSensitive_iff _).mpr ⟨fragment, listed, within.trans ?_⟩
  rw [String.toList_append, String.toList_append]
  exact ((List.infix_append _ _ _).map _).map _

/-- Which names are sensitive. -/
structure Sensitivity : Prop where
  contains : ∀ name, isSensitive name = true ↔ ∃ fragment ∈ sensitiveFragments,
    fragment.toList <:+: (name.toList.map Char.toLower).map dash
  lettercase : ∀ name other : String,
    name.toList.map Char.toLower = other.toList.map Char.toLower →
      isSensitive name = isSensitive other
  separators : ∀ name other : String, name.toList.map dash = other.toList.map dash →
    isSensitive name = isSensitive other
  widened : ∀ before name after, isSensitive name = true →
    isSensitive (before ++ name ++ after) = true

/-- Whether a name is sensitive depends on neither case, nor dashes, nor its surroundings. -/
theorem sensitivity : Sensitivity :=
  ⟨isSensitive_iff, fun _ _ => isSensitive_of_toLower, fun _ _ => isSensitive_of_dash,
    fun before _ after sensitive => isSensitive_append sensitive before after⟩

/-! ### Masked tables -/

/-- Two tables with the same names that differ in the values of sensitive ones only. -/
structure Agrees (table other : Table String String) : Prop where
  names : ∀ name, table.contains name = other.contains name
  plain : ∀ name, isSensitive name = false → table.find? name = other.find? name

/-- The value under a sensitive name is masked. -/
theorem redact_of_sensitive {name : String} (sensitive : isSensitive name = true)
    (value : String) : redact name value = mask := if_pos sensitive

theorem redact_of_plain {name : String} (plain : isSensitive name = false) (value : String) :
    redact name value = value := if_neg (Bool.eq_false_iff.mp plain)

theorem map_fst_redactHeaders (entries : List (String × String)) :
    (redactHeaders entries).map Prod.fst = entries.map Prod.fst := by
  rw [redactHeaders, List.map_map]
  rfl

/-- A redacted header is the redaction of one in the table. -/
theorem mem_redactHeaders_iff (table : Table String String) (name value : String) :
    (name, value) ∈ redactHeaders table.entries ↔
      ∃ original, table.find? name = some original ∧ value = redact name original := by
  rw [redactHeaders, List.mem_map]
  constructor
  · rintro ⟨⟨key, original⟩, listed, same⟩
    obtain ⟨rfl, rfl⟩ := Prod.mk.inj same
    exact ⟨original, (Table.mem_entries_iff _ _ _).mp listed, rfl⟩
  · rintro ⟨original, found, rfl⟩
    exact ⟨(name, original), (Table.mem_entries_iff _ _ _).mpr found, rfl⟩

/-- No redacted header is listed twice. -/
theorem nodup_redactHeaders (table : Table String String) :
    (redactHeaders table.entries).Nodup := by
  apply List.Nodup.of_map Prod.fst
  rw [map_fst_redactHeaders]
  exact table.nodup

theorem Agrees.symm {table other : Table String String} (agrees : Agrees table other) :
    Agrees other table :=
  ⟨fun name => (agrees.names name).symm, fun name plain => (agrees.plain name plain).symm⟩

/-- Tables that agree are redacted to the same values. -/
theorem Agrees.redact {table other : Table String String} (agrees : Agrees table other)
    {name value : String} (found : table.find? name = some value) :
    ∃ same, other.find? name = some same ∧
      Logging.redact name value = Logging.redact name same := by
  cases sensitive : isSensitive name with
  | false => exact ⟨value, (agrees.plain name sensitive).symm.trans found, rfl⟩
  | true =>
      have present := agrees.names name
      rw [Table.contains, found, Option.isSome_some, Table.contains] at present
      obtain ⟨same, listed⟩ := Option.isSome_iff_exists.mp present.symm
      exact ⟨same, listed, by rw [redact_of_sensitive sensitive, redact_of_sensitive sensitive]⟩

/-- Tables that agree list the same redacted headers. -/
theorem Agrees.mem_redactHeaders {table other : Table String String} (agrees : Agrees table other)
    {header : String × String} (listed : header ∈ redactHeaders table.entries) :
    header ∈ redactHeaders other.entries := by
  obtain ⟨original, found, value⟩ := (mem_redactHeaders_iff table _ _).mp listed
  obtain ⟨same, present, alike⟩ := agrees.redact found
  exact (mem_redactHeaders_iff other _ _).mpr ⟨same, present, value.trans alike⟩

/-- Nothing of the values of sensitive names is left. -/
theorem Agrees.perm {table other : Table String String} (agrees : Agrees table other) :
    (redactHeaders table.entries).Perm (redactHeaders other.entries) := by
  rw [List.perm_ext_iff_of_nodup (nodup_redactHeaders table) (nodup_redactHeaders other)]
  exact fun _ => ⟨agrees.mem_redactHeaders, agrees.symm.mem_redactHeaders⟩

/-- What is left of a table: the same names, the values of those that are not sensitive, and the
mask in place of the others. -/
structure Masking : Prop where
  names : ∀ table : Table String String,
    (redactHeaders table.entries).map Prod.fst = table.keys
  plain : ∀ (table : Table String String) (name value : String), table.find? name = some value →
    isSensitive name = false → (name, value) ∈ redactHeaders table.entries
  masked : ∀ (table : Table String String) (name value : String), table.find? name = some value →
    isSensitive name = true → (name, mask) ∈ redactHeaders table.entries
  same : ∀ table other : Table String String, Agrees table other →
    (redactHeaders table.entries).Perm (redactHeaders other.entries)

/-- Redaction lets through nothing of a sensitive value. -/
theorem masking : Masking := by
  refine ⟨fun table => map_fst_redactHeaders table.entries, ?_, ?_, fun _ _ => Agrees.perm⟩
  · intro table name value found plain
    exact (mem_redactHeaders_iff table _ _).mpr ⟨value, found, (redact_of_plain plain value).symm⟩
  · intro table name value found sensitive
    exact (mem_redactHeaders_iff table _ _).mpr
      ⟨value, found, (redact_of_sensitive sensitive value).symm⟩

/-- Entries under the same names in the same order are listed in the same order. -/
theorem eq_of_perm {entries others : List (String × String)} (perm : entries.Perm others)
    (aligned : entries.map Prod.fst = others.map Prod.fst)
    (nodup : (entries.map Prod.fst).Nodup) : entries = others := by
  induction entries generalizing others with
  | nil => exact (List.Perm.nil_eq perm)
  | cons entry entries ih =>
      cases others with
      | nil => cases aligned
      | cons other others =>
          obtain ⟨first, rest⟩ := List.cons.inj aligned
          obtain ⟨fresh, nodup⟩ := List.nodup_cons.mp nodup
          have same : entry = other := by
            rcases List.mem_cons.mp (perm.mem_iff.mp List.mem_cons_self) with same | later
            · exact same
            · exact absurd (rest.symm ▸ List.mem_map_of_mem later) fresh
          subst same
          rw [ih perm.cons_inv rest nodup]

/-- Tables that list the same names in the same order look the same once they are masked. -/
theorem Agrees.redactHeaders_eq {table other : Table String String} (agrees : Agrees table other)
    (aligned : table.keys = other.keys) :
    redactHeaders table.entries = redactHeaders other.entries := by
  apply eq_of_perm agrees.perm
  · rw [map_fst_redactHeaders, map_fst_redactHeaders]
    exact aligned
  · rw [map_fst_redactHeaders]
    exact table.nodup

/-- What is found under plain names is found in what is left of a table. -/
theorem find?_redactHeaders (entries : List (String × String)) (wanted : String → Bool)
    (plain : ∀ name, wanted name = true → isSensitive name = false) :
    (redactHeaders entries).find? (fun entry => wanted entry.1) =
      entries.find? (fun entry => wanted entry.1) := by
  induction entries with
  | nil => rfl
  | cons entry entries ih =>
      rw [redactHeaders, List.map_cons, List.find?_cons, List.find?_cons]
      dsimp only
      cases found : wanted entry.1 with
      | true =>
          have shown := redact_of_plain (plain entry.1 found) entry.2
          exact congrArg (fun value => some (entry.1, value)) shown
      | false => exact ih

/-! ### Events on their way to a sink -/

/-- An entry holds what is left of the fields that it is made of. -/
theorem Entry.record_eq {fields others : List (String × String)}
    (same : redactHeaders fields = redactHeaders others) (level : Level) (target message : String)
    (span : Option String) :
    Entry.record level target message fields span =
      Entry.record level target message others span := by
  have left (fields : List (String × String)) (entry : Entry) :
      fields.foldl (fun entry field => entry.withField field.1 (redact field.1 field.2)) entry =
        (redactHeaders fields).foldl (fun entry field => entry.withField field.1 field.2)
          entry := by
    rw [redactHeaders, List.foldl_map]
  rw [Entry.record, Entry.record, left, left, same]

/-- Two values of a field: any two texts under a sensitive name, otherwise the same. -/
structure AgreesUnder (name : String) (value other : Value) : Prop where
  shown : value.text?.isSome = other.text?.isSome
  plain : isSensitive name = false → value = other

/-- Two events that differ in the values of sensitive fields only. -/
structure Emission.Agrees (emission other : Emission) : Prop where
  level : emission.level = other.level
  target : emission.target = other.target
  name : emission.name = other.name
  message : emission.message = other.message
  spans : emission.spans = other.spans
  fields : List.Forall₂ (fun field other => field.1 = other.1 ∧ AgreesUnder field.1 field.2 other.2)
    emission.fields other.fields

/-- Values that agree under a name are redacted to the same text. -/
theorem AgreesUnder.redact {name : String} {value other : Value}
    (agrees : AgreesUnder name value other) :
    value.text?.map (Logging.redact name) = other.text?.map (Logging.redact name) := by
  cases sensitive : isSensitive name with
  | false => rw [agrees.plain sensitive]
  | true =>
      have masked : Logging.redact name = fun _ => mask := funext (redact_of_sensitive sensitive)
      have shown := agrees.shown
      rw [masked]
      cases told : value.text? with
      | none =>
          rw [told, Option.isSome_none] at shown
          rw [Option.isNone_iff_eq_none.mp (Option.isSome_eq_false_iff.mp shown.symm)]
      | some text =>
          rw [told, Option.isSome_some] at shown
          obtain ⟨other, also⟩ := Option.isSome_iff_exists.mp shown.symm
          rw [also]
          rfl

/-- What is left of the texts of fields. -/
theorem redactHeaders_texts (fields : List (String × Value)) :
    redactHeaders (fields.filterMap (fun field => field.2.text?.map (field.1, ·))) =
      fields.filterMap (fun field => (field.2.text?.map (redact field.1)).map (field.1, ·)) := by
  rw [redactHeaders, List.map_filterMap]
  congr
  funext field
  rw [Option.map_map, Option.map_map]
  rfl

/-- Emissions that agree show the same texts. -/
theorem Emission.Agrees.texts {emission other : Emission} (agrees : emission.Agrees other) :
    redactHeaders emission.texts = redactHeaders other.texts := by
  have alike {fields others : List (String × Value)}
      (agree : List.Forall₂ (fun field other => field.1 = other.1 ∧
        AgreesUnder field.1 field.2 other.2) fields others) :
      fields.filterMap (fun field =>
          (field.2.text?.map (Logging.redact field.1)).map (field.1, ·)) =
        others.filterMap (fun field =>
          (field.2.text?.map (Logging.redact field.1)).map (field.1, ·)) := by
    induction agree with
    | nil => rfl
    | cons here _ ih =>
        rw [List.filterMap_cons, List.filterMap_cons, ih, here.2.redact, here.1]
  rw [Emission.texts, Emission.texts, redactHeaders_texts, redactHeaders_texts]
  exact alike agrees.fields

/-- Whatever the filter and the sink, the values of sensitive fields do not show. -/
theorem Sink.receive_of_agrees (sink : Sink) (filter : Filter) {emission other : Emission}
    (agrees : emission.Agrees other) :
    sink.receive filter emission = sink.receive filter other := by
  have entry : emission.entry filter = other.entry filter := by
    rw [Emission.entry, Emission.entry, Emission.span?, Emission.span?, agrees.level,
      agrees.target, agrees.name, agrees.message, agrees.spans]
    exact Entry.record_eq agrees.texts _ _ _ _
  rw [Sink.receive, Sink.receive, entry, agrees.level, agrees.target]

end HostBridge.Logging
