import HostBridge.Proofs.Logging.Redaction
import HostBridge.Proofs.Net.Turn

/-!
# Calls that differ in their headers

Two calls may differ in the values of sensitive headers, and in the order in which their headers are
listed.  Both can be told apart: a call that differs in both can be told again with its headers in
the other's order.

Main statement: of two runs of calls that differ in both, one can be told again such that it differs
from the other one in the values of sensitive headers only (`NetTurn.exists_arranged`).
-/

namespace HostBridge

open Logging (isSensitive)

/-- Two turns that differ at most in the headers of the request and in those of metadata that can be
read. -/
structure NetTurn.Alike (relation : Headers → Headers → Prop) (turn other : NetTurn) : Prop where
  request : other.request = { turn.request with headers := other.request.headers }
  headers : relation turn.request.headers other.request.headers
  reply : turn.reply = other.reply ∨ ∃ info headers, turn.info? = some info ∧
    other.info? = some { info with headers := headers } ∧ relation info.headers headers ∧
      turn.reply.tail = other.reply.tail
  started : other.started = turn.started
  ended : other.ended = turn.ended

/-- The headers differ in the values of sensitive names, and list their names in one order. -/
structure Logging.Aligned (headers others : Headers) : Prop extends
    Logging.Agrees headers others where
  order : headers.keys = others.keys

namespace NetTurn

variable {turn other : NetTurn} {relation : Headers → Headers → Prop}

theorem Alike.refl (reflexive : ∀ headers, relation headers headers) (turn : NetTurn) :
    Alike relation turn turn :=
  ⟨rfl, reflexive _, .inl rfl, rfl, rfl⟩

/-- A weaker relation of headers makes more calls alike. -/
theorem Alike.mono {weaker : Headers → Headers → Prop}
    (weakens : ∀ {headers others}, relation headers others → weaker headers others)
    (alike : Alike relation turn other) : Alike weaker turn other where
  request := alike.request
  headers := weakens alike.headers
  reply := by
    rcases alike.reply with same | ⟨info, headers, read, reads, related, rest⟩
    · exact .inl same
    · exact .inr ⟨info, headers, read, reads, weakens related, rest⟩
  started := alike.started
  ended := alike.ended

/-- Calls that are alike are accepted alike. -/
theorem Alike.isAccepted (alike : Alike relation turn other) :
    other.isAccepted = turn.isAccepted := by
  rw [NetTurn.isAccepted, NetTurn.isAccepted, alike.request]

/-- Calls that are alike take the same time. -/
theorem Alike.elapsed? (alike : Alike relation turn other) : other.elapsed? = turn.elapsed? := by
  rw [NetTurn.elapsed?, NetTurn.elapsed?, alike.started, alike.ended]

end NetTurn

/-! ### Headers in another order -/

namespace Logging

/-- Two values under a sensitive name. -/
theorem aligned_insert {name : String} (sensitive : isSensitive name = true) (headers : Headers)
    (value other : String) : Aligned (headers.insert name value) (headers.insert name other) := by
  refine ⟨⟨?_, ?_⟩, ?_⟩
  · intro wanted
    rw [Table.contains, Table.contains, Table.find?_insert, Table.find?_insert]
    split
    · rfl
    · rfl
  · intro wanted plain
    have apart : wanted ≠ name := by
      rintro rfl
      exact Bool.false_ne_true (plain.symm.trans sensitive)
    rw [Table.find?_insert_of_ne _ _ apart, Table.find?_insert_of_ne _ _ apart]
  · cases found : headers.find? name with
    | none =>
        rw [headers.keys_insert_of_absent _ found, headers.keys_insert_of_absent _ found]
    | some _ =>
        rw [headers.keys_insert_of_present _ found, headers.keys_insert_of_present _ found]

/-- Two tables list the same entries, perhaps in another order. -/
def Reorders (headers others : Headers) : Prop := headers.entries.Perm others.entries

/-- The values of a table in the order in which another one lists the names. -/
def arranged (headers others : Headers) : Headers :=
  ⟨headers.entries.map (fun entry => (entry.1, (others.find? entry.1).getD entry.2)), by
    rw [List.map_map]
    exact headers.nodup⟩

variable {headers others : Headers}

theorem keys_arranged : (arranged headers others).keys = headers.keys := by
  rw [Table.keys, arranged, List.map_map]
  rfl

/-- Arranging a table changes none of its values. -/
theorem find?_arranged (agrees : Agrees headers others) (name : String) :
    (arranged headers others).find? name = others.find? name := by
  have known := agrees.names name
  rw [Table.contains, Table.contains, Table.find?, Option.isSome_map] at known
  have mapped : (arranged headers others).find? name =
      (headers.entries.find? (fun entry => entry.1 = name)).map
        (fun entry => (others.find? entry.1).getD entry.2) := by
    rw [Table.find?, arranged, List.find?_map, Option.map_map]
    rfl
  rw [mapped]
  cases found : headers.entries.find? (fun entry => entry.1 = name) with
  | none =>
      rw [found, Option.isSome_none] at known
      exact (Option.isNone_iff_eq_none.mp (Option.isSome_eq_false_iff.mp known.symm)).symm
  | some entry =>
      rw [found, Option.isSome_some] at known
      obtain ⟨value, present⟩ := Option.isSome_iff_exists.mp known.symm
      have same : entry.1 = name := by simpa using List.find?_some found
      rw [Option.map_some, same, present, Option.getD_some]

/-- The arranged table lists its names in the order of the other one. -/
theorem aligned_arranged (agrees : Agrees headers others) :
    Aligned headers (arranged headers others) := by
  refine ⟨⟨?_, ?_⟩, keys_arranged.symm⟩
  · intro name
    rw [Table.contains, Table.contains, find?_arranged agrees]
    exact agrees.names name
  · intro name plain
    rw [find?_arranged agrees]
    exact agrees.plain name plain

/-- The same entries in another order differ in no value. -/
theorem Reorders.agrees (reorders : Reorders headers others) : Agrees headers others := by
  have found (name : String) : headers.find? name = others.find? name := by
    refine Option.ext fun value => ?_
    rw [← Table.mem_entries_iff, ← Table.mem_entries_iff]
    exact reorders.mem_iff
  refine ⟨fun name => ?_, fun name _ => found name⟩
  rw [Table.contains, Table.contains, found name]

/-- The arranged table has the same entries as before. -/
theorem reorders_arranged (agrees : Agrees headers others) :
    Reorders others (arranged headers others) := by
  rw [Reorders, List.perm_ext_iff_of_nodup others.nodup_entries (Table.nodup_entries _)]
  rintro ⟨name, value⟩
  rw [Table.mem_entries_iff, Table.mem_entries_iff, find?_arranged agrees]

end Logging

namespace NetTurn

open Logging (arranged Reorders Aligned Agrees)

variable {turn other : NetTurn}

/-- A turn can be told again with its headers in the order of another one. -/
theorem Alike.arrange (alike : Alike Agrees turn other) :
    ∃ reordered, Alike Reorders other reordered ∧ Alike Aligned turn reordered := by
  have reorders := Logging.reorders_arranged alike.headers
  have aligned := Logging.aligned_arranged alike.headers
  have request :
      { other.request with headers := arranged turn.request.headers other.request.headers } =
        { turn.request with headers := arranged turn.request.headers other.request.headers } := by
    rw [alike.request]
  rcases alike.reply with same | ⟨info, headers, read, reads, agrees, rest⟩
  · refine ⟨{ other with request := { other.request with headers := arranged _ _ } },
      ⟨rfl, reorders, .inl rfl, rfl, rfl⟩,
      ⟨request, aligned, .inl same, alike.started, alike.ended⟩⟩
  · refine ⟨{ other with
        request := { other.request with headers := arranged _ _ }
        reply := Text.encodeUtf8 (NetMeta.render
          { info with headers := arranged info.headers headers }) :: other.reply.tail },
      ⟨rfl, reorders, .inr ⟨_, _, reads, info?_of_head rfl, ?_, rfl⟩, rfl, rfl⟩,
      ⟨request, aligned, .inr ⟨info, _, read, info?_of_head rfl, ?_, rest⟩, alike.started,
        alike.ended⟩⟩
    · exact Logging.reorders_arranged agrees
    · exact Logging.aligned_arranged agrees

/-- A run can be told again with its headers in the order of another one. -/
theorem exists_arranged {turns others : List NetTurn}
    (alike : List.Forall₂ (Alike Agrees) turns others) :
    ∃ reordered, List.Forall₂ (Alike Reorders) others reordered ∧
      List.Forall₂ (Alike Aligned) turns reordered := by
  induction alike with
  | nil => exact ⟨[], .nil, .nil⟩
  | cons here _ ih =>
      obtain ⟨turn, reorders, aligned⟩ := here.arrange
      obtain ⟨turns, rest, others⟩ := ih
      exact ⟨turn :: turns, .cons reorders rest, .cons aligned others⟩

end NetTurn

end HostBridge
