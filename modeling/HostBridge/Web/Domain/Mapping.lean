import HostBridge.Text.CodeTable
import HostBridge.Web.Domain.Forms
import HostBridge.Web.Domain.Letters
import HostBridge.Web.Domain.Refused
import HostBridge.Web.Domain.Supplements
import HostBridge.Web.Domain.Symbols

/-!
# Mapping of names

What becomes of a character in the name of a host: it is refused, it is replaced, possibly with
nothing, or it stays.  Replacements are such that capital letters, compatible forms and invisible
signs make no difference between names.
-/

namespace HostBridge.Web.Domain

/-- What a run of characters is replaced with.  A single code point is that of the first one of the
run and counts up with it; where the step is 2, only every other one is replaced. -/
structure Replacement where
  codes : List Nat
  step : Nat

/-- Read a replacement: code points, and a slash with the step if it is not 1. -/
def Replacement.read? (cs : List Char) : Option Replacement :=
  match Text.splitFirst (· = '/') cs with
  | (codes, none) => (Text.readCodes? codes).map (⟨·, 1⟩)
  | (codes, some step) => do return ⟨← Text.readCodes? codes, ← Text.readCode? step⟩

/-- What replaces the character that is so far behind the first one of the run. -/
def Replacement.at? (replacement : Replacement) (offset : Nat) : Option (List Char) :=
  if offset % replacement.step ≠ 0 then none
  else
    match replacement.codes with
    | [code] => some [Char.ofNat (code + offset)]
    | codes => some (codes.map Char.ofNat)

/-- A mapping: the characters that are refused, and the replacements of others. -/
structure Mapping where
  refused : Text.CodeTable Unit
  replacements : Text.CodeTable Replacement

/-- The mapping of the names of hosts. -/
@[irreducible]
def Mapping.ofHosts : Mapping where
  refused := .ofRows (fun cs => if cs.isEmpty then some () else none) refusedRows
  replacements := .ofRows Replacement.read? (letterRows ++ symbolRows ++ formRows ++ supplementRows)

namespace Mapping

variable (mapping : Mapping)

/-- Whether a character is refused. -/
def isRefused (c : Char) : Bool := (mapping.refused.find? c.toNat).isSome

/-- What a character is replaced with, if it is replaced. -/
def replacement? (c : Char) : Option (List Char) :=
  (mapping.replacements.find? c.toNat).bind (fun run => run.value.at? (c.toNat - run.first))

/-- Whether a character stays as it is. -/
def keeps (c : Char) : Bool := !mapping.isRefused c && (mapping.replacement? c).isNone

/-- What a character becomes; nothing if it is refused. -/
def char? (c : Char) : Option (List Char) :=
  if mapping.isRefused c then none else some ((mapping.replacement? c).getD [c])

/-- What a text becomes; nothing if one of its characters is refused. -/
def text? : List Char → Option (List Char)
  | [] => some []
  | c :: rest =>
    match mapping.char? c, text? rest with
    | some mapped, some others => some (mapped ++ others)
    | _, _ => none

end Mapping

end HostBridge.Web.Domain
