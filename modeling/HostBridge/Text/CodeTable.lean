import HostBridge.Text.Digits
import HostBridge.Text.Split

/-!
# Tables of code points

A property of characters as a table of runs of code points.  The rows of a table are written as
entries with blanks between them: the first code point of a run, a hyphen and the last one unless
there is only one, a colon, and what is said about the run, with code points in hexadecimal.  Runs
are in increasing order and do not overlap, so that one is found by halving.  A run that is found
covers the code point that was asked for, whatever the table holds.
-/

namespace HostBridge.Text

/-- A run of code points with what is said about it. -/
structure CodeRun (α : Type) where
  first : Nat
  last : Nat
  value : α

/-- A table of runs. -/
structure CodeTable (α : Type) where
  runs : Array (CodeRun α)

/-- The code point that hexadecimal digits write. -/
def readCode? (cs : List Char) : Option Nat :=
  if cs.isEmpty then none else readNatWith? 16 0 cs

/-- The code points that are written with points between them. -/
def readCodes? (cs : List Char) : Option (List Nat) :=
  if cs.isEmpty then some [] else (splitAll (· = '.') cs).mapM readCode?

/-- Read an entry. -/
def CodeRun.read? {α : Type} (readValue : List Char → Option α) (entry : List Char) :
    Option (CodeRun α) :=
  match splitFirst (· = ':') entry with
  | (_, none) => none
  | (codes, some value) =>
    match splitFirst (· = '-') codes with
    | (first, none) => do
      let first ← readCode? first
      return ⟨first, first, ← readValue value⟩
    | (first, some last) => do
      let first ← readCode? first
      return ⟨first, ← readCode? last, ← readValue value⟩

namespace CodeTable

variable {α : Type}

/-- The table that rows write. -/
def ofRows (readValue : List Char → Option α) (rows : List String) : CodeTable α :=
  ⟨(rows.flatMap (fun row =>
    (splitAll (· = ' ') row.toList).filterMap (CodeRun.read? readValue))).toArray⟩

/-- How many of the runs between two places start at or below a code point, counted from the first
of all. -/
def startingBelow (table : CodeTable α) (code low high : Nat) : Nat :=
  if low < high then
    let middle := (low + high) / 2
    match table.runs[middle]? with
    | none => startingBelow table code low middle
    | some run =>
      if run.first ≤ code then startingBelow table code (middle + 1) high
      else startingBelow table code low middle
  else low
termination_by high - low

/-- The run of a code point. -/
def find? (table : CodeTable α) (code : Nat) : Option (CodeRun α) :=
  (table.runs[table.startingBelow code 0 table.runs.size - 1]?).filter
    (fun run => run.first ≤ code && code ≤ run.last)

/-- What is said about a code point. -/
def value? (table : CodeTable α) (code : Nat) : Option α := (table.find? code).map CodeRun.value

end CodeTable

end HostBridge.Text
