import HostBridge.Text.Combining
import HostBridge.Text.Composite

/-!
# Composed text

The composed form of a text.  Composites are taken apart, marks on one base are put into the order
of their classes, and what makes a composite is put together again.  Two texts that look the same
have the same composed form, as far as they hold composites and their parts only: characters that
are mere variants of others are not replaced here.  Ordering marks loses none and adds none.
-/

namespace HostBridge.Text

/-- How many marks a composite has at most. -/
def maxMarks : Nat := 3

/-- The parts of a character with at most so many marks. -/
def partsWithin : Nat → Char → List Char
  | 0, c => [c]
  | marks + 1, c =>
    match decomposition? c with
    | none => [c]
    | some (base, mark) => partsWithin marks base ++ [mark]

/-- The parts of a character. -/
def parts (c : Char) : List Char := partsWithin maxMarks c

/-- Put a mark in front of a text, behind the marks of lower classes. -/
def insertMark (mark : Char) : List Char → List Char
  | [] => [mark]
  | c :: rest =>
    if 0 < combiningClass c ∧ combiningClass c < combiningClass mark then
      c :: insertMark mark rest
    else mark :: c :: rest

/-- Put the marks on each base into the order of their classes. -/
def orderMarks : List Char → List Char
  | [] => []
  | c :: rest =>
    if combiningClass c = 0 then c :: orderMarks rest else insertMark c (orderMarks rest)

/-- Compose a text behind a base, with the marks on it that could not be composed in reverse.  A
mark behind one of its own class or a higher one does not reach the base. -/
def composeOnto (base : Char) (marks : List Char) : List Char → List Char
  | [] => base :: marks.reverse
  | c :: rest =>
    let reaches := marks.head?.all (fun mark => combiningClass mark < combiningClass c)
    match if reaches then composite? base c else none with
    | some composed => composeOnto composed marks rest
    | none =>
      if combiningClass c = 0 then base :: marks.reverse ++ composeOnto c [] rest
      else composeOnto base (c :: marks) rest

/-- Compose a text with its marks in order. -/
def compose : List Char → List Char
  | [] => []
  | c :: rest => if combiningClass c = 0 then composeOnto c [] rest else c :: compose rest

/-- The composed form of a text. -/
def normalize (cs : List Char) : List Char := compose (orderMarks (cs.flatMap parts))

end HostBridge.Text
