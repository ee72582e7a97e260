import HostBridge.Text.Combining
import HostBridge.Text.Direction
import HostBridge.Text.Joining
import HostBridge.Text.Mark

/-!
# Labels of names

What a label has to satisfy so that names cannot be mistaken for one another.  It does not begin
with a mark; invisible joiners stand only where they make a difference to be seen; and in a name
that is partly written from right to left, every label has one direction.  A label of ASCII
characters satisfies all but the last.
-/

namespace HostBridge.Web.Domain

/-- Whether a text holds ASCII characters only. -/
def isPlain (cs : List Char) : Bool := cs.all (·.toNat < 0x80)

/-- The invisible sign that keeps its neighbours from joining. -/
def nonJoiner : Char := Char.ofNat 0x200c

/-- The invisible sign that joins its neighbours. -/
def joiner : Char := Char.ofNat 0x200d

/-- Whether the nearest character that counts joins its neighbours in one of the given ways. -/
def nearestJoins (ways : List Text.Joining) (cs : List Char) : Bool :=
  (cs.find? (fun c => Text.joining c ≠ .transparent)).any (fun c => ways.contains (Text.joining c))

/-- Whether the character in front silences a vowel. -/
def followsVirama (before : List Char) : Bool :=
  before.head?.any (fun c => Text.combiningClass c = Text.viramaClass)

/-- Whether the invisible signs of a text stand in their places, with what stands before it in
reverse. -/
def joinersFit (before : List Char) : List Char → Bool
  | [] => true
  | c :: rest =>
    let fits :=
      if c = nonJoiner then
        followsVirama before || (nearestJoins [.left, .dual] before && nearestJoins [.right, .dual] rest)
      else c ≠ joiner || followsVirama before
    fits && joinersFit (c :: before) rest

/-- How many characters a label has at most, if some of them are not ASCII. -/
def maxLength : Nat := 1000

/-- Whether a label of its own satisfies what is asked of it. -/
def isFit (label : List Char) : Bool :=
  isPlain label ||
    (!label.head?.any Text.isMark && joinersFit [] label && label.length ≤ maxLength)

/-- Whether a class is of a character that is written from right to left. -/
def isFromRight (direction : Text.Direction) : Bool :=
  [.rightToLeft, .arabicLetter, .arabicNumber].contains direction

/-- Whether a name is partly written from right to left. -/
def isMixed (labels : List (List Char)) : Bool :=
  labels.any (fun label => label.any (fun c => isFromRight (Text.direction c)))

/-- The classes that have no direction of their own. -/
def neutralDirections : List Text.Direction :=
  [.europeanSeparator, .commonSeparator, .europeanTerminator, .otherNeutral, .boundaryNeutral,
    .nonspacingMark]

/-- The classes of a label without those of the marks at its end. -/
def directionsOf (label : List Char) : List Text.Direction :=
  ((label.map Text.direction).reverse.dropWhile (· = .nonspacingMark)).reverse

/-- The classes that a label from left to right may end with. -/
def leftToRightEnds : List Text.Direction := [.leftToRight, .europeanNumber]

/-- The classes that a label from right to left may end with. -/
def rightToLeftEnds : List Text.Direction :=
  [.rightToLeft, .arabicLetter, .europeanNumber, .arabicNumber]

/-- Whether classes are among those that a label may end with and the neutral ones, and the last one
is no neutral one. -/
def runsTo (ends directions : List Text.Direction) : Bool :=
  directions.all (ends ++ neutralDirections).contains && directions.getLast?.any ends.contains

/-- Whether a label has one direction, in a name that is partly written from right to left. -/
def hasOneDirection (label : List Char) : Bool :=
  let directions := directionsOf label
  match label.head?.map Text.direction with
  | none => true
  | some .leftToRight => runsTo leftToRightEnds directions
  | some .rightToLeft
  | some .arabicLetter =>
    runsTo rightToLeftEnds directions &&
      !(directions.contains .europeanNumber && directions.contains .arabicNumber)
  | some _ => false

end HostBridge.Web.Domain
