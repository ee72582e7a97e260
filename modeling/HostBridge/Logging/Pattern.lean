import HostBridge.Text.Alphanumeric
import HostBridge.Text.Blank
import HostBridge.Text.Digits

/-!
# Patterns

Which texts are patterns for the value of a field.  A pattern is a regular expression with groups,
alternatives, classes of characters and repetitions.  What takes a table of all characters, namely
the shorthands for digits, blanks and words, the edges of words, and letters in either case, is
there only where the flag `u` is off; a part without that flag still matches whole characters.  A
repetition that is counted in braces, a reference to a group and a look around are no part of the
language.
-/

namespace HostBridge.Logging.Pattern

/-- How a part of a pattern is read. -/
structure Mode where
  /-- Whether letters stand for both of their cases. -/
  eitherCase : Bool
  /-- Whether the part may match all characters, and not only those of ASCII. -/
  unicode : Bool
  /-- Whether blanks and comments do not count. -/
  spaced : Bool
deriving DecidableEq, Repr

/-- How a pattern is read at its start. -/
def Mode.initial : Mode := ⟨false, true, false⟩

/-- The letters of the flags. -/
def flagLetters : List Char := ['i', 'm', 's', 'U', 'u', 'R', 'x']

/-- Switch a flag; most of them do not matter here. -/
def Mode.switch (mode : Mode) (on : Bool) (flag : Char) : Mode :=
  match flag with
  | 'i' => { mode with eitherCase := on }
  | 'u' => { mode with unicode := on }
  | 'x' => { mode with spaced := on }
  | _ => mode

/-- Drop the blanks and comments at the start; a comment lasts from a number sign to the end of the
line. -/
def dropComments : Bool → List Char → List Char
  | _, [] => []
  | true, c :: rest => dropComments (c ≠ '\n') rest
  | false, c :: rest =>
    if c = '#' then dropComments true rest
    else if Text.isBlank c then dropComments false rest
    else c :: rest

/-- Drop what does not count at the start. -/
def Mode.skip (mode : Mode) (cs : List Char) : List Char :=
  if mode.spaced then dropComments false cs else cs

/-- A part of a pattern that is not made of others. -/
inductive Atom where
  | character (c : Char)
  /-- A character below U+0100 that is written as a byte. -/
  | byte (c : Char)
  /-- A shorthand for a class, or for all other characters. -/
  | shorthand (negated : Bool)
  | any
  /-- The start or the end of a line or text. -/
  | edge
  | wordEdge
deriving DecidableEq, Repr

/-- Whether an atom may stand in a pattern. -/
def Atom.isAllowed (mode : Mode) : Atom → Bool
  | character _ => !(mode.eitherCase && mode.unicode)
  | byte c => if mode.unicode then !mode.eitherCase else c.toNat < 0x80
  | shorthand negated => !mode.unicode && !negated
  | any => mode.unicode
  | edge => true
  | wordEdge => !mode.unicode

/-- Whether an atom may be a member of a class. -/
def Atom.isMember (mode : Mode) : Atom → Bool
  | character c
  | byte c => mode.unicode || c.toNat < 0x80
  | shorthand negated => !mode.unicode && !negated
  | _ => false

/-- The character that an atom stands for, if it is one. -/
def Atom.char? : Atom → Option Char
  | character c
  | byte c => some c
  | _ => none

/-- The control characters that have a letter. -/
def controlLetters : List (Char × Char) :=
  [('a', '\x07'), ('f', '\x0c'), ('t', '\t'), ('n', '\n'), ('r', '\r'), ('v', '\x0b')]

/-- The number that so many hexadecimal digits write, and what follows them. -/
def codeOf? (mode : Mode) : Nat → Nat → List Char → Option (Nat × List Char)
  | 0, value, cs => some (value, cs)
  | digits + 1, value, cs =>
    match mode.skip cs with
    | [] => none
    | c :: rest =>
      match Text.hexValue? c with
      | none => none
      | some digit => codeOf? mode digits (16 * value + digit) rest

/-- The character whose code point so many digits write, and what follows them. -/
def charOf? (mode : Mode) (digits : Nat) (cs : List Char) : Option (Char × List Char) :=
  match codeOf? mode digits 0 cs with
  | none => none
  | some (code, rest) => if code.isValidChar then some (Char.ofNat code, rest) else none

/-- The atom behind a backslash, and what follows it.  Signs of ASCII stand for themselves. -/
def escape? (mode : Mode) : List Char → Option (Atom × List Char)
  | [] => none
  | c :: rest =>
    if c = 'x' then (charOf? mode 2 rest).map (fun read => (.byte read.1, read.2))
    else if c = 'u' then (charOf? mode 4 rest).map (fun read => (.character read.1, read.2))
    else if c = 'U' then (charOf? mode 8 rest).map (fun read => (.character read.1, read.2))
    else if ['d', 's', 'w'].contains c then some (.shorthand false, rest)
    else if ['D', 'S', 'W'].contains c then some (.shorthand true, rest)
    else if ['A', 'z'].contains c then some (.edge, rest)
    else if ['b', 'B', '<', '>'].contains c then some (.wordEdge, rest)
    else
      match controlLetters.find? (fun entry => entry.1 = c) with
      | some (_, control) => some (.character control, rest)
      | none =>
        if c.toNat < 0x80 ∧ !c.isAlphanum then some (.character c, rest) else none

/-! ## Classes -/

/-- The names of the classes that have one. -/
def classNames : List String :=
  ["alnum", "alpha", "ascii", "blank", "cntrl", "digit", "graph", "lower", "print", "punct", "space",
    "upper", "word", "xdigit"]

/-- What follows a hat, and whether there was one. -/
def dropHat : List Char → Bool × List Char
  | '^' :: rest => (true, rest)
  | cs => (false, cs)

/-- A class with a name behind its opening bracket: whether it is negated, and what follows it. -/
def namedClass? : List Char → Option (Bool × List Char)
  | ':' :: text =>
    let (negated, text) := dropHat text
    let name := String.ofList (text.takeWhile (· ≠ ':'))
    match text.dropWhile (· ≠ ':') with
    | ':' :: ']' :: rest => if classNames.contains name then some (negated, rest) else none
    | _ => none
  | _ => none

/-- What follows the opening of a class, and whether a hyphen there is a member.  A class may be
negated only where all characters may match, and a closing bracket right at its start is a
member. -/
def openClass? (mode : Mode) (cs : List Char) : Option (Bool × List Char) :=
  let (negated, cs) := dropHat (mode.skip cs)
  if mode.unicode && mode.eitherCase || !mode.unicode && negated then none
  else
    match mode.skip cs with
    | ']' :: rest => some (false, rest)
    | rest => some (true, rest)

/-- A member of a class that is one atom. -/
def classAtom? (mode : Mode) : List Char → Option (Atom × List Char)
  | [] => none
  | '\\' :: rest => escape? mode rest
  | c :: rest => some (.character c, rest)

/-- What follows a member of a class: an atom, or a range of characters in their order. -/
def member? (mode : Mode) (cs : List Char) : Option (List Char) := do
  let (first, rest) ← classAtom? mode cs
  let single := if first.isMember mode then some (mode.skip rest) else none
  match mode.skip rest with
  | '-' :: after =>
    match mode.skip after with
    | ']' :: _ => single
    | '-' :: _ => single
    | others =>
      let (last, rest) ← classAtom? mode others
      let low ← first.char?
      let high ← last.char?
      if low ≤ high ∧ first.isMember mode ∧ last.isMember mode then some rest else none
  | _ => single

/-- What follows the members of a class and its closing bracket, within so many others, one member
or sign per unit of fuel.  At the start of a class a hyphen is a member. -/
def members? (mode : Mode) : Nat → Nat → Bool → List Char → Option (List Char)
  | 0, _, _, _ => none
  | fuel + 1, depth, atStart, cs =>
    match mode.skip cs with
    | [] => none
    | ']' :: rest =>
      match depth with
      | 0 => some rest
      | depth + 1 => members? mode fuel depth false rest
    | '[' :: rest =>
      match namedClass? rest with
      | some (negated, rest) =>
        if !mode.unicode && negated then none else members? mode fuel depth false rest
      | none =>
        match openClass? mode rest with
        | none => none
        | some (atStart, rest) => members? mode fuel (depth + 1) atStart rest
    | '&' :: '&' :: rest => members? mode fuel depth false rest
    | '~' :: '~' :: rest => members? mode fuel depth false rest
    | '-' :: rest =>
      if atStart then members? mode fuel depth true rest
      else
        match rest with
        | '-' :: rest => members? mode fuel depth false rest
        | _ => (member? mode ('-' :: rest)).bind (members? mode fuel depth false)
    | cs => (member? mode cs).bind (members? mode fuel depth false)

/-- What follows a class behind its opening bracket. -/
def class? (mode : Mode) (cs : List Char) : Option (List Char) :=
  match openClass? mode cs with
  | none => none
  | some (atStart, rest) => members? mode (rest.length + 1) 0 atStart rest

/-! ## Groups -/

/-- Whether a text may be the name of a group. -/
def isName : List Char → Bool
  | [] => false
  | first :: rest =>
    (first = '_' || Text.isAlphabetic first) &&
      rest.all (fun c => ['_', '.', '[', ']'].contains c || Text.isAlphanumeric c)

/-- The name of a group up to the angle bracket, and what follows that.  No two groups share a
name. -/
def groupName? (names : List (List Char)) (cs : List Char) : Option (List Char × List Char) :=
  let name := cs.takeWhile (· ≠ '>')
  match cs.dropWhile (· ≠ '>') with
  | '>' :: rest => if isName name && !names.contains name then some (name, rest) else none
  | _ => none

/-- The mode that flags make, whether a colon ends them and not a bracket, and what follows.  No
flag stands twice, a minus sign stands once and not at the end, and a bracket does not stand
alone. -/
def flags? (mode : Mode) (seen : List Char) (on : Bool) : List Char → Option (Mode × Bool × List Char)
  | [] => none
  | c :: rest =>
    if c = ':' ∨ c = ')' then
      if seen.head? = some '-' ∨ (c = ')' ∧ seen.isEmpty) then none else some (mode, c = ':', rest)
    else if seen.contains c then none
    else if c = '-' then flags? mode (c :: seen) false rest
    else if flagLetters.contains c then flags? (mode.switch on c) (c :: seen) on rest
    else none

/-! ## Patterns -/

/-- A pattern that has been read in part. -/
structure Reading where
  mode : Mode
  /-- The modes outside the open groups, the innermost first. -/
  outer : List Mode
  /-- Whether there is something to repeat. -/
  repeatable : Bool
  /-- The names of the groups. -/
  names : List (List Char)

/-- Open a group that is read in a mode. -/
def Reading.enter (reading : Reading) (mode : Mode) : Reading :=
  { reading with mode := mode, outer := reading.mode :: reading.outer, repeatable := false }

/-- Open a group with a name. -/
def Reading.enterNamed? (reading : Reading) (cs : List Char) : Option (Reading × List Char) :=
  match groupName? reading.names cs with
  | none => none
  | some (name, rest) =>
    some ({ reading.enter reading.mode with names := name :: reading.names }, rest)

/-- Read on behind the opening of a group, which may be one that only switches flags. -/
def Reading.group? (reading : Reading) (cs : List Char) : Option (Reading × List Char) :=
  match reading.mode.skip cs with
  | '?' :: 'P' :: '<' :: rest => reading.enterNamed? rest
  | '?' :: '<' :: rest => reading.enterNamed? rest
  | '?' :: rest =>
    match flags? reading.mode [] true rest with
    | none => none
    | some (mode, true, rest) => some (reading.enter mode, rest)
    | some (mode, false, rest) => some ({ reading with mode := mode, repeatable := false }, rest)
  | rest => some (reading.enter reading.mode, rest)

/-- Read on behind an atom. -/
def Reading.atom? (reading : Reading) (atom : Atom) (rest : List Char) :
    Option (Reading × List Char) :=
  if atom.isAllowed reading.mode then some ({ reading with repeatable := true }, rest) else none

/-- Read the part that begins with a character. -/
def Reading.step? (reading : Reading) (c : Char) (rest : List Char) : Option (Reading × List Char) :=
  if c = '(' then reading.group? rest
  else if c = ')' then
    match reading.outer with
    | [] => none
    | mode :: outer => some ({ reading with mode := mode, outer := outer, repeatable := true }, rest)
  else if c = '|' then some ({ reading with repeatable := false }, rest)
  else if c = '[' then
    (class? reading.mode rest).map (fun rest => ({ reading with repeatable := true }, rest))
  else if c = '?' ∨ c = '*' ∨ c = '+' then
    if reading.repeatable then some (reading, if rest.head? = some '?' then rest.drop 1 else rest)
    else none
  else if c = '\x7b' then none
  else if c = '\\' then
    match escape? reading.mode rest with
    | none => none
    | some (atom, rest) => reading.atom? atom rest
  else if c = '.' then reading.atom? .any rest
  else if c = '^' ∨ c = '$' then reading.atom? .edge rest
  else reading.atom? (.character c) rest

/-- Whether a pattern can be read to its end, one part per unit of fuel. -/
def Reading.ends : Nat → Reading → List Char → Bool
  | 0, _, _ => false
  | fuel + 1, reading, cs =>
    match reading.mode.skip cs with
    | [] => reading.outer.isEmpty
    | c :: rest =>
      match reading.step? c rest with
      | none => false
      | some (next, rest) => Reading.ends fuel next rest

/-- Whether a text is a pattern. -/
def isPattern (cs : List Char) : Bool :=
  Reading.ends (cs.length + 1) ⟨Mode.initial, [], false, []⟩ cs

end HostBridge.Logging.Pattern
