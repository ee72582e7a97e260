import HostBridge.Text.Normalize
import HostBridge.Web.Domain.Label
import HostBridge.Web.Domain.Mapping
import HostBridge.Web.Domain.Punycode

/-!
# Names of hosts

The form in which the name of a host is looked up and compared.  All characters are mapped and
composed, and the labels between points are checked.  A label with characters beyond ASCII is
written in ASCII behind `xn--`; one that is written so already has to stand for a label that would
be written the same.
-/

namespace HostBridge.Web.Domain

/-- What is written in front of a label in ASCII that stands for another one. -/
def marker : List Char := ['x', 'n', '-', '-']

/-- How many characters stand behind the marker at most. -/
def maxWrittenLength : Nat := 2000

/-- The label that the characters behind the marker stand for.  It has characters beyond ASCII, and
is mapped and composed already. -/
def unwrite? (denied : Char → Bool) (written : List Char) : Option (List Char) :=
  if !isPlain written ∨ written.isEmpty ∨ written.getLast? = some '-' ∨
      maxWrittenLength < written.length then none
  else
    (Punycode.decode? written).filter (fun label =>
      label.all (fun c => Mapping.ofHosts.keeps c && c ≠ '.' && !denied c) &&
        Text.normalize label = label)

/-- The label that is meant by one that is mapped and composed. -/
def readLabel? (denied : Char → Bool) (label : List Char) : Option (List Char) :=
  (if marker.isPrefixOf label then unwrite? denied (label.drop marker.length) else some label).filter
    isFit

/-- The form of a label in ASCII. -/
def writeLabel (label : List Char) : List Char :=
  if isPlain label then label else marker ++ Punycode.encode label

/-- The labels that are meant by the name of a host, without the characters that `denied` names. -/
def labels? (denied : Char → Bool) (name : List Char) : Option (List (List Char)) := do
  let mapped ← Mapping.ofHosts.text? name
  let composed := Text.normalize mapped
  if composed.any denied then none
  else
    let labels ← (Text.splitAll (· = '.') composed).mapM (readLabel? denied)
    if isMixed labels && !labels.all hasOneDirection then none else some labels

/-- The form of the name of a host in ASCII; nothing if it is no name. -/
def ascii? (denied : Char → Bool) (name : List Char) : Option String :=
  (labels? denied name).map (fun labels =>
    ".".intercalate (labels.map (fun label => String.ofList (writeLabel label))))

end HostBridge.Web.Domain
