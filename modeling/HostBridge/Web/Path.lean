import HostBridge.Web.Host

/-!
# Paths of addresses

A path is followed segment by segment: `.` stays in its place and `..` goes up by one, in any
notation, and what may not stand in a path is written with percent signs.  A path that begins with a
slash never goes up beyond it.  The drive of a file has a letter and a colon, and nothing goes up
beyond the slash behind a drive.
-/

namespace HostBridge.Web

/-- How the addresses of a scheme are read: those of the web need a host, those of files may have
one, and other ones are kept as they are. -/
inductive SchemeKind where
  | web
  | file
  | other
deriving DecidableEq, Repr

/-- The schemes of the web with their ports. -/
def webSchemes : List (String × Nat) :=
  [("http", 80), ("https", 443), ("ws", 80), ("wss", 443), ("ftp", 21)]

/-- The kind of a scheme. -/
def SchemeKind.of (scheme : String) : SchemeKind :=
  if webSchemes.any (fun entry => entry.1 = scheme) then .web
  else if scheme = "file" then .file
  else .other

/-- The port of a scheme. -/
def defaultPort? (scheme : String) : Option Nat :=
  (webSchemes.find? (fun entry => entry.1 = scheme)).map Prod.snd

/-- Whether a character separates the segments of a path: only other addresses tell a backslash from
a slash. -/
def SchemeKind.isSlash (kind : SchemeKind) (c : Char) : Bool :=
  c = '/' || (kind ≠ .other && c = '\\')

/-- What is written with percent signs in a fragment. -/
def refusedInFragment : String := " \"<>\x60"

/-- What is written with percent signs in a path. -/
def refusedInPath : String := refusedInFragment ++ "#?\x7b\x7d"

namespace Path

/-- A segment that stands for the place itself. -/
def isHere (segment : List Char) : Bool :=
  ["." , "%2e"].contains (String.ofList (segment.map Char.toLower))

/-- A segment that stands for the place above. -/
def isUp (segment : List Char) : Bool :=
  ["..", ".%2e", "%2e.", "%2e%2e"].contains (String.ofList (segment.map Char.toLower))

/-- The letter of a drive at the start of a text, where nothing or the end of a segment follows
it. -/
def driveLetter? : List Char → Option Char
  | c :: d :: rest =>
    if c.isAlpha && (d = ':' || d = '|') && rest.head?.all "/\\?#".toList.contains then some c else none
  | _ => none

/-- The letter of a drive that is the whole text. -/
def drive? (segment : List Char) : Option Char :=
  if segment.length = 2 then driveLetter? segment else none

/-- A path up to its last slash, and that slash. -/
def upToSlash (path : List Char) : List Char :=
  match Text.splitLast? '/' path with
  | none => path
  | some (before, _) => before ++ ['/']

/-- What stands behind the last slash of a path. -/
def lastSegment (path : List Char) : List Char :=
  match Text.splitLast? '/' path with
  | none => path
  | some (_, after) => after

/-- Whether the slash at the end of a path may be taken away: there is another one, and no drive
stands behind that. -/
def endsBelowRoot (path : List Char) : Bool :=
  path.getLast? = some '/' &&
    match Text.splitLast? '/' path.dropLast with
    | none => false
    | some (_, segment) => (driveLetter? (segment ++ ['/'])).isNone

/-- A path without its last segment.  The drive of a file stays. -/
def pop (kind : SchemeKind) (path : List Char) : List Char :=
  if kind = .file && lastSegment path = (lastSegment path).take 1 ++ [':'] &&
      (drive? (lastSegment path)).isSome then path
  else upToSlash path

/-- The place above a path. -/
def up (kind : SchemeKind) (path : List Char) : List Char :=
  pop kind (if endsBelowRoot path then path.dropLast else path)

/-- A path with a slash at the end. -/
def withSlash (path : List Char) : List Char :=
  if path.getLast? = some '/' then path else path ++ ['/']

/-- A path that is followed, and whether it came to a drive at its root. -/
structure Walk where
  path : List Char
  atDrive : Bool

/-- Follow a segment, behind which there may be more of the path. -/
def Walk.follow (kind : SchemeKind) (walk : Walk) (segment : List Char) (more : Bool) : Walk :=
  let slash := if more then ['/'] else []
  if isUp segment then
    let above := up kind walk.path
    { walk with path := if more then withSlash above else above }
  else if isHere segment then { walk with path := withSlash walk.path }
  else
    match if kind = .file && walk.path.length = 1 then drive? segment else none with
    | some letter => ⟨walk.path ++ [letter, ':'] ++ slash, true⟩
    | none => { walk with path := walk.path ++ percentEncode refusedInPath segment ++ slash }

/-- Follow segments. -/
def Walk.followAll (kind : SchemeKind) (walk : Walk) : List (List Char) → Walk
  | [] => walk
  | [segment] => walk.follow kind segment false
  | segment :: rest => (walk.follow kind segment true).followAll kind rest

/-- Follow a route from a path.  The path of a file has one slash at its start. -/
def walk (kind : SchemeKind) (start route : List Char) : Walk :=
  let followed := Walk.followAll kind ⟨start, false⟩ (Text.splitAll kind.isSlash route)
  if kind = .file then { followed with path := '/' :: followed.path.dropWhile (· = '/') }
  else followed

end Path

end HostBridge.Web
