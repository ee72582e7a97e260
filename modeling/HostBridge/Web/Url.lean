import HostBridge.Web.Path

/-!
# Addresses of the web

Addresses in their parts, read as browsers read them: blanks around an address do not count, letters
of the scheme and the host have no case, `.` and `..` are resolved in paths, and what may not stand
in a part is written with percent signs.  The schemes of the web need a host, and like those of
files they take backslashes for slashes; with other schemes everything is kept as far as possible.
-/

namespace HostBridge.Web

/-- An address in its parts. -/
structure Url where
  scheme : String
  username : String
  password : String
  host : Option Host
  /-- The port, where it is not the one of the scheme. -/
  port : Option Nat
  /-- Whether two slashes stand in front of the host or of the place where it is missing. -/
  hasAuthority : Bool
  path : String
  query : Option String
  fragment : Option String
deriving DecidableEq, Repr

/-- What is written with percent signs in a query. -/
def refusedInQuery (kind : SchemeKind) : String := if kind = .other then " \"<>#" else " \"<>#'"

/-- What is written with percent signs in names and passwords. -/
def refusedInUser : String := refusedInPath ++ "/:;=@[\\]^|"

namespace Url

/-- Whether the path is one text without segments. -/
def isOpaque (url : Url) : Bool := !url.hasAuthority && url.path.toList.head? ≠ some '/'

/-- The path and the query, as they are asked for. -/
def target (url : Url) : String :=
  url.path ++ match url.query with
    | none => ""
    | some query => "?" ++ query

/-- The text of the host, if there is one. -/
def hostText? (url : Url) : Option String := url.host.map Host.text

/-- The host with the port. -/
def authority (url : Url) : String :=
  url.hostText?.getD "" ++ match url.port with
    | none => ""
    | some port => ":" ++ toString port

/-- The name and the password in front of the host. -/
def credentials (url : Url) : String :=
  if url.username = "" ∧ url.password = "" then ""
  else url.username ++ (if url.password = "" then "" else ":" ++ url.password) ++ "@"

/-- The whole text of an address.  Where no host is meant, a path does not look like one. -/
def text (url : Url) : String :=
  url.scheme ++ ":"
    ++ (if url.hasAuthority then "//" ++ url.credentials ++ url.authority
      else if ['/', '/'].isPrefixOf url.path.toList then "/." else "")
    ++ url.target
    ++ match url.fragment with
      | none => ""
      | some fragment => "#" ++ fragment

/-- The kind of the scheme. -/
def kind (url : Url) : SchemeKind := .of url.scheme

/-- What may follow a path. -/
def endsPath (c : Char) : Bool := c = '?' || c = '#'

/-- Whether a character ends what stands behind the two slashes. -/
def endsAuthority (kind : SchemeKind) (c : Char) : Bool := kind.isSlash c || endsPath c

/-- Give an address the query and the fragment that follow its path. -/
def withTail (url : Url) (tail : List Char) : Url :=
  let (front, fragment) := Text.splitFirst (· = '#') tail
  let query := match front with
    | '?' :: query => some query
    | _ => none
  { url with
    query := query.map (fun q => String.ofList (percentEncode (refusedInQuery url.kind) q))
    fragment := fragment.map (fun f => String.ofList (percentEncode refusedInFragment f)) }

/-- Give an address the path that a route leads to from a start, and what follows the route.  A file
on a drive is on this machine. -/
def withRoute (url : Url) (start cs : List Char) : Url :=
  let walked := Path.walk url.kind start (cs.takeWhile (fun c => !endsPath c))
  withTail
    { url with
      path := String.ofList walked.path
      host := if walked.atDrive then none else url.host }
    (cs.dropWhile (fun c => !endsPath c))

/-- Give an address what follows its authority.  A path behind a host begins with a slash; only
other addresses may have none. -/
def withRest (url : Url) (cs : List Char) : Url :=
  let startsWithSlash := cs.head?.any url.kind.isSlash
  if url.kind = .other then
    if cs.head?.all endsPath || startsWithSlash then url.withRoute [] cs else url.withRoute ['/'] cs
  else if url.host.isNone && startsWithSlash then url.withRoute [] cs
  else url.withRoute ['/'] (if startsWithSlash then cs.drop 1 else cs)

/-- The name and the password in front of a host, and what follows the sign behind them.  The sign
alone needs a host behind it. -/
def splitUser? (kind : SchemeKind) (cs : List Char) :
    Option (List Char × List Char × List Char) :=
  match Text.splitLast? '@' (cs.takeWhile (fun c => !endsAuthority kind c)) with
  | none => some ([], [], cs)
  | some (user, _) =>
    let rest := cs.drop (user.length + 1)
    let (username, password) := Text.splitFirst (· = ':') user
    if user.isEmpty && rest.head?.any (endsAuthority kind) then none
    else some (username, password.getD [], rest)

/-- A host and what follows it; a colon within brackets does not end a host. -/
def splitHost (kind : SchemeKind) : Bool → List Char → List Char × List Char
  | _, [] => ([], [])
  | inside, c :: rest =>
    if endsAuthority kind c || (c = ':' && !inside) then ([], c :: rest)
    else
      let within := c = '[' || (c ≠ ']' && inside)
      let (host, others) := splitHost kind within rest
      (c :: host, others)

/-- The port at the start and what follows it: at most 65535, none if it is missing or that of the
scheme. -/
def splitPort? (scheme : String) : List Char → Option (Option Nat × List Char)
  | ':' :: cs =>
    let digits := cs.takeWhile Char.isDigit
    let rest := cs.dropWhile Char.isDigit
    if !rest.head?.all "/\\?#".toList.contains then none
    else if digits.isEmpty then some (none, rest)
    else
      match Text.readNatWith? 10 0 digits with
      | none => none
      | some port =>
        if 65535 < port then none
        else some (if defaultPort? scheme = some port then none else some port, rest)
  | cs => some (none, cs)

/-- Read the host of an address that is none of a file. -/
def readHost? (kind : SchemeKind) (cs : List Char) : Option (Option Host) :=
  if cs.isEmpty then if kind = .other then some none else none
  else (if kind = .other then Host.parseOpaque? cs else Host.parse? cs).map some

/-- Read what follows the two slashes in front of a host. -/
def parseAuthority? (scheme : String) (cs : List Char) : Option Url := do
  let kind := SchemeKind.of scheme
  let (username, password, cs) ← splitUser? kind cs
  let (name, cs) := splitHost kind false cs
  let host ← readHost? kind name
  let (port, rest) ← splitPort? scheme cs
  let encode (part : List Char) : String := String.ofList (percentEncode refusedInUser part)
  if host.isNone && (cs.head? = some ':' || !username.isEmpty || !password.isEmpty) then none
  else
    return withRest
      ⟨scheme, encode username, encode password, host, port, true, "", none, none⟩ rest

/-- The host of a file, unless it is this machine. -/
def readFileHost? (cs : List Char) : Option (Option Host) :=
  if cs.isEmpty then some none
  else (Host.parse? cs).map (fun host => if host = .name "localhost" then none else some host)

/-- The address of a file, which has no host yet and no path. -/
def fileAddress : Url := ⟨"file", "", "", none, none, true, "", none, none⟩

/-- Read what follows the scheme of a file.  A drive is no host. -/
def parseFile? (cs : List Char) : Option Url :=
  match cs with
  | a :: b :: rest =>
    if SchemeKind.file.isSlash a && SchemeKind.file.isSlash b then
      let name := rest.takeWhile (fun c => !endsAuthority .file c)
      if (Path.drive? name).isSome then some (fileAddress.withRoute ['/'] rest)
      else
        (readFileHost? name).map (fun host =>
          { fileAddress with host := host }.withRest (rest.drop name.length))
    else if SchemeKind.file.isSlash a then some (fileAddress.withRoute [] cs)
    else some (fileAddress.withRoute ['/'] cs)
  | _ =>
    if cs.head?.any SchemeKind.file.isSlash then some (fileAddress.withRoute [] cs)
    else some (fileAddress.withRoute ['/'] cs)

/-- An address without a host, in a scheme that does not need one. -/
def parseHostless (scheme : String) (cs : List Char) : Url :=
  let url : Url := ⟨scheme, "", "", none, none, false, "", none, none⟩
  match cs with
  | '/' :: rest => url.withRoute ['/'] rest
  | _ =>
    withTail
      { url with path := String.ofList (percentEncode "" (cs.takeWhile (fun c => !endsPath c))) }
      (cs.dropWhile (fun c => !endsPath c))

/-- The scheme in front of a colon, in lower case, and what follows. -/
def splitScheme? (cs : List Char) : Option (String × List Char) :=
  match Text.splitFirst (· = ':') cs with
  | (c :: rest, some after) =>
    if c.isAlpha && rest.all (fun c => c.isAlphanum || "+-.".toList.contains c) then
      some (String.ofList ((c :: rest).map Char.toLower), after)
    else none
  | _ => none

/-- An address as it was written, without the blanks and breaks that do not count. -/
def significant (text : String) : List Char :=
  let isOuter (c : Char) : Bool := c.toNat ≤ 0x20
  (((text.toList.dropWhile isOuter).reverse.dropWhile isOuter).reverse).filter
    (fun c => c ≠ '\t' && c ≠ '\n' && c ≠ '\r')

/-- Read what follows a scheme. -/
def parseAfterScheme? (scheme : String) (cs : List Char) : Option Url :=
  match SchemeKind.of scheme with
  | .web => parseAuthority? scheme (cs.dropWhile SchemeKind.web.isSlash)
  | .file => parseFile? cs
  | .other =>
    match cs with
    | '/' :: '/' :: rest => parseAuthority? scheme rest
    | _ => some (parseHostless scheme cs)

/-- Read an address that has to be complete. -/
def parse? (text : String) : Option Url :=
  (splitScheme? (significant text)).bind (fun parts => parseAfterScheme? parts.1 parts.2)

/-- Read what has no scheme of its own, as seen from an address of the web. -/
def resolveRelative? (base : Url) (cs : List Char) : Option Url :=
  let isSlash := SchemeKind.web.isSlash
  match cs with
  | [] => some { base with fragment := none }
  | '#' :: _ => some { base.withTail cs with query := base.query }
  | '?' :: _ => some (base.withTail cs)
  | '/' :: '/' :: rest => parseAuthority? base.scheme rest
  | c :: rest =>
    if isSlash c then
      if rest.head?.any isSlash then parseAuthority? base.scheme (rest.dropWhile isSlash)
      else some (base.withRoute ['/'] rest)
    else some (base.withRoute (Path.pop .web base.path.toList) cs)

/-- Read an address as seen from one of the web. -/
def resolve? (base : Url) (text : String) : Option Url :=
  let cs := significant text
  match splitScheme? cs with
  | none => resolveRelative? base cs
  | some (scheme, rest) =>
    if scheme = base.scheme ∧ (rest.takeWhile SchemeKind.web.isSlash).length < 2 then
      resolveRelative? base rest
    else parseAfterScheme? scheme rest

end Url

end HostBridge.Web
