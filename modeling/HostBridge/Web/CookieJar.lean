import HostBridge.Number.Word
import HostBridge.Table
import HostBridge.Text.Blank
import HostBridge.Web.CookieDate
import HostBridge.Web.Url

/-!
# Cookie jars

A jar keeps cookies by domain, path and name.  A cookie that names a domain is for that domain and
all below it, one that does not is for the very host that set it.  Hosts are compared in the form in
which they are looked up; a host that has another text is kept and not found again.  The path of a
cookie is that of the address up to the last slash unless it says otherwise.  Secure cookies are for
encrypted and local addresses; cookies that are not for scripts are for the schemes of hypertext.  A
cookie that has expired takes the one in its place away.
-/

namespace HostBridge.Web

/-- When a cookie expires. -/
inductive Expiry where
  | never
  | at (moment : Int)
deriving DecidableEq, Repr

/-- A cookie as it was written: its name, its value and the attributes that count. -/
structure CookieText where
  name : String
  value : String
  domain : Option String
  path : Option String
  secure : Bool
  httpOnly : Bool
  /-- The seconds that the cookie lasts. -/
  maxAge : Option Nat
  expires : Option Int
deriving DecidableEq, Repr

namespace CookieText

/-- A part of a cookie without the blanks around it. -/
def trimmed (cs : List Char) : String := String.ofList (Text.trimChars cs)

/-- The seconds that an age asks for, without end if it is empty; none if it is no number. -/
def readMaxAge? (value : String) : Option Nat :=
  match value.toList with
  | [] => some int64Max.toNat
  | '-' :: digits => if digits.all Char.isDigit then some 0 else none
  | digits => Text.readNatWith? 10 0 digits

/-- Take an attribute into account; unknown ones do not count. -/
def withAttribute (cookie : CookieText) (cs : List Char) : CookieText :=
  let (key, value) := Text.splitFirst (· = '=') cs
  let key := String.ofList ((Text.trimChars key).map Char.toLower)
  match key, value.map trimmed with
  | "secure", _ => { cookie with secure := true }
  | "httponly", _ => { cookie with httpOnly := true }
  | "domain", some value => if value = "" then cookie else { cookie with domain := some value }
  | "path", some value => { cookie with path := some value }
  | "max-age", some value =>
    match readMaxAge? value with
    | none => cookie
    | some age => { cookie with maxAge := some age }
  | "expires", some value =>
    match readCookieDate? value with
    | none => cookie
    | some moment => { cookie with expires := some moment }
  | _, _ => cookie

/-- Read a cookie: a pair with a name, and attributes. -/
def parse? (text : String) : Option CookieText :=
  match Text.splitAll (· = ';') text.toList with
  | [] => none
  | pair :: attributes =>
    match Text.splitFirst (· = '=') pair with
    | (_, none) => none
    | (name, some value) =>
      if trimmed name = "" then none
      else
        some (attributes.foldl withAttribute
          ⟨trimmed name, trimmed value, none, none, false, false, none, none⟩)

/-- When the cookie expires, if it is set at a moment; an age decides over a date. -/
def expiry (cookie : CookieText) (now : Int) : Expiry :=
  match cookie.maxAge, cookie.expires with
  | some age, _ => if age = 0 then .at 0 else .at (now + age)
  | none, some moment => .at moment
  | none, none => .never

end CookieText

/-- For which hosts a cookie is. -/
inductive CookieDomain where
  | host (name : String)
  | suffix (name : String)
deriving DecidableEq, Repr

namespace CookieDomain

/-- The name under which cookies of a domain are kept. -/
def name : CookieDomain → String
  | host kept => kept
  | suffix kept => kept

/-- Whether a text is an address of four bytes, which has no hosts below it. -/
def isNumeric (text : String) : Bool := (readOctets? text.toList).isSome

/-- Whether a cookie of a domain is for the host with a text. -/
def covers : CookieDomain → String → Bool
  | .host kept, asked => kept = asked
  | .suffix kept, asked =>
    kept = asked || (!isNumeric asked && ("." ++ kept).toList.isSuffixOf asked.toList)

/-- The domain with a name and all below it, for a name that is brought to the form of hosts first;
a point in front of it does not count.  Nothing for an empty name. -/
def below? (name : String) : Option (Option CookieDomain) :=
  (Domain.ascii? (fun _ => false) (Text.trimChars name.toList)).map (fun ascii =>
    match ascii.toList with
    | [] => none
    | '.' :: rest => some (suffix (String.ofList rest))
    | _ => some (suffix ascii))

/-- Whether cookies that are kept under a name are looked through for a host. -/
def nameCovers (name asked : String) : Bool :=
  ((below? name).bind id).any (fun domain => domain.covers asked)

end CookieDomain

/-- A cookie in a jar. -/
structure StoredCookie where
  value : String
  domain : CookieDomain
  secure : Bool
  httpOnly : Bool
  expiry : Expiry
deriving DecidableEq, Repr

/-- Where a cookie is kept. -/
structure CookieKey where
  domain : String
  path : String
  name : String
deriving DecidableEq, Repr

/-- The cookies, and the present moment. -/
structure CookieJar where
  cookies : Table CookieKey StoredCookie
  now : Int

/-- Whether an address is one of hypertext. -/
def Url.isHypertext (url : Url) : Bool := "http".toList.isPrefixOf url.scheme.toList

/-- Whether secure cookies may go to an address. -/
def Url.isSecure (url : Url) : Bool := url.scheme = "https" || url.host.any Host.isLoopback

/-- The path of a cookie that does not say otherwise. -/
def defaultCookiePath (url : Url) : String :=
  if url.isOpaque then "/"
  else
    match Text.splitLast? '/' url.path.toList with
    | none => "/"
    | some (before, _) => if before.isEmpty then "/" else String.ofList before

/-- The path of a cookie that is set at an address. -/
def cookiePath (cookie : CookieText) (url : Url) : String :=
  match cookie.path with
  | some path => if path.toList.head? = some '/' then path else defaultCookiePath url
  | none => defaultCookiePath url

/-- Whether a cookie with a path is for an address. -/
def pathCovers (path : String) (url : Url) : Bool :=
  !url.isOpaque &&
    (path = url.path ||
      (path.toList.isPrefixOf url.path.toList &&
        (path.toList.getLast? = some '/' || url.path.toList[path.length]? = some '/')))

/-- The domain of a cookie that is set at an address; none if the cookie names one that is no
domain, or if the address is outside of it. -/
def cookieDomain? (cookie : CookieText) (url : Url) : Option CookieDomain := do
  let host ← url.host
  let named ← match cookie.domain with
    | none => some none
    | some name => CookieDomain.below? (Text.withoutFirst '.' name)
  let domain := named.getD (.host host.mixedText)
  if domain.covers host.text then return domain else none

namespace CookieJar

/-- A jar without cookies. -/
def empty (now : Int) : CookieJar := ⟨Table.empty, now⟩

/-- Whether a cookie has expired. -/
def isExpired (jar : CookieJar) (cookie : StoredCookie) : Bool :=
  match cookie.expiry with
  | .never => false
  | .at moment => moment ≤ jar.now

/-- Put a cookie that was set at an address into the jar.  A cookie that does not fit its address,
or would take the place of one that is not for scripts, is ignored. -/
def add (jar : CookieJar) (url : Url) (cookie : CookieText) : CookieJar :=
  match cookieDomain? cookie url with
  | none => jar
  | some domain =>
    let key : CookieKey := ⟨domain.name, cookiePath cookie url, cookie.name⟩
    let stored : StoredCookie :=
      ⟨cookie.value, domain, cookie.secure, cookie.httpOnly, cookie.expiry jar.now⟩
    let hidden := cookie.httpOnly || (jar.cookies.find? key).any StoredCookie.httpOnly
    if hidden && !url.isHypertext then jar
    else if jar.isExpired stored then { jar with cookies := jar.cookies.erase key }
    else { jar with cookies := jar.cookies.insert key stored }

/-- Put the cookie that a text writes into the jar; a text that writes none is ignored. -/
def addText (jar : CookieJar) (url : Url) (text : String) : CookieJar :=
  match CookieText.parse? text with
  | none => jar
  | some cookie => jar.add url cookie

/-- Whether a cookie is for an address. -/
def applies (jar : CookieJar) (url : Url) (key : CookieKey) (cookie : StoredCookie) : Bool :=
  url.hostText?.any (fun host => CookieDomain.nameCovers key.domain host && cookie.domain.covers host)
    && pathCovers key.path url && !jar.isExpired cookie
    && (!cookie.secure || url.isSecure) && (!cookie.httpOnly || url.isHypertext)

/-- The pairs of the cookies for an address. -/
def pairs (jar : CookieJar) (url : Url) : List String :=
  (jar.cookies.entries.filter (fun entry => jar.applies url entry.1 entry.2)).map
    (fun entry => entry.1.name ++ "=" ++ entry.2.value)

/-- Whether a character may stand in a header field that is text. -/
def isFieldChar (c : Char) : Bool := (0x20 ≤ c.toNat && c.toNat < 0x7f) || c = '\t'

/-- The cookies for an address as one header field; none if there are none, or if they hold a
control character. -/
def header? (jar : CookieJar) (url : Url) : Option String :=
  let text := "; ".intercalate (jar.pairs url)
  if text ≠ "" && text.toList.all (fun c => isFieldChar c || 0x80 ≤ c.toNat) then some text else none

/-- The cookies for an address as plain text. -/
def text? (jar : CookieJar) (url : Url) : Option String :=
  (jar.header? url).filter (fun text => text.toList.all isFieldChar)

end CookieJar

end HostBridge.Web
