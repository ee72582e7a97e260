import HostBridge.Error
import HostBridge.Logging.Entry
import HostBridge.Text.Quoted

/-!
# Cookies

The bridge in front of a native cookie store.  While it is off, reading gives the empty text and
writing does nothing.  Addresses without a scheme are taken as plain web addresses.
-/

namespace HostBridge

/-- What is written in front of an address without a scheme. -/
def plainScheme : String := "http://"

/-- Whether the first four bytes of an address are the letters of a web scheme, in any case. -/
def startsLikeWebAddress (url : String) : Bool :=
  match url.toList with
  | a :: b :: c :: d :: _ => [a, b, c, d].map Char.toLower = ['h', 't', 't', 'p']
  | _ => false

/-- An address with a scheme. -/
def withScheme (url : String) : String :=
  if startsLikeWebAddress url then url else plainScheme ++ url

/-- The bridge to a cookie store: whether there is one and whether it is used. -/
structure CookieBridge where
  hasStore : Bool
  enabled : Bool
deriving DecidableEq, Repr

namespace CookieBridge

open Logging (Level Entry Component)

/-- The bridge that is off. -/
def disabled : CookieBridge := ⟨false, false⟩

/-- Whether cookies go through the store. -/
def isEnabled (bridge : CookieBridge) : Bool := bridge.enabled && bridge.hasStore

/-- What is logged when a cookie is asked for or set. -/
def entry (bridge : CookieBridge) (message url : String) : Entry :=
  Component.cookies.log .debug message [("url", url), ("enabled", Text.showBool bridge.enabled)]

/-- What is logged when the store fails. -/
def failureEntry (message url : String) (error : EngineError) : Entry :=
  Component.cookies.log .warn message [("url", url), ("error", error.message)]

/-- The address under which the store is asked to keep a cookie; none if it is not asked. -/
def setTarget? (bridge : CookieBridge) (url value : String) : Option String :=
  if bridge.isEnabled && url ≠ "" && value ≠ "" then some (withScheme url) else none

/-- What a reading comes to. -/
inductive Reading where
  /-- It is answered without the store. -/
  | answered (cookie : Option String)
  /-- The store is asked for an address. -/
  | asked (url : String)

/-- How a reading goes. -/
def reading (bridge : CookieBridge) (url : String) : Reading :=
  if !bridge.isEnabled then .answered (some "")
  else if url = "" then .answered none
  else .asked (withScheme url)

/-- The cookie that the store's answer stands for; an empty one is none. -/
def cookieOf : Except EngineError (Option String) → Option String
  | .ok cookie => cookie.filter (· ≠ "")
  | .error _ => none

/-- The diagnostic text of a bridge. -/
def shown (bridge : CookieBridge) : String :=
  let store :=
    if bridge.hasStore then
      some (Text.quote ("CookieStore " ++ Text.openBrace ++ " ... " ++ Text.closeBrace))
    else none
  Text.showRecord "CookieBridge"
    [("enabled", Text.showBool bridge.enabled), ("store", Text.showOption store)]

end CookieBridge

end HostBridge
