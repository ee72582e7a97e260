import HostBridge.Error
import HostBridge.Event.Bus
import HostBridge.Text.Quoted

/-!
# Configuration

Which collaborators a bridge has, which features are on and how many events are kept.  A builder
fills what was not given with the defaults of a desktop; there is no default for web views.
-/

namespace HostBridge

/-- The features that can be turned on. -/
structure Features where
  /-- Cookies go through the native store. -/
  nativeCookie : Bool
  /-- Headers of requests and responses are logged. -/
  logPayloads : Bool
deriving DecidableEq, Repr

/-- The configuration of a bridge: the collaborators that are there, and the settings. -/
structure Config where
  image : Bool
  net : Bool
  web : Bool
  cookies : Bool
  channel : Bool
  features : Features
  bufferSize : Nat
deriving DecidableEq, Repr

/-- The largest number of events that may be kept. -/
def maxBufferSize : Nat := 10000

namespace Config

/-- A configuration without collaborators and features. -/
def bare : Config := ⟨false, false, false, false, false, ⟨false, false⟩, defaultBusCapacity⟩

/-- Check the settings. -/
def validate (config : Config) : Except SetupError Unit :=
  if config.bufferSize = 0 then .error (.config "Event buffer size must be greater than 0")
  else if maxBufferSize < config.bufferSize then
    .error (.config ("Event buffer size exceeds maximum of " ++ toString maxBufferSize))
  else if config.features.nativeCookie && !config.cookies then
    .error (.config ("Native cookies enabled but no CookieStore provided. "
      ++ "Disable the feature or inject a CookieStore implementation."))
  else .ok ()

/-- What to do about a missing capability. -/
def advice : Capability → String
  | .image =>
    "Image decoding needs an ImageEngine. Desktop: enable the 'desktop-shims' feature. "
      ++ "Mobile: inject the platform bitmap bridge."
  | .net =>
    "Native requests need a NetEngine. Desktop: enable the 'desktop-shims' feature. "
      ++ "Mobile: inject the platform network stack."
  | .web => "Browser views need a host supplied WebEngine; no default exists."

/-- Whether a capability is there. -/
def has (config : Config) : Capability → Bool
  | .image => config.image
  | .net => config.net
  | .web => config.web

/-- Ask for a capability. -/
def require (config : Config) (capability : Capability) : Except SetupError Unit :=
  if config.has capability then .ok () else .error (.capabilityMissing capability (advice capability))

/-- The text of a collaborator that may be missing. -/
def shownPart (name : String) (present : Bool) : String :=
  Text.showOption
    (if present then some (Text.quote (name ++ " " ++ Text.openBrace ++ " ... " ++ Text.closeBrace))
      else none)

/-- The diagnostic text of a configuration. -/
def shown (config : Config) : String :=
  Text.showRecord "BridgeConfig"
    [("image_engine", shownPart "ImageEngine" config.image),
      ("net_engine", shownPart "NetEngine" config.net),
      ("web_engine", shownPart "WebEngine" config.web),
      ("cookie_store", shownPart "CookieStore" config.cookies),
      ("host_channel", shownPart "HostChannel" config.channel),
      ("features", Text.showRecord "FeatureFlags"
        [("enable_native_cookie", Text.showBool config.features.nativeCookie),
          ("log_payloads", Text.showBool config.features.logPayloads)]),
      ("event_buffer_size", toString config.bufferSize)]

/-- A setting of a builder. -/
inductive Setting where
  | image
  | net
  | web
  | cookies
  | channel
  | nativeCookie (on : Bool)
  | logPayloads (on : Bool)
  | features (features : Features)
  | bufferSize (size : Nat)

/-- Apply a setting. -/
def set (config : Config) : Setting → Config
  | .image => { config with image := true }
  | .net => { config with net := true }
  | .web => { config with web := true }
  | .cookies => { config with cookies := true }
  | .channel => { config with channel := true }
  | .nativeCookie on => { config with features := { config.features with nativeCookie := on } }
  | .logPayloads on => { config with features := { config.features with logPayloads := on } }
  | .features features => { config with features := features }
  | .bufferSize size => { config with bufferSize := size }

/-- Fill the gaps that a desktop can fill. -/
def withDesktopDefaults (config : Config) : Config :=
  { config with image := true, net := true, cookies := true, channel := true }

/-- Build a configuration from settings, in their order. -/
def build (settings : List Setting) : Except SetupError Config :=
  let config := (settings.foldl set bare).withDesktopDefaults
  config.validate.map (fun () => config)

end Config

end HostBridge
