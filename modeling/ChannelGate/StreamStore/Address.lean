import ChannelGate.Error
import ChannelGate.Number.Digits
import ChannelGate.Url.Basic

set_option autoImplicit false

namespace ChannelGate.StreamStore

inductive AddressFault where
  | missingHost
  | secured
  | database
  | username
  | password
  | protocolVersion (written : String)
  | missingPath
  deriving DecidableEq

def AddressFault.message : AddressFault → String
  | .missingHost => "Missing hostname- InvalidClientConfig"
  | .secured => "can't connect with TLS, the feature is not enabled- InvalidClientConfig"
  | .database => "Invalid database number- InvalidClientConfig"
  | .username => "Username is not valid UTF-8 string- InvalidClientConfig"
  | .password => "Password is not valid UTF-8 string- InvalidClientConfig"
  | .protocolVersion written => "Invalid protocol version - InvalidClientConfig: " ++ written
  | .missingPath => "Missing path- InvalidClientConfig"

def schemes : List String := ["redis", "rediss", "redis+unix"]

def require (condition : Bool) (fault : AddressFault) : Except AddressFault Unit :=
  if condition then .ok () else .error fault

/-- A text is a number that can name a database. -/
def isDatabase (text : List Char) : Bool := (Number.readInt? Number.signedBound text).isSome

def isEscapedText (text : List Char) : Bool :=
  (Utf8.decode? (Percent.decodeLenient (Utf8.encode text))).isSome

def checkVersion (url : Url) : Except AddressFault Unit :=
  match url.queryValue? "protocol" with
  | none => .ok ()
  | some written =>
    require (["2", "resp2", "3", "resp3"].contains written) (.protocolVersion written)

def trimSlashes (text : List Char) : List Char :=
  ((text.dropWhile (· = '/')).reverse.dropWhile (· = '/')).reverse

def checkHost (url : Url) : Except AddressFault Unit := do
  require (url.host ≠ .missing) .missingHost
  require (url.scheme ≠ "rediss") .secured
  let database := trimSlashes url.path
  require (database.isEmpty || isDatabase database) .database
  require (isEscapedText url.username) .username
  require (url.password.all isEscapedText) .password
  checkVersion url

/-- The URL names no other machine. -/
def isLocal (url : Url) : Bool :=
  url.host = .missing || url.host = .name "localhost".toList

def checkSocket (url : Url) : Except AddressFault Unit := do
  require (url.path.head? = some '/' && isLocal url) .missingPath
  require ((url.queryValue? "db").all fun text => isDatabase text.toList) .database
  checkVersion url

def checkAddress (url : Url) : Except AddressFault Unit :=
  if url.scheme = "redis+unix" then checkSocket url else checkHost url

/-- Makes sure that a text is the URL of a store that can be connected to. -/
def validateUrl (text : String) : Except EventError Unit :=
  match Url.parse text with
  | .error e => .error (.settings ("Invalid event store URL: " ++ e.message))
  | .ok url =>
    if !schemes.contains url.scheme then
      .error (.settings ("Unsupported event store URL scheme '" ++ url.scheme ++ "'"))
    else
      match checkAddress url with
      | .error fault => .error (.settings ("Failed to create Redis client: " ++ fault.message))
      | .ok () => .ok ()

end ChannelGate.StreamStore
