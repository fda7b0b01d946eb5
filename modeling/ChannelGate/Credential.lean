import ChannelGate.Digest.Sha256
import ChannelGate.Text.Utf8
import ChannelGate.Text.Quoted

set_option autoImplicit false

namespace ChannelGate

/-- The secret that a session presents. -/
structure Credential where
  secret : String
  deriving DecidableEq

namespace Credential

/-- What stands for a secret wherever it would be shown. -/
def redacted : String := "<REDACTED>"

/-- The SHA-256 digest of the secret, in hexadecimal. -/
def fingerprint (credential : Credential) : String :=
  Sha256.hexDigest (Utf8.ofString credential.secret)

/-- The first eight digits of the fingerprint, enough to tell log lines apart. -/
def shortFingerprint (credential : Credential) : String :=
  String.ofList (credential.fingerprint.toList.take 8)

def isEmpty (credential : Credential) : Bool := credential.secret = ""

def display (_ : Credential) : String := redacted

def inspect (credential : Credential) : String :=
  "Credential \x7b secret: " ++ Quoted.quote credential.display ++ " \x7d"

end Credential

/-- One connected client: its id, the identity it claims and the secret it presents. -/
structure Session where
  id : String
  principal : String
  credential : Credential
  deriving DecidableEq

def Session.inspect (session : Session) : String :=
  "Session \x7b id: " ++ Quoted.quote session.id ++ ", principal: " ++
    Quoted.quote session.principal ++ ", credential: " ++ session.credential.inspect ++ " \x7d"

end ChannelGate
