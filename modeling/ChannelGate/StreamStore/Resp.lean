import ChannelGate.Event.Field
import ChannelGate.Text.Utf8

set_option autoImplicit false

namespace ChannelGate.Resp

def lineEnd : List UInt8 := [13, 10]

def bytes (text : String) : List UInt8 := Utf8.ofString text

def number (n : Nat) : List UInt8 := bytes (toString n)

/-- A byte string with its length in front. -/
def packItem (item : List UInt8) : List UInt8 :=
  bytes "$" ++ number item.length ++ lineEnd ++ item ++ lineEnd

def pack (arguments : List (List UInt8)) : List UInt8 :=
  bytes "*" ++ number arguments.length ++ lineEnd ++ arguments.flatMap packItem

/-- The command that adds a record to its stream and cuts the stream to about its greatest
length. -/
def appendCommand (record : Record) : List String :=
  ["XADD", record.stream, "MAXLEN", "~", toString record.maxLen, "*"] ++
    record.fields.flatMap fun field => [field.1, field.2.argument]

def pingCommand : List String := ["PING"]

def packCommand (command : List String) : List UInt8 := pack (command.map bytes)

end ChannelGate.Resp
