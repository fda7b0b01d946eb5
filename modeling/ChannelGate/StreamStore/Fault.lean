set_option autoImplicit false

namespace ChannelGate.Resp

/-- Why bytes are no reply: how many bytes were left there, what came that should not, what should
have come, and remarks on it, those of the innermost collection first. -/
structure Fault where
  left : Nat
  unexpected : List String
  expected : Option String
  remarks : List String
  deriving DecidableEq

namespace Fault

/-- A fault that is told by a remark. -/
def remarked (left : Nat) (remark : String) : Fault := ⟨left, [], none, [remark]⟩

def surprise (left : Nat) (unexpected : List String) (expected : Option String) : Fault :=
  ⟨left, unexpected.eraseDups, expected, []⟩

/-- Adds a remark, unless it was made already. -/
def remark (fault : Fault) (remark : String) : Fault :=
  if fault.remarks.contains remark then fault
  else { fault with remarks := fault.remarks ++ [remark] }

/-- The lines that tell a fault: what came, what should have come, and the remarks. -/
def lines (fault : Fault) : List String :=
  fault.unexpected.map ("Unexpected " ++ ·) ++
    fault.expected.toList.map ("Expected " ++ ·) ++ fault.remarks

def text (fault : Fault) (size : Nat) : String :=
  "parse error - ParseError: Parse error at " ++ toString (size - fault.left) ++ "\n" ++
    String.join (fault.lines.map (· ++ "\n"))

end Fault

/-- Why reading came to an end before a reply was complete. -/
inductive Stop where
  | incomplete
  | wrong (fault : Fault)
  deriving DecidableEq

def Stop.remark (remark : String) : Stop → Stop
  | .incomplete => .incomplete
  | .wrong fault => .wrong (fault.remark remark)

abbrev Reading := StateT (List UInt8) (Except Stop)

namespace Reading

def fail {α : Type} (fault : Fault) : Reading α := throw (.wrong fault)

def need {α : Type} : Option α → Reading α
  | some value => return value
  | none => throw .incomplete

/-- A value that the bytes at `place` have to give; otherwise there is a remark on them. -/
def expect {α : Type} (place : List UInt8) (remark : String) : Option α → Reading α
  | some value => return value
  | none => fail (.remarked place.length remark)

def remarking {α : Type} (remark : String) (read : Reading α) : Reading α := fun bytes =>
  match read bytes with
  | .ok outcome => .ok outcome
  | .error stop => .error (stop.remark remark)

/-- Reads `n` things. A fault in one of them says how many were missing then. -/
def many {α : Type} (read : Reading α) : Nat → Reading (List α)
  | 0 => return []
  | n + 1 => do
    let first ← remarking ("expected " ++ toString (n + 1) ++ " more elements") read
    return first :: (← many read n)

end Reading

end ChannelGate.Resp
