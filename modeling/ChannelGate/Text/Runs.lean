set_option autoImplicit false

namespace ChannelGate

/-- The first and the last code point of each run of a class, ascending and apart. -/
abbrev Runs := List (Nat × Nat)

namespace Runs

def covers (runs : Runs) (code : Nat) : Bool :=
  runs.any fun run => run.1 ≤ code && code ≤ run.2

def holds (runs : Runs) (c : Char) : Bool := runs.covers c.toNat

end Runs

end ChannelGate
