import ChannelGate.Policy.Request

set_option autoImplicit false

namespace ChannelGate

/-- Remembered answers: ids by fingerprint, and decisions by request. -/
structure Cache where
  identities : List (String × String)
  decisions : List (Request × Bool)
  deriving DecidableEq

namespace Cache

def empty : Cache := ⟨[], []⟩

/-- The answer that is remembered, or else the one of `ask`, which is remembered if it is no
error. -/
def through {σ κ α : Type} [BEq κ] (get : Cache → List (κ × α))
    (set : List (κ × α) → Cache → Cache) (key : κ) (ask : Run σ (Except PolicyError α)) :
    Run (Cache × σ) (Except PolicyError α) := do
  let known ← Run.onState fun (cache, state) => ((get cache).lookup key, cache, state)
  match known with
  | some answer => return .ok answer
  | none =>
    let answer ← Run.zoom Prod.snd (fun state both => (both.1, state)) ask
    match answer with
    | .ok value =>
      Run.onState fun (cache, state) => ((), set ((key, value) :: get cache) cache, state)
      return .ok value
    | .error e => return .error e

end Cache

def Policy.cached {σ : Type} (inner : Policy σ) : Policy (Cache × σ) where
  identify credential :=
    Cache.through Cache.identities (fun entries cache => { cache with identities := entries })
      credential.fingerprint (inner.identify credential)
  authorize request :=
    Cache.through Cache.decisions (fun entries cache => { cache with decisions := entries })
      request (inner.authorize request)

/-- Whether an answer that is kept for `ttl` is still there when its question comes again. No clock
runs beside a policy: an answer with no time to live is gone as soon as it is kept, and every other
one outlives the run. -/
def Cache.outlives (ttl : Nat) : Bool := 0 < ttl

/-- The policy behind a cache whose answers outlive the run, or are gone as soon as they are kept, so
that it is asked every time. -/
def Policy.behindCache {σ : Type} (outlive : Bool) (inner : Policy σ) : Policy (Cache × σ) :=
  if outlive then inner.cached else inner.zoom Prod.snd fun state both => (both.1, state)

end ChannelGate
