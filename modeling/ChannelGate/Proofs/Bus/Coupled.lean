import ChannelGate.Proofs.Bus.Topics
import ChannelGate.Proofs.Bus.Calls
import Mathlib.Data.List.Basic

set_option autoImplicit false

namespace ChannelGate

namespace Bus

variable {α β η κ : Type}

def revalue (f : α → β) (entries : List (String × α)) : List (String × β) :=
  entries.map fun entry => (entry.1, f entry.2)

/-- The same registrations with other handlers. -/
def map (f : η → κ) (bus : Bus η) : Bus κ := ⟨revalue (revalue f) bus.topics, bus.closed⟩

theorem revalue_id (entries : List (String × α)) : revalue id entries = entries :=
  List.map_id entries

theorem map_id (bus : Bus η) : bus.map id = bus := by
  have inner : revalue (id : η → η) = id := funext revalue_id
  rw [map, inner, revalue_id]

theorem lookup_revalue (f : α → β) (key : String) (entries : List (String × α)) :
    (revalue f entries).lookup key = (entries.lookup key).map f := by
  induction entries with
  | nil => rfl
  | cons entry rest ih =>
    rw [revalue, List.map_cons, lookup_cons, lookup_cons]
    rw [revalue] at ih
    by_cases same : key = entry.1
    · simp only [same, ↓reduceIte, Option.map_some]
    · simp only [same, ↓reduceIte, ih]

theorem put_revalue (f : α → β) (key : String) (value : α) (entries : List (String × α)) :
    put key (f value) (revalue f entries) = revalue f (put key value entries) := by
  induction entries with
  | nil => rfl
  | cons entry rest ih =>
    obtain ⟨other, before⟩ := entry
    have front : revalue f ((other, before) :: rest) = (other, f before) :: revalue f rest := rfl
    rw [front]
    by_cases same : other = key
    · rw [put, if_pos same, put, if_pos same]
      rfl
    · rw [put, if_neg same, put, if_neg same, ih]
      rfl

theorem remove_revalue (f : α → β) (key : String) (entries : List (String × α)) :
    remove key (revalue f entries) = revalue f (remove key entries) :=
  List.filter_map

theorem handler?_map (f : η → κ) (bus : Bus η) (id topic : String) :
    (bus.map f).handler? id topic = (bus.handler? id topic).map f := by
  simp only [handler?, map, lookup_revalue]
  cases bus.topics.lookup topic with
  | none => rfl
  | some subscribers => exact lookup_revalue f id subscribers

theorem insert_map (f : η → κ) (bus : Bus η) (id topic : String) (handler : η) :
    (bus.map f).insert id topic (f handler) = (bus.insert id topic handler).map f := by
  have inside : ((bus.topics.lookup topic).map (revalue f)).getD [] =
      revalue f ((bus.topics.lookup topic).getD []) := by
    cases bus.topics.lookup topic with
    | none => rfl
    | some subscribers => rfl
  simp only [insert, map, lookup_revalue, inside, put_revalue]

theorem erase_map (f : η → κ) (bus : Bus η) (id topic : String) :
    (bus.map f).erase id topic = (bus.erase id topic).map f := by
  simp only [erase, map, lookup_revalue]
  cases bus.topics.lookup topic with
  | none => rfl
  | some subscribers =>
    have empty : (revalue f (remove id subscribers)).isEmpty = (remove id subscribers).isEmpty :=
      List.isEmpty_map
    simp only [Option.map_some, remove_revalue, empty, put_revalue]
    split
    · rfl
    · rfl

theorem receivers_map (f : η → κ) (bus : Bus η) (subject : String) :
    (bus.map f).receivers subject = (bus.receivers subject).map f := by
  simp only [receivers, map, revalue, List.filter_map, List.flatMap_map, List.map_flatMap,
    List.map_map]
  rfl

theorem handlers_map (f : η → κ) (bus : Bus η) :
    (bus.map f).subscriptions.map Subscription.handler =
      (bus.subscriptions.map Subscription.handler).map f := by
  simp only [subscriptions, map, revalue, List.flatMap_map, List.map_flatMap, List.map_map]
  rfl

end Bus

def Call.map {η κ : Type} (f : η → κ) : Call η → Call κ
  | .subscribe id topic handler => .subscribe id topic (f handler)
  | .unsubscribe id topic => .unsubscribe id topic
  | .publish message => .publish message
  | .close => .close

theorem Call.map_id {η : Type} (call : Call η) : call.map id = call := by
  cases call with
  | subscribe id topic handler => rfl
  | unsubscribe id topic => rfl
  | publish message => rfl
  | close => rfl

namespace Coupling

variable {σ τ η κ : Type}

/-- Handlers of the left side are coupled with those that `f` makes of them. -/
structure Handlings (coupling : Coupling σ τ) (f : η → κ) (left : Handling σ η)
    (right : Handling τ κ) : Prop where
  handle : ∀ handler message,
    coupling.Couples (left.handle handler message) (right.handle (f handler) message)
  cancel : ∀ handler, coupling.Couples (left.cancel handler) (right.cancel (f handler))

/-- The registries are the same but for the handlers, and all else belongs together as before. -/
def onBus (coupling : Coupling σ τ) (f : η → κ) : Coupling (Bus η × σ) (Bus κ × τ) where
  spans := coupling.spans
  states before before' := before'.1.1 = before.1.1.map f ∧
    coupling.states (before.1.2, before.2) (before'.1.2, before'.2)
  log level message fields inside together :=
    ⟨together.1, coupling.log level message fields inside together.2⟩

section Calls

variable {coupling : Coupling σ τ} {f : η → κ} {left : Handling σ η} {right : Handling τ κ}
  {α : Type}

theorem couples_current {next : Bus η → Run (Bus η × σ) α} {next' : Bus κ → Run (Bus κ × τ) α}
    (follows : ∀ bus, (coupling.onBus f).Couples (next bus) (next' (bus.map f))) :
    (coupling.onBus f).Couples (Bus.current >>= next) (Bus.current >>= next') := by
  constructor
  rintro span span' ⟨⟨bus, state⟩, trace⟩ ⟨⟨_, state'⟩, trace'⟩ inside ⟨rfl, together⟩
  exact (follows bus).run inside ⟨rfl, together⟩

theorem couples_become (coupling : Coupling σ τ) (f : η → κ) (bus : Bus η) :
    (coupling.onBus f).Couples (Bus.become bus) (Bus.become (bus.map f)) :=
  ⟨fun _ together => ⟨rfl, rfl, together.2⟩⟩

theorem couples_elsewhere {body : Run σ α} {body' : Run τ α}
    (couples : coupling.Couples body body') :
    (coupling.onBus f).Couples (Bus.elsewhere body) (Bus.elsewhere body') := by
  constructor
  intro span span' before before' inside together
  obtain ⟨same, still⟩ := couples.run inside together.2
  exact ⟨same, together.1, still⟩

theorem couples_deliver (handlings : coupling.Handlings f left right) (message : RoutedMessage)
    (handlers : List η) :
    (coupling.onBus f).Couples (Bus.deliver left message handlers)
      (Bus.deliver right message (handlers.map f)) := by
  induction handlers with
  | nil => exact couples_pure _ ()
  | cons handler rest ih =>
    apply (couples_elsewhere (handlings.handle handler message)).bind
    intro answer
    cases answer with
    | ok accepted => exact ih
    | error error => exact (couples_log _ _ _ _).bind fun _ => ih

theorem couples_cancelEach (handlings : coupling.Handlings f left right) (handlers : List η) :
    (coupling.onBus f).Couples (Bus.cancelEach left handlers)
      (Bus.cancelEach right (handlers.map f)) := by
  induction handlers with
  | nil => exact couples_pure _ ()
  | cons handler rest ih =>
    apply (couples_elsewhere (handlings.cancel handler)).bind
    intro answer
    cases answer with
    | ok accepted => exact ih
    | error error => exact (couples_log _ _ _ _).bind fun _ => ih

/-- Calls of buses with coupled handlers are coupled. -/
theorem couples_call (handlings : coupling.Handlings f left right) (call : Call η) :
    (coupling.onBus f).Couples ((Bus.pubSub left).call call)
      ((Bus.pubSub right).call (call.map f)) := by
  have answers : ∀ answer : Except BusError Unit,
      (coupling.onBus f).Couples (pure answer) (pure answer) := couples_pure _
  cases call with
  | subscribe id topic handler =>
    apply couples_current
    intro bus
    rw [Bus.insert_map, Bus.handler?_map]
    apply Couples.ite
    · exact fun _ => answers _
    intro opened
    apply Couples.ite
    · exact fun _ => answers _
    intro named
    apply (couples_become coupling f _).bind
    intro placed
    cases bus.handler? id topic with
    | none => exact answers _
    | some handler => exact couples_elsewhere (handlings.cancel handler)
  | unsubscribe id topic =>
    apply couples_current
    intro bus
    rw [Bus.erase_map, Bus.handler?_map]
    apply Couples.ite
    · exact fun _ => answers _
    intro opened
    apply (couples_become coupling f _).bind
    intro removed
    cases bus.handler? id topic with
    | none => exact answers _
    | some handler => exact couples_elsewhere (handlings.cancel handler)
  | publish message =>
    apply couples_current
    intro bus
    rw [Bus.receivers_map]
    simp only [List.length_map]
    apply Couples.ite
    · exact fun _ => answers _
    intro opened
    apply (couples_log _ _ _ _).bind
    intro written
    exact (couples_deliver handlings message _).bind fun _ => answers _
  | close =>
    apply couples_current
    intro bus
    rw [Bus.handlers_map]
    apply Couples.ite
    · exact fun _ => answers _
    intro opened
    apply (couples_become coupling f _).bind
    intro emptied
    exact (couples_cancelEach handlings _).bind fun _ => answers _

end Calls

end Coupling

end ChannelGate
