set_option autoImplicit false

namespace ChannelGate.Result

variable {ε ε' α β : Type}

theorem bind_eq_ok_iff {first : Except ε α} {next : α → Except ε β} {value : β} :
    first >>= next = .ok value ↔ ∃ middle, first = .ok middle ∧ next middle = .ok value := by
  cases first with
  | error error =>
    constructor
    · exact nofun
    · intro steps
      obtain ⟨middle, good, _⟩ := steps
      cases good
  | ok middle =>
    constructor
    · exact fun good => ⟨middle, rfl, good⟩
    · intro steps
      obtain ⟨other, same, good⟩ := steps
      cases same
      exact good

/-- A check in front of a step: both have to succeed. -/
theorem then_eq_ok_iff {check : Except ε Unit} {next : Except ε β} {value : β} :
    (check >>= fun _ => next) = .ok value ↔ check = .ok () ∧ next = .ok value := by
  rw [bind_eq_ok_iff]
  exact ⟨fun ⟨_, checked, good⟩ => ⟨checked, good⟩, fun ⟨checked, good⟩ => ⟨(), checked, good⟩⟩

theorem bind_eq_error_iff {first : Except ε α} {next : α → Except ε β} {error : ε} :
    first >>= next = .error error ↔
      first = .error error ∨ ∃ middle, first = .ok middle ∧ next middle = .error error := by
  cases first with
  | error other =>
    constructor
    · exact fun failed => .inl (congrArg Except.error (Except.error.inj failed))
    · intro steps
      rcases steps with same | ⟨middle, good, _⟩
      · cases same
        rfl
      · cases good
  | ok middle =>
    constructor
    · exact fun failed => .inr ⟨middle, rfl, failed⟩
    · intro steps
      rcases steps with failed | ⟨other, same, failed⟩
      · cases failed
      · cases same
        exact failed

theorem mapError_eq_ok_iff {result : Except ε α} {wrap : ε → ε'} {value : α} :
    result.mapError wrap = .ok value ↔ result = .ok value := by
  cases result with
  | error error => exact ⟨nofun, nofun⟩
  | ok other =>
    constructor <;> exact fun same => congrArg Except.ok (Except.ok.inj same)

end ChannelGate.Result
