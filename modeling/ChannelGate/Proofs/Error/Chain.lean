import ChannelGate.Error

set_option autoImplicit false

namespace ChannelGate.GatewayError

/-- An error as the cause of the failures of these operations, the outermost first. -/
def wrap (operations : List Operation) (error : GatewayError) : GatewayError :=
  operations.foldr failed error

variable {a b c : GatewayError}

@[simp] theorem wrap_nil (error : GatewayError) : wrap [] error = error := rfl

@[simp] theorem wrap_cons (op : Operation) (ops : List Operation) (error : GatewayError) :
    wrap (op :: ops) error = failed op (wrap ops error) := rfl

theorem wrap_append (outer inner : List Operation) (error : GatewayError) :
    wrap (outer ++ inner) error = wrap outer (wrap inner error) := List.foldr_append

@[simp] theorem operations_wrap (ops : List Operation) (error : GatewayError) :
    (wrap ops error).operations = ops ++ error.operations := by
  induction ops with
  | nil => rfl
  | cons op ops ih => rw [wrap_cons, operations, ih, List.cons_append]

@[simp] theorem rootCause_wrap (ops : List Operation) (error : GatewayError) :
    (wrap ops error).rootCause = error.rootCause := by
  induction ops with
  | nil => rfl
  | cons op ops ih => rw [wrap_cons, rootCause, ih]

/-- Nothing but its operations and its root cause is in an error. -/
theorem wrap_operations (error : GatewayError) : wrap error.operations error.rootCause = error := by
  induction error with
  | failed op cause ih => exact congrArg (failed op) ih
  | _ => rfl

theorem contains_failed {op : Operation} {cause other : GatewayError} :
    (failed op cause).contains other = true ↔
      failed op cause = other ∨ cause.contains other = true := by
  rw [contains, Bool.or_eq_true, decide_eq_true_eq]

theorem contains_self (error : GatewayError) : error.contains error = true := by
  rw [contains.eq_def, decide_eq_true rfl, Bool.true_or]

/-- An error holds exactly the errors that it is a wrapping of. -/
theorem contains_iff_exists_wrap {error other : GatewayError} :
    error.contains other = true ↔ ∃ ops, error = wrap ops other := by
  constructor
  · intro held
    induction error with
    | failed op cause ih =>
      rcases contains_failed.mp held with same | inside
      · exact ⟨[], same⟩
      · obtain ⟨ops, rfl⟩ := ih inside
        exact ⟨op :: ops, rfl⟩
    | _ =>
      simp only [contains, Bool.or_false, decide_eq_true_eq] at held
      exact ⟨[], held⟩
  · intro given
    obtain ⟨ops, rfl⟩ := given
    induction ops with
    | nil => exact contains_self other
    | cons op ops ih => exact contains_failed.mpr (.inr ih)

theorem contains_trans (outer : a.contains b = true) (inner : b.contains c = true) :
    a.contains c = true := by
  obtain ⟨ops, rfl⟩ := contains_iff_exists_wrap.mp outer
  obtain ⟨more, rfl⟩ := contains_iff_exists_wrap.mp inner
  exact contains_iff_exists_wrap.mpr ⟨ops ++ more, (wrap_append ops more c).symm⟩

theorem contains_antisymm (there : a.contains b = true) (back : b.contains a = true) : a = b := by
  obtain ⟨ops, rfl⟩ := contains_iff_exists_wrap.mp there
  obtain ⟨more, again⟩ := contains_iff_exists_wrap.mp back
  -- Going there and back may not add an operation.
  have lengths := congrArg (fun error => error.operations.length) again
  simp only [operations_wrap, List.length_append] at lengths
  have none : ops = [] := List.eq_nil_of_length_eq_zero (by omega)
  rw [none, wrap_nil]

theorem rootCause_eq_of_contains (held : a.contains b = true) : a.rootCause = b.rootCause := by
  obtain ⟨ops, rfl⟩ := contains_iff_exists_wrap.mp held
  exact rootCause_wrap ops b

theorem contains_rootCause (error : GatewayError) : error.contains error.rootCause = true :=
  contains_iff_exists_wrap.mpr ⟨error.operations, (wrap_operations error).symm⟩

theorem rootCause_ne_failed (error : GatewayError) (op : Operation) (cause : GatewayError) :
    error.rootCause ≠ failed op cause := by
  induction error with
  | failed _ _ ih => exact ih
  | _ => exact nofun

/-- Of two errors in one chain, the one with more operations holds the other. -/
theorem contains_total (first : a.contains b = true) (second : a.contains c = true) :
    b.contains c = true ∨ c.contains b = true := by
  have root : b.rootCause = c.rootCause :=
    (rootCause_eq_of_contains first).symm.trans (rootCause_eq_of_contains second)
  obtain ⟨ops, rfl⟩ := contains_iff_exists_wrap.mp first
  obtain ⟨others, same⟩ := contains_iff_exists_wrap.mp second
  have joined := congrArg operations same
  rw [operations_wrap, operations_wrap] at joined
  rcases List.append_eq_append_iff.mp joined with ⟨more, _, rest⟩ | ⟨more, _, rest⟩
  · left
    rw [← wrap_operations b, rest, wrap_append, root, wrap_operations]
    exact contains_iff_exists_wrap.mpr ⟨more, rfl⟩
  · right
    rw [← wrap_operations c, rest, wrap_append, ← root, wrap_operations]
    exact contains_iff_exists_wrap.mpr ⟨more, rfl⟩

/-- Errors behave as chains. What an error holds is itself and the causes nested inside it; holding
is a partial order, and of two errors in one chain one holds the other; the root cause is held, is
no failure of an operation, and is the same all along a chain; and one more operation around an
error keeps its root cause and adds only itself to what is held. -/
theorem held_errors_form_chain (a b c : GatewayError) :
    (a.contains b = true ↔ ∃ ops, a = wrap ops b) ∧
    a.contains a = true ∧
    (a.contains b = true → b.contains c = true → a.contains c = true) ∧
    (a.contains b = true → b.contains a = true → a = b) ∧
    (a.contains b = true → a.contains c = true → b.contains c = true ∨ c.contains b = true) ∧
    (∀ op cause, a.rootCause ≠ failed op cause) ∧
    a.contains a.rootCause = true ∧
    (a.contains b = true → a.rootCause = b.rootCause) ∧
    ∀ op, (failed op a).rootCause = a.rootCause ∧
      ((failed op a).contains b = true ↔ failed op a = b ∨ a.contains b = true) :=
  ⟨contains_iff_exists_wrap, contains_self a, contains_trans, contains_antisymm, contains_total,
    rootCause_ne_failed a, contains_rootCause a, rootCause_eq_of_contains,
    fun _ => ⟨rfl, contains_failed⟩⟩

/-- A subscription failed because a subtopic could not be read. -/
theorem held_errors_form_chain_subtopic :
    let root := malformedSubtopic
    let inner := failed .parseSubtopic root
    let outer := failed .subscribe inner
    outer.contains inner = true ∧ inner.contains root = true ∧ outer.contains root = true ∧
      ¬ inner.contains outer = true ∧ outer.rootCause = root := by
  intro root inner outer
  have first : outer.contains inner = true := by decide
  have second : inner.contains root = true := by decide
  obtain ⟨_, _, trans, antisymm, _, _, _, same, _⟩ := held_errors_form_chain outer inner root
  refine ⟨first, second, trans first second, ?_, same first⟩
  exact fun back => absurd (antisymm first back) (by decide)

end ChannelGate.GatewayError
