import ChannelGate.Event.Metrics

set_option autoImplicit false

namespace ChannelGate

/-- No two metrics have the same name. -/
theorem Metric.name_injective {metric other : Metric} (same : metric.name = other.name) :
    metric = other := by
  cases metric <;> cases other <;> first | rfl | exact absurd same (by decide)

namespace Registry

variable {ι : Type} {registry : Registry ι} {owner : ι} {metrics : List Metric}

def adding (registry : Registry ι) (owner : ι) (metrics : List Metric) : Registry ι :=
  { registry with entries := registry.entries ++ metrics.map fun metric => (metric, owner) }

/-- How the registration of metrics ends, and what the registry is like then: it shows all of them,
or those in front of the first whose name was taken. -/
inductive Registered (registry : Registry ι) (owner : ι) (metrics : List Metric) :
    Except String Unit → Registry ι → Prop where
  | whole (free : ∀ metric ∈ metrics, registry.holds metric = false) :
    Registered registry owner metrics (.ok ()) (registry.adding owner metrics)
  | partway {front rest : List Metric} {taken : Metric} (order : metrics = front ++ taken :: rest)
    (free : ∀ metric ∈ front, registry.holds metric = false)
    (held : registry.holds taken = true) :
    Registered registry owner metrics (.error duplicate) (registry.adding owner front)

theorem adding_nil : registry.adding owner [] = registry := by
  simp [adding]

theorem adding_eq_self_iff : registry.adding owner metrics = registry ↔ metrics = [] := by
  constructor
  · intro same
    have entries : (registry.adding owner metrics).entries = registry.entries := by rw [same]
    have none := List.append_right_eq_self.mp entries
    exact List.map_eq_nil_iff.mp none
  · intro none
    rw [none, adding_nil]

theorem adding_adding {front back : List Metric} :
    (registry.adding owner front).adding owner back = registry.adding owner (front ++ back) := by
  simp [adding]

/-- A metric takes no name but its own. -/
theorem holds_adding_of_ne {metric other : Metric} (apart : other ≠ metric) :
    (registry.adding owner [metric]).holds other = registry.holds other := by
  have free : (metric.name = other.name) = False :=
    eq_false fun same => apart (Metric.name_injective same).symm
  simp [holds, adding, free]

/-- A metric whose name is free is registered in front of others. -/
theorem Registered.cons {metric : Metric} {rest : List Metric} {answer : Except String Unit}
    {after : Registry ι} (apart : metric ∉ rest) (free : registry.holds metric = false)
    (later : Registered (registry.adding owner [metric]) owner rest answer after) :
    Registered registry owner (metric :: rest) answer after := by
  have unchanged : ∀ other ∈ rest,
      (registry.adding owner [metric]).holds other = registry.holds other := by
    intro other member
    exact holds_adding_of_ne fun same => apart (same ▸ member)
  cases later with
  | whole all =>
    rw [adding_adding]
    refine .whole (List.forall_mem_cons.mpr ⟨free, ?_⟩)
    intro other member
    rw [← unchanged other member]
    exact all other member
  | partway order front held =>
    subst order
    rw [adding_adding]
    rw [unchanged _ (List.mem_append_right _ List.mem_cons_self)] at held
    refine .partway rfl (List.forall_mem_cons.mpr ⟨free, ?_⟩) held
    intro other member
    rw [← unchanged other (List.mem_append_left _ member)]
    exact front other member

theorem registered (distinct : metrics.Nodup) :
    Registered registry owner metrics (registry.registerEach owner metrics).1
      (registry.registerEach owner metrics).2 := by
  induction metrics generalizing registry with
  | nil =>
    have whole : Registered registry owner [] (.ok ()) (registry.adding owner []) :=
      .whole (List.forall_mem_nil _)
    rw [adding_nil] at whole
    exact whole
  | cons metric rest ih =>
    obtain ⟨apart, distinct⟩ := List.nodup_cons.mp distinct
    cases held : registry.holds metric with
    | true =>
      have stopped : Registered registry owner (metric :: rest) (.error duplicate)
          (registry.adding owner []) :=
        .partway (List.nil_append _).symm (List.forall_mem_nil _) held
      rw [adding_nil] at stopped
      rw [registerEach, held]
      exact stopped
    | false =>
      rw [registerEach, held]
      exact .cons apart held (ih distinct)

/-- The registration of a publisher comes to nothing if the name of its first metric is taken. -/
theorem front_eq_nil_iff {front rest : List Metric} {taken : Metric}
    (order : Metric.all = front ++ taken :: rest)
    (free : ∀ metric ∈ front, registry.holds metric = false) (held : registry.holds taken = true) :
    front = [] ↔ registry.holds .published = true := by
  cases front with
  | nil =>
    have first : Metric.published = taken := (List.cons.inj order).1
    rw [first]
    exact iff_of_true rfl held
  | cons metric front =>
    have first : Metric.published = metric := (List.cons.inj order).1
    rw [first, free metric List.mem_cons_self]
    exact iff_of_false nofun nofun

theorem registered_all (registry : Registry ι) (owner : ι) :
    Registered registry owner Metric.all (registry.register owner).1 (registry.register owner).2 :=
  registered (by decide)

end Registry

end ChannelGate
