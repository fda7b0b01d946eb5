import ChannelGate.Proofs.Json.Atoms

set_option autoImplicit false

namespace ChannelGate.Json

/-- A value is read back from its text, whatever follows. -/
def Reads (value : Json) : Prop :=
  ∀ depth rest, value.render.length < depth → Follows rest →
    value? depth (value.render ++ rest) = some (value, rest)

/-- Whatever begins with a digit or a minus is read as a number. -/
theorem value?_number (depth : Nat) {c : Char} (numeric : c.isDigit = true ∨ c = '-')
    (tail : List Char) : value? (depth + 1) (c :: tail) = number? (c :: tail) := by
  have visible := isBlank_of_numeric numeric
  rw [value?, skipBlank_cons visible]
  split
  case h_7 => rfl
  all_goals
    rename_i same
    cases same
    rcases numeric with digit | same
    · cases digit
    · cases same

/-- There is always one level of depth for the value itself. -/
theorem reads_of_succ {value : Json}
    (read : ∀ depth rest, value.render.length ≤ depth → Follows rest →
      value? (depth + 1) (value.render ++ rest) = some (value, rest)) : Reads value := by
  intro depth rest room follows
  obtain ⟨depth, rfl⟩ : ∃ less, depth = less + 1 := ⟨depth - 1, by omega⟩
  exact read depth rest (Nat.le_of_lt_succ room) follows

theorem reads_integer (value : Int) : Reads (.integer value) := by
  refine reads_of_succ fun depth rest _ follows => ?_
  obtain ⟨c, tail, front, numeric⟩ := integerText_front value
  have read := number?_integerText value follows
  rw [front, List.cons_append] at read
  rw [render, front, List.cons_append, value?_number depth numeric, read]

/-- The values that are read as they are written: no number with a fraction, and no broken text. -/
inductive Plain : Json → Prop
  | null : Plain .null
  | bool (value : Bool) : Plain (.bool value)
  | integer (value : Int) : Plain (.integer value)
  | string (value : String) : Plain (.string value)
  | array (items : List Json) (each : ∀ item ∈ items, Plain item) : Plain (.array items)
  | object (members : List (String × Json)) (each : ∀ member ∈ members, Plain member.2) :
    Plain (.object members)

theorem reads_null : Reads .null := by
  refine reads_of_succ fun depth rest _ _ => ?_
  rw [value?]
  rfl

theorem reads_bool (value : Bool) : Reads (.bool value) := by
  refine reads_of_succ fun depth rest _ _ => ?_
  rw [value?]
  cases value <;> rfl

theorem reads_string (value : String) : Reads (.string value) := by
  refine reads_of_succ fun depth rest _ _ => ?_
  obtain ⟨tail, front, read⟩ := stringTail?_literal_append value rest
  rw [render, front, value?, skipBlank_cons rfl]
  simp only [read, Option.map_some, ofPieces_map_pieceOf]

/-- The text of a value has no blank in front, and does not begin like the end of an array. -/
theorem Plain.front {value : Json} (plain : Plain value) :
    ∃ c tail, value.render = c :: tail ∧ isBlank c = false ∧ c ≠ ']' := by
  cases plain with
  | null => exact ⟨'n', _, by rw [render]; rfl, rfl, by decide⟩
  | bool value =>
    cases value with
    | false => exact ⟨'f', _, by rw [render]; rfl, rfl, by decide⟩
    | true => exact ⟨'t', _, by rw [render]; rfl, rfl, by decide⟩
  | integer value =>
    obtain ⟨c, tail, front, numeric⟩ := integerText_front value
    refine ⟨c, tail, by rw [render, front], isBlank_of_numeric numeric, ?_⟩
    rintro rfl
    rcases numeric with digit | same
    · cases digit
    · cases same
  | string value => exact ⟨'"', _, by rw [render]; rfl, rfl, by decide⟩
  | array items each => exact ⟨'[', _, by rw [render]; rfl, rfl, by decide⟩
  | object members each => exact ⟨'\x7b', _, by rw [render]; rfl, rfl, by decide⟩

/-- Items that are read one by one are read together, up to the end of their array. -/
theorem items?_renderItems {items : List Json} (nonempty : items ≠ [])
    (each : ∀ item ∈ items, Reads item) (depth : Nat) (rest : List Char)
    (room : (renderItems items).length + 1 < depth) :
    items? depth (renderItems items ++ ']' :: rest) = some (items, rest) := by
  induction items generalizing depth with
  | nil => exact absurd rfl nonempty
  | cons item more ih =>
    have first : Reads item := each item List.mem_cons_self
    obtain ⟨depth, rfl⟩ : ∃ less, depth = less + 1 := ⟨depth - 1, by omega⟩
    cases more with
    | nil =>
      rw [renderItems] at room ⊢
      rw [items?, first depth _ (by omega) (follows_cons (.inr (.inl rfl)) rest)]
      simp only [Option.bind_eq_bind, Option.bind_some, skipBlank_cons (c := ']') rfl]
      rfl
    | cons next more =>
      have others := ih (List.cons_ne_nil next more)
        (fun other isOther => each other (List.mem_cons_of_mem _ isOther)) depth
      rw [renderItems] at room ⊢
      · simp only [List.length_append, List.length_cons] at room
        rw [items?, List.append_assoc, List.cons_append,
          first depth _ (by omega) (follows_cons (.inl rfl) _)]
        simp only [Option.bind_eq_bind, Option.bind_some, skipBlank_cons (c := ',') rfl]
        rw [others (by omega)]
        rfl
      · simp
      · simp

/-- Members whose values are read one by one are read together, up to the end of their object. -/
theorem members?_renderMembers {members : List (String × Json)} (nonempty : members ≠ [])
    (each : ∀ member ∈ members, Reads member.2) (depth : Nat) (rest : List Char)
    (room : (renderMembers members).length + 1 < depth) :
    members? depth (renderMembers members ++ '\x7d' :: rest) =
      some (members.map fun member => (member.1.toList.map pieceOf, member.2), rest) := by
  induction members generalizing depth with
  | nil => exact absurd rfl nonempty
  | cons member more ih =>
    obtain ⟨key, value⟩ := member
    have first : Reads value := each (key, value) List.mem_cons_self
    obtain ⟨depth, rfl⟩ : ∃ less, depth = less + 1 := ⟨depth - 1, by omega⟩
    cases more with
    | nil =>
      rw [renderMembers] at room ⊢
      simp only [List.length_append, List.length_cons] at room
      rw [members?, List.append_assoc, List.cons_append, key?_literal]
      simp only [Option.bind_eq_bind, Option.bind_some]
      rw [first depth _ (by omega) (follows_cons (.inr (.inr rfl)) rest)]
      simp only [Option.bind_some, skipBlank_cons (c := '\x7d') rfl]
      rfl
    | cons next more =>
      have others := ih (List.cons_ne_nil next more)
        (fun other isOther => each other (List.mem_cons_of_mem _ isOther)) depth
      rw [renderMembers] at room ⊢
      · simp only [List.length_append, List.length_cons] at room
        rw [members?]
        simp only [List.append_assoc, List.cons_append]
        rw [key?_literal]
        simp only [Option.bind_eq_bind, Option.bind_some]
        rw [first depth _ (by omega) (follows_cons (.inl rfl) _)]
        simp only [Option.bind_some, skipBlank_cons (c := ',') rfl]
        rw [others (by omega)]
        rfl
      · simp
      · simp

theorem ofMembers_map_pieceOf (members : List (String × Json)) :
    ofMembers (members.map fun member => (member.1.toList.map pieceOf, member.2)) =
      .object members := by
  unfold ofMembers
  have kept : (fun member : List Piece × Json =>
      (join? member.1).map fun key => (String.ofList key, member.2)) ∘
        (fun member : String × Json => (member.1.toList.map pieceOf, member.2)) = pure := by
    funext member
    simp only [Function.comp_apply, join?_map_pieceOf, Option.map_some, String.ofList_toList]
    rfl
  rw [List.mapM_map, kept, List.mapM_pure]
  simp

theorem renderItems_front {item : Json} (plain : Plain item) (more : List Json) :
    ∃ c tail, renderItems (item :: more) = c :: tail ∧ isBlank c = false ∧ c ≠ ']' := by
  obtain ⟨c, tail, front, visible, inside⟩ := plain.front
  cases more with
  | nil => exact ⟨c, tail, by rw [renderItems, front], visible, inside⟩
  | cons next more =>
    refine ⟨c, tail ++ ',' :: renderItems (next :: more), ?_, visible, inside⟩
    rw [renderItems, front, List.cons_append]
    simp

theorem renderMembers_front (member : String × Json) (more : List (String × Json)) :
    ∃ tail, renderMembers (member :: more) = '"' :: tail := by
  cases more with
  | nil =>
    rw [renderMembers]
    exact ⟨_, rfl⟩
  | cons next more =>
    rw [renderMembers]
    · exact ⟨_, rfl⟩
    · simp

theorem reads_array {items : List Json} (plain : ∀ item ∈ items, Plain item)
    (each : ∀ item ∈ items, Reads item) : Reads (.array items) := by
  refine reads_of_succ fun depth rest room _ => ?_
  rw [render] at room ⊢
  simp only [List.cons_append, List.append_assoc, List.nil_append, List.length_cons,
    List.length_append, List.length_nil] at room ⊢
  rw [value?, skipBlank_cons rfl]
  cases items with
  | nil => rfl
  | cons item more =>
    have read := items?_renderItems (List.cons_ne_nil item more) each depth rest (by omega)
    obtain ⟨c, tail, front, visible, inside⟩ :=
      renderItems_front (plain item List.mem_cons_self) more
    rw [front, List.cons_append] at read ⊢
    simp only [skipBlank_cons visible]
    split
    · rename_i same
      cases same
      exact absurd rfl inside
    · rw [read]
      rfl

theorem reads_object {members : List (String × Json)}
    (each : ∀ member ∈ members, Reads member.2) : Reads (.object members) := by
  refine reads_of_succ fun depth rest room _ => ?_
  rw [render] at room ⊢
  simp only [List.cons_append, List.append_assoc, List.nil_append, List.length_cons,
    List.length_append, List.length_nil] at room ⊢
  rw [value?, skipBlank_cons rfl]
  cases members with
  | nil => rfl
  | cons member more =>
    have read := members?_renderMembers (List.cons_ne_nil member more) each depth rest (by omega)
    obtain ⟨tail, front⟩ := renderMembers_front member more
    rw [front, List.cons_append] at read ⊢
    simp only [skipBlank_cons (c := '"') rfl]
    split
    · rename_i same
      cases same
    · rw [read, Option.map_some, ofMembers_map_pieceOf]

theorem Plain.reads {value : Json} (plain : Plain value) : Reads value := by
  induction plain with
  | null => exact reads_null
  | bool value => exact reads_bool value
  | integer value => exact reads_integer value
  | string value => exact reads_string value
  | array items each ih => exact reads_array each ih
  | object members each ih => exact reads_object ih

theorem read?_text {value : Json} (plain : Plain value) : read? value.text = some value := by
  unfold read? text
  have read := plain.reads (2 * (String.ofList value.render).length + 2) [] (by
    rw [String.length_ofList]; omega) follows_nil
  rw [List.append_nil] at read
  rw [String.toList_ofList, read]
  rfl

end ChannelGate.Json
