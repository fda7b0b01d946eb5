import ChannelGate.Proofs.Text.Escapes
import ChannelGate.Proofs.Topic.Grammar

set_option autoImplicit false

namespace ChannelGate.Percent

/-- The texts around a slash are decoded apart. -/
theorem decodeText?_append_slash (front back : List Char) :
    decodeText? (front ++ '/' :: back) =
      (decodeText? front).bind fun before =>
        (decodeText? back).map fun behind => before ++ '/' :: behind :=
  decodeText?_append '/' ['/'] (by decide) rfl (by decide) (decode?_cons_of_ne (by decide)) front
    back

/-- Segments with slashes between them are decoded each on its own. -/
theorem decodeText?_intercalate (segments : List (List Char)) (some : segments ≠ []) :
    decodeText? (List.intercalate ['/'] segments) =
      (segments.mapM decodeText?).map (List.intercalate ['/']) := by
  induction segments with
  | nil => exact absurd rfl some
  | cons segment others ih =>
    cases others with
    | nil =>
      rw [List.intercalate_singleton, List.mapM_cons, List.mapM_nil]
      cases decodeText? segment with
      | none => rfl
      | some decoded => simp
    | cons next others =>
      have joined := ih (List.cons_ne_nil _ _)
      rw [List.intercalate_cons_cons, List.append_assoc, List.singleton_append,
        decodeText?_append_slash, joined, List.mapM_cons (l := next :: others)]
      cases decodeText? segment with
      | none => rfl
      | some decoded =>
        rw [List.mapM_cons]
        cases decodeText? next with
        | none => rfl
        | some following =>
          cases others.mapM decodeText? with
          | none => rfl
          | some more => simp

/-- A text is decoded by its segments. -/
theorem decodeText?_splitOn (text : List Char) :
    decodeText? text =
      ((text.splitOn '/').mapM decodeText?).map (List.intercalate ['/']) := by
  have whole : List.intercalate ['/'] (text.splitOn '/') = text := List.intercalate_splitOn '/'
  rw [← decodeText?_intercalate _ (List.splitOn_ne_nil _ _), whole]

end ChannelGate.Percent

namespace ChannelGate.Topic

instance (piece : List Char) : Decidable (GoodPiece piece) := decidable_of_iff _ isPiece_iff

/-- The subtopic pieces of a text that is cut at its slashes first: each segment is decoded on its
own, and what it stands for is cut again. -/
def segmentPieces? (text : List Char) : Option (List (List Char)) := do
  let segments ← (text.splitOn '/').mapM Percent.decodeText?
  let parts := segments.flatMap fun segment => segment.splitOnP isSeparator
  if ∀ part ∈ parts, GoodPiece part then some parts else none

def subtopicBySegments (trailer : String) : Except GatewayError String :=
  let text := dropLastSlash trailer.toList
  if text = [] then .ok ""
  else
    match segmentPieces? text with
    | some parts => .ok (String.ofList (List.intercalate ['.'] parts))
    | none => .error .malformedSubtopic

theorem pieces_eq_splitOnP (text : List Char) : pieces text = text.splitOnP isSeparator := by
  induction text with
  | nil => rfl
  | cons c rest ih =>
    obtain ⟨piece, more, others⟩ := List.exists_cons_of_ne_nil (List.splitOnP_ne_nil isSeparator rest)
    rw [pieces, ih, List.splitOnP_cons_eq_if_modifyHead, others, List.modifyHead_cons]

/-- Pieces never cross a slash. -/
theorem pieces_intercalate (segments : List (List Char)) (some : segments ≠ []) :
    pieces (List.intercalate ['/'] segments) =
      segments.flatMap fun segment => segment.splitOnP isSeparator := by
  induction segments with
  | nil => exact absurd rfl some
  | cons segment others ih =>
    cases others with
    | nil => rw [List.intercalate_singleton, List.flatMap_singleton, pieces_eq_splitOnP]
    | cons next others =>
      have rest := ih (List.cons_ne_nil _ _)
      rw [List.intercalate_cons_cons, List.append_assoc, List.singleton_append, pieces_eq_splitOnP,
        List.splitOnP_append_cons _ _ (by decide), ← pieces_eq_splitOnP (List.intercalate _ _), rest]
      simp only [List.flatMap_cons]

/-- What every segment stands for is among the decoded ones. -/
theorem exists_mem_decoded {segments decoded : List (List Char)} {segment : List Char}
    (member : segment ∈ segments) (read : segments.mapM Percent.decodeText? = some decoded) :
    ∃ text ∈ decoded, Percent.decodeText? segment = some text := by
  induction segments generalizing decoded with
  | nil => cases member
  | cons first others ih =>
    simp only [List.mapM_cons, Option.bind_eq_bind, Option.bind_eq_some_iff, Option.pure_def,
      Option.some.injEq] at read
    obtain ⟨text, front, rest, behind, rfl⟩ := read
    rcases List.mem_cons.mp member with rfl | inside
    · exact ⟨text, List.mem_cons_self, front⟩
    · obtain ⟨other, found, reads⟩ := ih inside behind
      exact ⟨other, List.mem_cons_of_mem _ found, reads⟩

/-- A trailer with a segment is read the same by its segments. -/
theorem subtopicPieces?_eq {trailer : List Char} (filled : dropLastSlash trailer ≠ []) :
    subtopicPieces? trailer = segmentPieces? (dropLastSlash trailer) := by
  unfold subtopicPieces? segmentPieces?
  generalize dropLastSlash trailer = text at filled
  obtain ⟨segment, member⟩ := List.exists_mem_of_ne_nil _ (List.splitOn_ne_nil '/' text)
  simp only [filled, ↓reduceIte]
  rw [Percent.decodeText?_splitOn]
  cases read : (text.splitOn '/').mapM Percent.decodeText? with
  | none => rfl
  | some decoded =>
    obtain ⟨_, found, _⟩ := exists_mem_decoded member read
    have parts := pieces_intercalate decoded (List.ne_nil_of_mem found)
    simp only [Option.map_some, Option.bind_eq_bind, Option.bind_some, parts, List.all_eq_true,
      isPiece_iff]

/-- It makes no difference whether a trailer is decoded as a whole and cut afterwards, or is cut at
its slashes and decoded by its segments: both give the same subtopic, or the same error. -/
theorem subtopic_by_segments (trailer : String) :
    subtopic trailer = subtopicBySegments trailer := by
  unfold subtopic subtopicBySegments
  by_cases filled : dropLastSlash trailer.toList = []
  · have none : subtopicPieces? trailer.toList = some [] := by
      simp only [subtopicPieces?, filled, ↓reduceIte]
    have joined : String.ofList (List.intercalate ['.'] []) = "" := rfl
    simp only [none, filled, ↓reduceIte, joined]
  · have same := subtopicPieces?_eq filled
    cases read : segmentPieces? (dropLastSlash trailer.toList) with
    | none => simp only [same, filled, ↓reduceIte, read]
    | some parts => simp only [same, filled, ↓reduceIte, read]

example : segmentPieces? "roof%2Flamp/room".toList =
    some ["roof".toList, "lamp".toList, "room".toList] := by decide +kernel

end ChannelGate.Topic
