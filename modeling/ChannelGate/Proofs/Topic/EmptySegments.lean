import ChannelGate.Proofs.Topic.Segments

set_option autoImplicit false

namespace ChannelGate.Topic

/-- The segments of a trailer as written: what stands between its slashes, without the last one if
this is empty. -/
def segments (trailer : List Char) : List (List Char) :=
  let all := trailer.splitOn '/'
  if all.getLast? = some [] then all.dropLast else all

/-- A topic with this trailer, in its parts. -/
structure Carries (topic lead channel trailer query : String) : Prop where
  whole : topic = lead ++ "channels/" ++ channel ++ "/messages/" ++ trailer ++ query
  lead : lead = "" ∨ lead = "/"
  channel : '/' ∉ channel.toList ∧ '?' ∉ channel.toList
  beforeQuery : '?' ∉ trailer.toList
  query : query = "" ∨ ∃ rest, query = "?" ++ rest

theorem intercalate_concat (front : List (List Char)) (last : List Char) (filled : front ≠ []) :
    List.intercalate ['/'] (front ++ [last]) = List.intercalate ['/'] front ++ '/' :: last := by
  induction front with
  | nil => exact absurd rfl filled
  | cons segment others ih =>
    cases others with
    | nil => simp
    | cons next others =>
      have rest := ih (List.cons_ne_nil _ _)
      simp only [List.cons_append] at rest ⊢
      simp only [List.intercalate_cons_cons, rest, List.append_assoc]

/-- The last segment is empty only behind a slash. -/
theorem ends_in_slash {text : List Char} (filled : text ≠ [])
    (last : (text.splitOn '/').getLast? = some []) : text.getLast? = some '/' := by
  obtain ⟨front, whole⟩ := List.getLast?_eq_some_iff.mp last
  have joined : List.intercalate ['/'] (text.splitOn '/') = text := List.intercalate_splitOn '/'
  rw [whole] at joined
  cases front with
  | nil =>
    rw [List.nil_append, List.intercalate_singleton] at joined
    exact absurd joined.symm filled
  | cons segment others =>
    rw [intercalate_concat _ _ (List.cons_ne_nil _ _)] at joined
    rw [← joined, List.getLast?_concat]

/-- Dropping the last segment if it is empty is dropping the slash in front of it. -/
theorem segments_eq {trailer : List Char} (filled : trailer ≠ []) :
    segments trailer = (dropLastSlash trailer).splitOn '/' := by
  unfold segments dropLastSlash
  by_cases slash : trailer.getLast? = some '/'
  · obtain ⟨front, whole⟩ := List.getLast?_eq_some_iff.mp slash
    have all : trailer.splitOn '/' = front.splitOn '/' ++ [[]] := by
      rw [whole, List.splitOn_append_cons_self, List.splitOn_nil]
    simp only [slash, all, List.getLast?_concat, ↓reduceIte, List.dropLast_concat]
    rw [whole, List.dropLast_concat]
  · have other : (trailer.splitOn '/').getLast? ≠ some [] :=
      fun last => slash (ends_in_slash filled last)
    simp only [slash, other, ↓reduceIte]

theorem segmentPieces?_of_empty {text : List Char} (hidden : [] ∈ text.splitOn '/') :
    segmentPieces? text = none := by
  unfold segmentPieces?
  cases read : (text.splitOn '/').mapM Percent.decodeText? with
  | none => rfl
  | some decoded =>
    obtain ⟨text, member, nothing⟩ := exists_mem_decoded hidden read
    rw [decodeText?_nil, Option.some.injEq] at nothing
    have empty : [] ∈ decoded.flatMap fun segment => segment.splitOnP isSeparator :=
      List.mem_flatMap.mpr ⟨text, member, by simp [← nothing]⟩
    have bad : ¬ ∀ part ∈ decoded.flatMap fun segment => segment.splitOnP isSeparator,
        GoodPiece part := fun good => not_goodPiece_nil (good [] empty)
    simp only [Option.bind_eq_bind, Option.bind_some, bad, ↓reduceIte]

theorem dropLastSlash_eq_nil {trailer : List Char} (empty : dropLastSlash trailer = []) :
    trailer = [] ∨ trailer = ['/'] := by
  unfold dropLastSlash at empty
  split at empty
  · rename_i slash
    obtain ⟨front, whole⟩ := List.getLast?_eq_some_iff.mp slash
    rw [whole, List.dropLast_concat] at empty
    rw [whole, empty]
    exact .inr rfl
  · exact .inl empty

theorem subtopic_of_empty_segment {trailer : String} (hidden : [] ∈ segments trailer.toList)
    (other : trailer ≠ "/") : subtopic trailer = .error .malformedSubtopic := by
  have some : trailer.toList ≠ [] := by
    intro none
    rw [none] at hidden
    exact absurd hidden (by decide)
  have filled : dropLastSlash trailer.toList ≠ [] := by
    intro empty
    rcases dropLastSlash_eq_nil empty with none | slash
    · exact some none
    · exact other (String.toList_inj.mp slash)
  rw [segments_eq some] at hidden
  have bad : subtopicPieces? trailer.toList = none := by
    rw [subtopicPieces?_eq filled, segmentPieces?_of_empty hidden]
  simp only [subtopic, bad]

variable {topic lead channel trailer query : String}

/-- What follows `channels/` in a topic with this trailer. -/
theorem Carries.behind_mark (carries : Carries topic lead channel trailer query) :
    after? channelsMark (dropSlash (path topic.toList)) =
      some (channel.toList ++ '/' :: (messagesMark ++ '/' :: trailer.toList)) := by
  have front : path topic.toList =
      lead.toList ++ (channelsMark ++ (channel.toList ++ '/' :: (messagesMark ++
        '/' :: trailer.toList))) := by
    have marks : '?' ∉ channelsMark ∧ '?' ∉ messagesMark ∧ '?' ∉ lead.toList := by
      refine ⟨by decide, by decide, ?_⟩
      rcases carries.lead with same | same <;> rw [same] <;> decide
    refine path_eq_iff.mpr ⟨?_, query.toList, ?_, ?_⟩
    · simp [marks, carries.channel.2, carries.beforeQuery]
    · rcases carries.query with same | ⟨rest, same⟩
      · exact .inl (by rw [same]; rfl)
      · exact .inr ⟨rest.toList, by rw [same, String.toList_append]; rfl⟩
    · rw [carries.whole]
      simp only [String.toList_append, List.append_assoc]
      rfl
  have leads : lead.toList = [] ∨ lead.toList = ['/'] := by
    rcases carries.lead with same | same
    · exact .inl (by rw [same]; rfl)
    · exact .inr (by rw [same]; rfl)
  exact after?_dropSlash.mpr ⟨lead.toList, leads, front⟩

/-- A topic has one trailer. -/
theorem Carries.trailer_eq (carries : Carries topic lead channel trailer query)
    {front behind : String} (divided : split topic = .ok ⟨front, behind⟩) : behind = trailer := by
  have found := split_eq_ok.mp divided
  rw [splitText?, carries.behind_mark, Option.bind_some] at found
  obtain ⟨rest, whole, _, chars, ended⟩ := channelAndTrailer?_eq_some.mp found
  obtain ⟨more, same, others⟩ := Percent.cut_behind carries.channel.1 whole
  cases more with
  | nil =>
    obtain ⟨_, rfl⟩ := List.cons_eq_cons.mp others
    obtain ⟨tail, split, ⟨rfl, _⟩ | rfl⟩ := trailer?_eq_some.mp ended
    · have lengths := congrArg List.length split
      simp at lengths
    · have tails := List.append_cancel_left split
      exact String.toList_inj.mp (List.cons_eq_cons.mp tails).2.symm
  | cons slash more =>
    -- The channel that was found would hold the slash behind the true one.
    have slashed : '/' = slash := (List.cons_eq_cons.mp others).1
    have inside : '/' ∈ front.toList := by
      rw [same, ← slashed]
      simp
    exact absurd rfl (channelChar_ne_slash (chars _ inside))

theorem Carries.split_eq (carries : Carries topic lead channel trailer query)
    (filled : channel ≠ "") (chars : ∀ c ∈ channel.toList, ChannelChar c) :
    split topic = .ok ⟨channel, trailer⟩ := by
  have some : channel.toList ≠ [] := by
    rw [ne_eq, toList_eq_nil]
    exact filled
  have ended : trailer? (messagesMark ++ '/' :: trailer.toList) = .some trailer.toList :=
    trailer?_eq_some.mpr ⟨_, rfl, .inr rfl⟩
  refine split_eq_ok.mpr ?_
  rw [splitText?, carries.behind_mark, Option.bind_some]
  exact channelAndTrailer?_eq_some.mpr ⟨_, rfl, some, chars, ended⟩

/-- A trailer with an empty segment, wherever it stands, is a malformed subtopic, and every topic
with this trailer is malformed, unless the trailer is a single slash. That one passes for an empty
trailer: its one segment is empty, and its topics lead to their channel without a subtopic. -/
theorem empty_segment_is_refused (trailer : String) (hidden : [] ∈ segments trailer.toList) :
    (trailer ≠ "/" → subtopic trailer = .error .malformedSubtopic ∧
      ∀ topic lead channel query, Carries topic lead channel trailer query →
        parse topic = .error .malformedTopic) ∧
    (trailer = "/" → subtopic trailer = .ok "" ∧
      ∀ topic lead channel query, Carries topic lead channel trailer query →
        channel ≠ "" → (∀ c ∈ channel.toList, ChannelChar c) → parse topic = .ok ⟨channel, ""⟩) := by
  constructor
  · intro other
    have bad := subtopic_of_empty_segment hidden other
    refine ⟨bad, ?_⟩
    intro topic lead channel query carries
    cases result : parse topic with
    | error error => rw [parse_eq_error result]
    | ok route =>
      obtain ⟨behind, divided, named⟩ := parse_eq_ok.mp result
      rw [carries.trailer_eq divided, bad] at named
      cases named
  · intro slash
    have none : subtopic trailer = .ok "" := by
      rw [slash]
      rfl
    refine ⟨none, ?_⟩
    intro topic lead channel query carries filled chars
    exact parse_eq_ok.mpr ⟨trailer, carries.split_eq filled chars, none⟩

theorem empty_segment_is_refused_doubled :
    [] ∈ segments "roof//lamp".toList ∧ [] ∈ segments "/".toList ∧
      subtopic "roof//lamp" = .error .malformedSubtopic ∧
      parse "/channels/ch1/messages/roof//lamp?x" = .error .malformedTopic ∧
      parse "channels/ch1/messages//" = .ok ⟨"ch1", ""⟩ := by
  have doubled : [] ∈ segments "roof//lamp".toList := by decide
  have alone : [] ∈ segments "/".toList := by decide
  have chars : ∀ c ∈ "ch1".toList, ChannelChar c := by
    have all : "ch1".toList.all isChannelChar = true := by decide
    intro c member
    exact isChannelChar_iff.mp (List.all_eq_true.mp all c member)
  have refused := (empty_segment_is_refused "roof//lamp" doubled).1 (by decide)
  have accepted := (empty_segment_is_refused "/" alone).2 rfl
  refine ⟨doubled, alone, refused.1, ?_, ?_⟩
  · exact refused.2 _ "/" "ch1" "?x" ⟨by decide, .inr rfl, by decide, by decide, .inr ⟨"x", rfl⟩⟩
  · exact accepted.2 _ "" "ch1" "" ⟨by decide, .inl rfl, by decide, by decide, .inl rfl⟩ (by decide)
      chars

/-- A trailer that is a single slash has an empty segment, and is accepted all the same. -/
theorem lone_slash_is_accepted :
    segments "/".toList = [[]] ∧ subtopic "/" = .ok "" ∧
      Carries "channels/ch1/messages//" "" "ch1" "/" "" ∧
      parse "channels/ch1/messages//" = .ok ⟨"ch1", ""⟩ :=
  ⟨rfl, rfl, ⟨by decide, .inl rfl, by decide, by decide, .inl rfl⟩, rfl⟩

end ChannelGate.Topic
