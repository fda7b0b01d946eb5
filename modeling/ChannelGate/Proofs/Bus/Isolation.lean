import ChannelGate.Bus.Basic
import ChannelGate.Proofs.Gateway.Routing

set_option autoImplicit false

namespace ChannelGate.Topic

def ChannelId (channel : String) : Prop :=
  channel ≠ "" ∧ ∀ c ∈ channel.toList, ChannelChar c

/-- A piece that a subscription may name: not empty, without separators and wildcards. -/
def SubjectPiece (piece : String) : Prop :=
  piece ≠ "" ∧
    ∀ c ∈ piece.toList, c ≠ '.' ∧ c ≠ '/' ∧ c ≠ '*' ∧ c ≠ '+' ∧ c ≠ '#' ∧ c ≠ '>'

/-- The subtopic pieces that the parser finds in a topic. -/
def FindsPieces (topic : String) (parts : List String) : Prop :=
  ∃ channel trailer, split topic = .ok ⟨channel, trailer⟩ ∧
    subtopicPieces? trailer.toList = some (parts.map String.toList)

theorem pieces_ne_nil (text : List Char) : pieces text ≠ [] := by
  intro none
  have cut := cut_pieces text
  rw [none] at cut
  cases cut

theorem pieces_append_separator (text rest : List Char) {separator : Char}
    (cut : Separator separator) :
    pieces (text ++ separator :: rest) = pieces text ++ pieces rest := by
  have whole := cut_pieces text
  -- By the way in which the text is cut into its pieces.
  generalize pieces text = parts at whole
  induction whole with
  | whole clean => exact pieces_append clean cut
  | next clean inner more ih =>
    rw [List.append_assoc, List.cons_append, pieces_append clean inner, ih, List.cons_append]

theorem Cut.clean {text : List Char} {parts : List (List Char)} (cut : Cut text parts) :
    ∀ piece ∈ parts, ∀ c ∈ piece, ¬ Separator c := by
  induction cut with
  | whole clean => exact List.forall_mem_singleton.mpr clean
  | next clean _ _ ih => exact List.forall_mem_cons.mpr ⟨clean, ih⟩

theorem not_separator_of_channelChar {c : Char} (inside : ChannelChar c) : ¬ Separator c := by
  intro separator
  rcases separator with rfl | rfl
  · exact channelChar_ne_slash inside rfl
  · exact absurd (isChannelChar_iff.mpr inside) (by decide)

theorem SubjectPiece.clean {piece : String} (valid : SubjectPiece piece) :
    ∀ c ∈ piece.toList, ¬ Separator c := by
  intro c member separator
  have apart := valid.2 c member
  rcases separator with slash | dot
  · exact apart.2.1 slash
  · exact apart.1 dot

theorem subjectPiece_ofList {piece : List Char} (good : GoodPiece piece)
    (clean : ∀ c ∈ piece, ¬ Separator c) : SubjectPiece (String.ofList piece) := by
  constructor
  · intro empty
    rw [← toList_eq_nil, String.toList_ofList] at empty
    exact good.1 empty
  · intro c member
    rw [String.toList_ofList] at member
    exact ⟨fun dot => clean c member (.inr dot), fun slash => clean c member (.inl slash),
      good.2 c member⟩

/-- Good pieces are what the parser finds, and the subtopic is these pieces joined by dots. -/
theorem exists_pieces_of_parse {topic : String} {route : Route}
    (accepted : parse topic = .ok route) :
    ∃ parts, FindsPieces topic parts ∧ (∀ part ∈ parts, SubjectPiece part) ∧
      route.subtopic = ".".intercalate parts ∧ ChannelId route.channel := by
  obtain ⟨trailer, divided, named⟩ := parse_eq_ok.mp accepted
  obtain ⟨lead, tail, query, shape⟩ := splitText?_eq_some.mp (split_eq_ok.mp divided)
  have channelId : ChannelId route.channel := by
    refine ⟨?_, shape.chars⟩
    rw [ne_eq, ← toList_eq_nil]
    exact shape.filled
  unfold subtopic at named
  cases found : subtopicPieces? trailer.toList with
  | none =>
    rw [found] at named
    cases named
  | some texts =>
    rw [found] at named
    have back : (texts.map String.ofList).map String.toList = texts := by
      simp only [List.map_map, Function.comp_def, String.toList_ofList, List.map_id']
    refine ⟨texts.map String.ofList, ⟨_, trailer, divided, by rw [back, found]⟩, ?_, ?_,
      channelId⟩
    · unfold subtopicPieces? at found
      simp only at found
      split at found
      · cases found
        exact nofun
      obtain ⟨decoded, _, chosen⟩ := Option.bind_eq_some_iff.mp found
      split at chosen
      · rename_i good
        cases chosen
        intro part member
        obtain ⟨piece, inside, rfl⟩ := List.mem_map.mp member
        have whole := isPiece_iff.mp (List.all_eq_true.mp good piece inside)
        exact subjectPiece_ofList whole ((cut_pieces decoded).clean piece inside)
      · cases chosen
    · rw [← String.toList_inj, ← Except.ok.inj named, String.toList_intercalate, back,
        String.toList_ofList]
      rfl

end ChannelGate.Topic

namespace ChannelGate.Bus

open Topic

def below : List String → String
  | [] => ""
  | part :: rest => "." ++ part ++ below rest

/-- The subscription topic of a channel and subtopic pieces. -/
def topicOf (channel : String) (parts : List String) : String :=
  "channels." ++ channel ++ below parts

/-- The subscription topic of everything below a channel and subtopic pieces. -/
def topicBelow (channel : String) (parts : List String) : String :=
  topicOf channel parts ++ ".>"

/-- A subscription topic that is about a channel. -/
def IsAbout (channel topic : String) : Prop :=
  ∃ parts : List String, (∀ part ∈ parts, SubjectPiece part) ∧
    (topic = topicOf channel parts ∨ topic = topicBelow channel parts)

theorem toList_below_cons (part : String) (rest : List String) :
    (below (part :: rest)).toList = '.' :: (part.toList ++ (below rest).toList) := by
  simp only [below, String.toList_append, List.append_assoc]
  rfl

theorem toList_topicOf (channel : String) (parts : List String) :
    (topicOf channel parts).toList =
      "channels".toList ++ '.' :: (channel.toList ++ (below parts).toList) := by
  simp only [topicOf, String.toList_append, List.append_assoc]
  rfl

theorem pieces_below (front : List Char) (clean : ∀ c ∈ front, ¬ Separator c)
    (parts : List String) (valid : ∀ part ∈ parts, SubjectPiece part) :
    pieces (front ++ (below parts).toList) = front :: parts.map String.toList := by
  induction parts generalizing front with
  | nil =>
    show pieces (front ++ []) = _
    rw [List.append_nil]
    exact pieces_of_clean clean
  | cons part rest ih =>
    have first := valid part List.mem_cons_self
    have others := ih part.toList first.clean
      (fun other member => valid other (List.mem_cons_of_mem _ member))
    rw [toList_below_cons, pieces_append clean (.inr rfl), others]
    rfl

/-- Cutting a subscription topic at its dots gives back what it was made of. -/
theorem pieces_topicOf {channel : String} {parts : List String} (id : ChannelId channel)
    (valid : ∀ part ∈ parts, SubjectPiece part) :
    pieces (topicOf channel parts).toList =
      "channels".toList :: channel.toList :: parts.map String.toList := by
  have mark : ∀ c ∈ "channels".toList, ¬ Separator c := by
    intro c member separator
    have none : "channels".toList.any isSeparator = false := by decide
    exact List.any_eq_false.mp none c member (isSeparator_iff.mpr separator)
  have clean : ∀ c ∈ channel.toList, ¬ Separator c :=
    fun c member => not_separator_of_channelChar (id.2 c member)
  rw [toList_topicOf, pieces_append mark (.inr rfl), pieces_below _ clean parts valid]

theorem map_toList_injective {first second : List String}
    (same : first.map String.toList = second.map String.toList) : first = second :=
  (List.map_inj_right fun _ _ equal => String.toList_inj.mp equal).mp same

theorem topicOf_inj {channel other : String} {parts found : List String} (id : ChannelId channel)
    (valid : ∀ part ∈ parts, SubjectPiece part) (otherId : ChannelId other)
    (otherValid : ∀ part ∈ found, SubjectPiece part) :
    topicOf channel parts = topicOf other found ↔ channel = other ∧ parts = found := by
  constructor
  · intro same
    have cut := pieces_topicOf id valid
    rw [same, pieces_topicOf otherId otherValid] at cut
    obtain ⟨_, channels, pieces⟩ := List.cons_eq_cons.mp cut |>.imp_right List.cons_eq_cons.mp
    exact ⟨(String.toList_inj.mp channels).symm, (map_toList_injective pieces).symm⟩
  · intro given
    rw [given.1, given.2]

theorem not_bracket_below {parts : List String} (valid : ∀ part ∈ parts, SubjectPiece part) :
    '>' ∉ (below parts).toList := by
  induction parts with
  | nil => exact List.not_mem_nil
  | cons part rest ih =>
    have others := ih (fun other member => valid other (List.mem_cons_of_mem _ member))
    have first : '>' ∉ part.toList := by
      intro member
      exact ((valid part List.mem_cons_self).2 '>' member).2.2.2.2.2 rfl
    rw [toList_below_cons]
    simp only [List.mem_cons, List.mem_append, not_or]
    exact ⟨by decide, first, others⟩

theorem not_bracket_topicOf {channel : String} {parts : List String} (id : ChannelId channel)
    (valid : ∀ part ∈ parts, SubjectPiece part) : '>' ∉ (topicOf channel parts).toList := by
  have clean : '>' ∉ channel.toList := by
    intro member
    exact absurd (isChannelChar_iff.mpr (id.2 '>' member)) (by decide)
  have mark : '>' ∉ "channels".toList := by decide
  rw [toList_topicOf]
  simp only [List.mem_append, List.mem_cons, not_or]
  exact ⟨mark, by decide, clean, not_bracket_below valid⟩

/-- A topic without the mark for everything below takes in itself only. -/
theorem takesIn_of_unmarked {topic subject : List Char} (plain : ¬ belowMark <:+ topic) :
    takesIn topic subject = true ↔ topic = subject := by
  have other : above? topic = none := by
    unfold above?
    rw [if_neg]
    exact fun ended => plain (List.isSuffixOf_iff_suffix.mp ended)
  unfold takesIn
  rw [other]
  exact decide_eq_true_iff

theorem takesIn_of_not_bracket {topic subject : List Char} (plain : '>' ∉ topic) :
    takesIn topic subject = true ↔ topic = subject := by
  apply takesIn_of_unmarked
  intro marked
  exact plain (marked.subset (by decide))

/-- The mark stands for a dot and at least one character more. -/
theorem takesIn_mark {top subject : List Char} :
    takesIn (top ++ belowMark) subject = true ↔ ∃ c rest, subject = top ++ '.' :: c :: rest := by
  have marked : above? (top ++ belowMark) = some top := by
    unfold above?
    rw [if_pos (List.isSuffixOf_iff_suffix.mpr (List.suffix_append top belowMark)),
      List.length_append, Nat.add_sub_cancel, List.take_left]
  unfold takesIn
  rw [marked]
  simp only [isBelow, Bool.and_eq_true, List.isPrefixOf_iff_prefix]
  constructor
  · intro given
    obtain ⟨⟨behind, rfl⟩, more⟩ := given
    rw [List.drop_left] at more
    split at more
    · rename_i c rest
      exact ⟨c, rest, rfl⟩
    · cases more
  · intro given
    obtain ⟨c, rest, rfl⟩ := given
    refine ⟨List.prefix_append _ _, ?_⟩
    rw [List.drop_left]
    rfl

theorem topicMatches_topicOf {channel : String} {parts : List String} (id : ChannelId channel)
    (valid : ∀ part ∈ parts, SubjectPiece part) (subject : String) :
    topicMatches (topicOf channel parts) subject = true ↔ topicOf channel parts = subject := by
  unfold topicMatches
  rw [takesIn_of_not_bracket (not_bracket_topicOf id valid), String.toList_inj]

theorem topicMatches_topicBelow (channel : String) (parts : List String) (subject : String) :
    topicMatches (topicBelow channel parts) subject = true ↔
      ∃ c rest, subject.toList = (topicOf channel parts).toList ++ '.' :: c :: rest := by
  unfold topicMatches topicBelow
  rw [String.toList_append]
  exact takesIn_mark

theorem below_append (front behind : List String) :
    below (front ++ behind) = below front ++ below behind := by
  induction front with
  | nil => exact (String.empty_append).symm
  | cons part rest ih => simp only [List.cons_append, below, ih, String.append_assoc]

theorem topicMatches_topicBelow_topicOf {channel other : String} {parts found : List String}
    (id : ChannelId channel) (valid : ∀ part ∈ parts, SubjectPiece part) (otherId : ChannelId other)
    (otherValid : ∀ part ∈ found, SubjectPiece part) :
    topicMatches (topicBelow channel parts) (topicOf other found) = true ↔
      channel = other ∧ parts <+: found ∧ parts ≠ found := by
  rw [topicMatches_topicBelow]
  constructor
  · intro given
    obtain ⟨c, rest, same⟩ := given
    -- Cut both sides at the dots: what is behind the mark has at least one piece.
    have cut := pieces_topicOf otherId otherValid
    rw [same, pieces_append_separator _ _ (.inr rfl), pieces_topicOf id valid] at cut
    simp only [List.cons_append, List.cons.injEq, true_and] at cut
    obtain ⟨channels, behind⟩ := cut
    have starts : parts.map String.toList <+: found.map String.toList := ⟨_, behind⟩
    have longer : parts.length < found.length := by
      have sizes := congrArg List.length behind
      have filled := List.length_pos_iff.mpr (pieces_ne_nil (c :: rest))
      rw [List.length_append, List.length_map, List.length_map] at sizes
      omega
    refine ⟨String.toList_inj.mp channels, ?_, ?_⟩
    · obtain ⟨front, same, equal⟩ := List.prefix_map_iff.mp starts
      rwa [map_toList_injective equal]
    · intro equal
      rw [equal] at longer
      exact Nat.lt_irrefl _ longer
  · intro given
    obtain ⟨rfl, ⟨behind, rfl⟩, apart⟩ := given
    cases behind with
    | nil => exact absurd (List.append_nil parts).symm apart
    | cons part rest =>
      have filled : part.toList ≠ [] := by
        rw [ne_eq, toList_eq_nil]
        exact (otherValid part (by simp)).1
      obtain ⟨c, more, same⟩ := List.exists_cons_of_ne_nil filled
      refine ⟨c, more ++ (below rest).toList, ?_⟩
      rw [topicOf, below_append, ← String.append_assoc, String.toList_append, toList_below_cons,
        same]
      rfl

theorem intercalate_cons (first : String) (rest : List String) :
    ".".intercalate (first :: rest) = first ++ below rest := by
  induction rest generalizing first with
  | nil => simp [below]
  | cons second rest ih =>
    rw [String.intercalate_cons_cons, ih second, below, String.append_assoc, String.append_assoc]

/-- The subject of a message is the topic of its channel and of the pieces of its subtopic. -/
theorem subject_eq_topicOf (message : RoutedMessage) {parts : List String}
    (valid : ∀ part ∈ parts, SubjectPiece part)
    (joined : message.subtopic = ".".intercalate parts) :
    message.subject = topicOf message.channel parts := by
  unfold RoutedMessage.subject
  cases parts with
  | nil =>
    rw [String.intercalate_nil] at joined
    rw [if_pos joined]
    exact (String.append_empty).symm
  | cons first rest =>
    rw [intercalate_cons] at joined
    have filled : message.subtopic ≠ "" := by
      intro empty
      rw [joined, ← toList_eq_nil, String.toList_append, List.append_eq_nil_iff] at empty
      exact (valid first List.mem_cons_self).1 (toList_eq_nil.mp empty.1)
    rw [if_neg filled, joined]
    simp only [topicOf, below, String.append_assoc]

def Addressed (message : RoutedMessage) (route : Route) : Prop :=
  message.channel = route.channel ∧ message.subtopic = route.subtopic

theorem Addressed.subject_eq {message : RoutedMessage} {route : Route} {parts : List String}
    (addressed : Addressed message route) (valid : ∀ part ∈ parts, SubjectPiece part)
    (joined : route.subtopic = ".".intercalate parts) :
    message.subject = topicOf route.channel parts := by
  rw [subject_eq_topicOf message valid (addressed.2.trans joined), addressed.1]

theorem IsAbout.channel_eq {channel other topic : String} {found : List String}
    (about : IsAbout channel topic) (id : ChannelId channel) (otherId : ChannelId other)
    (otherValid : ∀ part ∈ found, SubjectPiece part)
    (taken : topicMatches topic (topicOf other found) = true) : channel = other := by
  obtain ⟨parts, valid, rfl | rfl⟩ := about
  · rw [topicMatches_topicOf id valid] at taken
    exact ((topicOf_inj id valid otherId otherValid).mp taken).1
  · exact ((topicMatches_topicBelow_topicOf id valid otherId otherValid).mp taken).1

theorem mem_receivers {η : Type} {bus : Bus η} {handler : η} {subject : String}
    (receives : handler ∈ bus.receivers subject) :
    ∃ subscription ∈ bus.subscriptions, subscription.handler = handler ∧
      topicMatches subscription.topic subject = true := by
  obtain ⟨entry, member, inside⟩ := List.mem_flatMap.mp receives
  obtain ⟨present, taken⟩ := List.mem_filter.mp member
  obtain ⟨subscriber, subscribed, same⟩ := List.mem_map.mp inside
  refine ⟨⟨entry.1, subscriber.1, subscriber.2⟩, ?_, same, taken⟩
  exact List.mem_flatMap.mpr ⟨entry, present, List.mem_map.mpr ⟨subscriber, subscribed, rfl⟩⟩

/-- A message of an accepted topic is taken in by the subscription to exactly its channel and its
subtopic pieces, and by the subscriptions to everything below its channel and a proper prefix of
these pieces. So it reaches no handler that is subscribed to other channels only, and its subject
tells its channel and its subtopic. -/
theorem channels_are_isolated {topic : String} {route : Route}
    (accepted : Topic.parse topic = .ok route) :
    ∃ found : List String, FindsPieces topic found ∧ route.subtopic = ".".intercalate found ∧
      ∀ message : RoutedMessage, Addressed message route →
        (∀ (channel : String) (parts : List String), ChannelId channel →
          (∀ part ∈ parts, SubjectPiece part) →
          (topicMatches (topicOf channel parts) message.subject = true ↔
            channel = route.channel ∧ parts = found) ∧
          (topicMatches (topicBelow channel parts) message.subject = true ↔
            channel = route.channel ∧ parts <+: found ∧ parts ≠ found)) ∧
        (∀ {η : Type} (bus : Bus η) (handler : η) (channel : String), ChannelId channel →
          (∀ subscription ∈ bus.subscriptions, subscription.handler = handler →
            IsAbout channel subscription.topic) →
          handler ∈ bus.receivers message.subject → channel = route.channel) ∧
        (∀ (other : String) (otherRoute : Route) (otherMessage : RoutedMessage),
          Topic.parse other = .ok otherRoute → Addressed otherMessage otherRoute →
          otherMessage.subject = message.subject → otherRoute = route) := by
  obtain ⟨found, finds, valid, joined, id⟩ := exists_pieces_of_parse accepted
  refine ⟨found, finds, joined, ?_⟩
  intro message addressed
  rw [addressed.subject_eq valid joined]
  refine ⟨?_, ?_, ?_⟩
  · intro channel parts named clean
    constructor
    · rw [topicMatches_topicOf named clean]
      exact topicOf_inj named clean id valid
    · exact topicMatches_topicBelow_topicOf named clean id valid
  · intro η bus handler channel named about receives
    obtain ⟨subscription, inside, same, taken⟩ := mem_receivers receives
    exact (about subscription inside same).channel_eq named id valid taken
  · intro other otherRoute otherMessage otherAccepted otherAddressed same
    obtain ⟨parts, _, otherValid, otherJoined, otherId⟩ := exists_pieces_of_parse otherAccepted
    rw [otherAddressed.subject_eq otherValid otherJoined] at same
    obtain ⟨channels, pieces⟩ := (topicOf_inj otherId otherValid id valid).mp same
    have subtopics : otherRoute.subtopic = route.subtopic := by rw [otherJoined, pieces, joined]
    obtain ⟨otherChannel, otherSubtopic⟩ := otherRoute
    obtain ⟨channel, subtopic⟩ := route
    rw [Route.mk.injEq]
    exact ⟨channels, subtopics⟩

theorem channels_are_isolated_alarms :
    let topic := "/channels/alarms/messages/a%2Fb?x"
    let message := RoutedMessage.new "alarms" "a.b" "meter" [1, 2] 5
    Topic.parse topic = .ok ⟨"alarms", "a.b"⟩ ∧
      ∃ found : List String, FindsPieces topic found ∧ "a.b" = ".".intercalate found ∧
        ∀ (channel : String) (parts : List String), ChannelId channel →
          (∀ part ∈ parts, SubjectPiece part) →
          (topicMatches (topicOf channel parts) message.subject = true ↔
            channel = "alarms" ∧ parts = found) ∧
          (topicMatches (topicBelow channel parts) message.subject = true ↔
            channel = "alarms" ∧ parts <+: found ∧ parts ≠ found) := by
  intro topic message
  obtain ⟨found, finds, joined, isolated⟩ := channels_are_isolated Gateway.parse_alarm
  refine ⟨Gateway.parse_alarm, found, finds, joined, ?_⟩
  intro channel parts named clean
  exact (isolated message ⟨rfl, rfl⟩).1 channel parts named clean

end ChannelGate.Bus
