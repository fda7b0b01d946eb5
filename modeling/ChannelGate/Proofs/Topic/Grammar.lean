import ChannelGate.Proofs.Text.Percent
import ChannelGate.Text.Alphanumeric
import ChannelGate.Topic

set_option autoImplicit false

namespace ChannelGate.Topic

/-- The characters of a channel id: ASCII letters, digits, `_` and `-`. -/
def ChannelChar (c : Char) : Prop :=
  'A' ≤ c ∧ c ≤ 'Z' ∨ 'a' ≤ c ∧ c ≤ 'z' ∨ '0' ≤ c ∧ c ≤ '9' ∨ c = '_' ∨ c = '-'

def Separator (c : Char) : Prop := c = '/' ∨ c = '.'

inductive Cut : List Char → List (List Char) → Prop
  | whole {piece : List Char} (clean : ∀ c ∈ piece, ¬ Separator c) : Cut piece [piece]
  | next {piece text : List Char} {separator : Char} {more : List (List Char)}
    (clean : ∀ c ∈ piece, ¬ Separator c) (cut : Separator separator) (rest : Cut text more) :
    Cut (piece ++ separator :: text) (piece :: more)

/-- A piece that may stand in a subtopic: it is not empty and has no wildcard. -/
def GoodPiece (piece : List Char) : Prop :=
  piece ≠ [] ∧ ∀ c ∈ piece, c ≠ '*' ∧ c ≠ '+' ∧ c ≠ '#' ∧ c ≠ '>'

/-- The subtopic that an encoded trailer names: none, or the good pieces of the text whose UTF-8
form its escapes spell, joined by dots. -/
inductive Names : List Char → List Char → Prop
  | none : Names [] []
  | pieces {encoded decoded : List Char} {parts : List (List Char)}
    (spelled : Percent.Escaped encoded (decoded.flatMap String.utf8EncodeChar))
    (cut : Cut decoded parts) (good : ∀ piece ∈ parts, GoodPiece piece) :
    Names encoded (List.intercalate ['.'] parts)

/-- A topic in its parts, and the route that they name. -/
structure Spelling (topic channel subtopic lead tail encoded query : String) : Prop where
  whole : topic = lead ++ "channels/" ++ channel ++ "/messages" ++ tail ++ query
  lead : lead = "" ∨ lead = "/"
  channelFilled : channel ≠ ""
  channelChars : ∀ c ∈ channel.toList, ChannelChar c
  tail : tail = "" ∧ encoded = "" ∨ tail = "/" ++ encoded ∨ tail = "/" ++ encoded ++ "/"
  beforeQuery : '?' ∉ encoded.toList
  query : query = "" ∨ ∃ rest, query = "?" ++ rest
  names : Names encoded.toList subtopic.toList

def Routes (topic channel subtopic : String) : Prop :=
  ∃ lead tail encoded query, Spelling topic channel subtopic lead tail encoded query

theorem isChannelChar_iff {c : Char} : isChannelChar c = true ↔ ChannelChar c := by
  simp only [isChannelChar, ChannelChar, Alphanumeric.isAlphanum_iff, Bool.or_eq_true,
    decide_eq_true_eq, or_assoc]

theorem isSeparator_iff {c : Char} : isSeparator c = true ↔ Separator c := by
  simp only [isSeparator, Separator, Bool.or_eq_true, decide_eq_true_eq]

theorem isPiece_iff {piece : List Char} : isPiece piece = true ↔ GoodPiece piece := by
  simp only [isPiece, GoodPiece, isWildcard, Bool.and_eq_true, decide_eq_true_eq,
    Bool.not_eq_true', List.any_eq_false, Bool.or_eq_true, not_or, and_assoc, ne_eq]

theorem after?_eq_some {mark text rest : List Char} :
    after? mark text = some rest ↔ text = mark ++ rest := by
  unfold after?
  split
  · rename_i starts
    obtain ⟨behind, rfl⟩ := List.isPrefixOf_iff_prefix.mp starts
    rw [List.drop_left, Option.some.injEq, List.append_cancel_left_eq]
  · rename_i other
    constructor
    · intro found
      cases found
    · intro same
      subst same
      exact absurd (List.isPrefixOf_iff_prefix.mpr (List.prefix_append mark rest)) other

/-- One slash may stand before a mark that does not begin with one. -/
theorem after?_dropSlash {text rest : List Char} :
    after? channelsMark (dropSlash text) = some rest ↔
      ∃ lead, (lead = [] ∨ lead = ['/']) ∧ text = lead ++ (channelsMark ++ rest) := by
  rw [after?_eq_some]
  constructor
  · intro same
    unfold dropSlash at same
    split at same
    · rename_i behind
      exact ⟨['/'], .inr rfl, congrArg ('/' :: ·) same⟩
    · exact ⟨[], .inl rfl, same⟩
  · intro given
    obtain ⟨lead, rfl | rfl, rfl⟩ := given
    · rfl
    · rfl

theorem trailer?_eq_some {text trailer : List Char} :
    trailer? text = some trailer ↔
      ∃ tail, text = messagesMark ++ tail ∧ (tail = [] ∧ trailer = [] ∨ tail = '/' :: trailer) := by
  unfold trailer?
  constructor
  · intro found
    split at found
    · rename_i rest
      cases found
      exact ⟨[], after?_eq_some.mp rest, .inl ⟨rfl, rfl⟩⟩
    · rename_i tail rest
      cases found
      exact ⟨_, after?_eq_some.mp rest, .inr rfl⟩
    · cases found
  · intro given
    obtain ⟨tail, rest, ⟨rfl, rfl⟩ | rfl⟩ := given
    · rw [after?_eq_some.mpr rest]
    · rw [after?_eq_some.mpr rest]
      rfl

/-- What a search for a mark stops at is the mark. -/
theorem head_of_dropWhile_ne {mark c : Char} {text rest : List Char}
    (behind : text.dropWhile (· ≠ mark) = c :: rest) : c = mark := by
  have stops := List.head_dropWhile_not (· ≠ mark) (l := text) (by rw [behind]; simp)
  simp only [behind, List.head_cons] at stops
  exact Decidable.of_not_not (of_decide_eq_false stops)

theorem ne_of_mem_takeWhile_ne {mark c : Char} {text : List Char}
    (member : c ∈ text.takeWhile (· ≠ mark)) : c ≠ mark := by
  have kept := List.all_eq_true.mp (List.all_takeWhile (p := (· ≠ mark)) (l := text)) c member
  exact of_decide_eq_true kept

theorem channelChar_ne_slash {c : Char} (inside : ChannelChar c) : c ≠ '/' := by
  intro same
  subst same
  exact absurd (isChannelChar_iff.mpr inside) (by decide)

/-- The channel ends at the first slash, and its characters tell it from what follows. -/
theorem channelAndTrailer?_eq_some {text channel trailer : List Char} :
    channelAndTrailer? text = some (channel, trailer) ↔
      ∃ rest, text = channel ++ '/' :: rest ∧ channel ≠ [] ∧ (∀ c ∈ channel, ChannelChar c) ∧
        trailer? rest = some trailer := by
  unfold channelAndTrailer?
  simp only
  constructor
  · intro found
    split at found
    · cases found
    · rename_i slash rest behind
      have slashed := head_of_dropWhile_ne behind
      subst slashed
      split at found
      · rename_i good
        obtain ⟨_, ended, same⟩ := Option.map_eq_some_iff.mp found
        obtain ⟨rfl, rfl⟩ := Prod.mk.injEq .. ▸ same
        refine ⟨rest, ?_, good.1, ?_, ended⟩
        · rw [← behind, List.takeWhile_append_dropWhile]
        · intro c member
          exact isChannelChar_iff.mp (List.all_eq_true.mp good.2 c member)
      · cases found
  · intro given
    obtain ⟨rest, rfl, filled, good, ended⟩ := given
    have before : ∀ c ∈ channel, decide (c ≠ '/') = true := by
      intro c member
      exact decide_eq_true (channelChar_ne_slash (good c member))
    have taken : (channel ++ '/' :: rest).takeWhile (· ≠ '/') = channel := by
      rw [List.takeWhile_append_of_pos before]
      simp
    have dropped : (channel ++ '/' :: rest).dropWhile (· ≠ '/') = '/' :: rest := by
      rw [List.dropWhile_append_of_pos before]
      simp
    have all : channel.all isChannelChar := by
      rw [List.all_eq_true]
      intro c member
      exact isChannelChar_iff.mpr (good c member)
    rw [taken, dropped]
    simp only [ne_eq, filled, not_false_eq_true, all, and_self, ↓reduceIte, ended, Option.map_some]

def Query (query : List Char) : Prop := query = [] ∨ ∃ rest, query = '?' :: rest

theorem path_eq_iff {text front : List Char} :
    path text = front ↔ '?' ∉ front ∧ ∃ query, Query query ∧ text = front ++ query := by
  unfold path
  constructor
  · intro same
    subst same
    constructor
    · intro member
      exact ne_of_mem_takeWhile_ne member rfl
    · refine ⟨text.dropWhile (· ≠ '?'), ?_, List.takeWhile_append_dropWhile.symm⟩
      cases behind : text.dropWhile (· ≠ '?') with
      | nil => exact .inl rfl
      | cons mark rest => exact .inr ⟨rest, by rw [head_of_dropWhile_ne behind]⟩
  · intro given
    obtain ⟨clean, query, mark, rfl⟩ := given
    have before : ∀ c ∈ front, decide (c ≠ '?') = true := by
      intro c member
      refine decide_eq_true ?_
      intro same
      subst same
      exact clean member
    rw [List.takeWhile_append_of_pos before]
    rcases mark with rfl | ⟨rest, rfl⟩
    · simp
    · simp

/-- The shape of a topic that can be split, with its trailer as written. -/
structure Shape (topic channel trailer lead tail query : List Char) : Prop where
  whole : topic = lead ++ (channelsMark ++ (channel ++ '/' :: (messagesMark ++ tail))) ++ query
  lead : lead = [] ∨ lead = ['/']
  filled : channel ≠ []
  chars : ∀ c ∈ channel, ChannelChar c
  tail : tail = [] ∧ trailer = [] ∨ tail = '/' :: trailer
  beforeQuery : '?' ∉ trailer
  query : Query query

theorem splitText?_eq_some {topic channel trailer : List Char} :
    splitText? topic = some (channel, trailer) ↔
      ∃ lead tail query, Shape topic channel trailer lead tail query := by
  unfold splitText?
  rw [Option.bind_eq_some_iff]
  constructor
  · intro given
    obtain ⟨text, marked, found⟩ := given
    obtain ⟨lead, leads, front⟩ := after?_dropSlash.mp marked
    obtain ⟨rest, rfl, filled, good, ended⟩ := channelAndTrailer?_eq_some.mp found
    obtain ⟨tail, rfl, tails⟩ := trailer?_eq_some.mp ended
    obtain ⟨clean, query, queries, whole⟩ := path_eq_iff.mp front
    refine ⟨lead, tail, query, whole, leads, filled, good, tails, ?_, queries⟩
    rcases tails with ⟨_, rfl⟩ | rfl
    · exact List.not_mem_nil
    · intro member
      exact clean (by simp [member])
  · intro given
    obtain ⟨lead, tail, query, whole, leads, filled, good, tails, clean, queries⟩ := given
    have front : path topic =
        lead ++ (channelsMark ++ (channel ++ '/' :: (messagesMark ++ tail))) := by
      refine path_eq_iff.mpr ⟨?_, query, queries, whole⟩
      have channelClean : '?' ∉ channel := by
        intro member
        exact absurd (isChannelChar_iff.mpr (good _ member)) (by decide)
      have tailClean : '?' ∉ tail := by
        rcases tails with ⟨rfl, _⟩ | rfl
        · exact List.not_mem_nil
        · simpa using clean
      have leadClean : '?' ∉ lead := by
        rcases leads with rfl | rfl
        · exact List.not_mem_nil
        · decide
      have marksClean : '?' ∉ channelsMark ∧ '?' ∉ messagesMark := by decide
      simp [channelClean, tailClean, leadClean, marksClean]
    refine ⟨_, after?_dropSlash.mpr ⟨lead, leads, front⟩, ?_⟩
    exact channelAndTrailer?_eq_some.mpr
      ⟨_, rfl, filled, good, trailer?_eq_some.mpr ⟨tail, rfl, tails⟩⟩

theorem cut_pieces (text : List Char) : Cut text (pieces text) := by
  induction text with
  | nil => exact .whole (fun c member => absurd member List.not_mem_nil)
  | cons c rest ih =>
    unfold pieces
    split
    · rename_i separator
      show Cut ([] ++ c :: rest) _
      exact .next (fun c member => absurd member List.not_mem_nil) (isSeparator_iff.mp separator) ih
    · rename_i other
      have clean : ¬ Separator c := fun separator => other (isSeparator_iff.mpr separator)
      generalize pieces rest = parts at ih
      cases ih with
      | whole inside => exact .whole (List.forall_mem_cons.mpr ⟨clean, inside⟩)
      | next inside separator more =>
        exact .next (List.forall_mem_cons.mpr ⟨clean, inside⟩) separator more

theorem pieces_cons {c : Char} {rest piece : List Char} {more : List (List Char)}
    (clean : ¬ Separator c) (others : pieces rest = piece :: more) :
    pieces (c :: rest) = (c :: piece) :: more := by
  have inside : ¬ isSeparator c = true := by
    rw [isSeparator_iff]
    exact clean
  simp only [pieces, inside, others, Bool.false_eq_true, ↓reduceIte]

theorem pieces_of_clean {piece : List Char} (clean : ∀ c ∈ piece, ¬ Separator c) :
    pieces piece = [piece] := by
  induction piece with
  | nil => rfl
  | cons c piece ih =>
    have others := ih (fun c member => clean c (List.mem_cons_of_mem _ member))
    exact pieces_cons (clean c List.mem_cons_self) others

theorem pieces_append {piece text : List Char} {separator : Char}
    (clean : ∀ c ∈ piece, ¬ Separator c) (cut : Separator separator) :
    pieces (piece ++ separator :: text) = piece :: pieces text := by
  induction piece with
  | nil =>
    have here : isSeparator separator = true := isSeparator_iff.mpr cut
    simp only [List.nil_append, pieces, here, ↓reduceIte]
  | cons c piece ih =>
    have others := ih (fun c member => clean c (List.mem_cons_of_mem _ member))
    exact pieces_cons (clean c List.mem_cons_self) others

theorem cut_iff {text : List Char} {parts : List (List Char)} :
    Cut text parts ↔ parts = pieces text := by
  constructor
  · intro cut
    induction cut with
    | whole clean => exact (pieces_of_clean clean).symm
    | next clean separator rest ih => rw [pieces_append clean separator, ih]
  · intro same
    subst same
    exact cut_pieces text

theorem Cut.empty_of_nil {parts : List (List Char)} (cut : Cut [] parts) : [] ∈ parts := by
  rw [cut_iff.mp cut]
  exact List.mem_singleton_self []

/-- A text that ends in a slash has an empty piece at its end. -/
theorem Cut.empty_of_end_slash {text : List Char} {parts : List (List Char)} (cut : Cut text parts)
    (last : text.getLast? = some '/') : [] ∈ parts := by
  induction cut with
  | whole clean => exact absurd (.inl rfl) (clean '/' (List.mem_of_getLast? last))
  | @next piece text separator more clean separated rest ih =>
    cases text with
    | nil => exact List.mem_cons_of_mem _ rest.empty_of_nil
    | cons c text =>
      rw [List.getLast?_append, List.getLast?_cons_cons] at last
      refine List.mem_cons_of_mem _ (ih ?_)
      cases behind : (c :: text).getLast? with
      | none => cases List.getLast?_eq_none_iff.mp behind
      | some final =>
        rw [behind] at last
        exact last

theorem not_goodPiece_nil : ¬ GoodPiece [] := fun good => good.1 rfl

theorem Names.not_end_slash {encoded subtopic : List Char} (names : Names encoded subtopic) :
    encoded.getLast? ≠ some '/' := by
  intro last
  cases names with
  | none => cases last
  | pieces spelled cut good =>
    exact not_goodPiece_nil (good [] (cut.empty_of_end_slash (spelled.text_end_slash last)))

/-- A trailer has at most one slash to drop: what names a subtopic ends in none. -/
theorem names_dropLastSlash {trailer subtopic : List Char} :
    Names (dropLastSlash trailer) subtopic ↔
      ∃ encoded, (trailer = encoded ∨ trailer = encoded ++ ['/']) ∧ Names encoded subtopic := by
  unfold dropLastSlash
  constructor
  · intro names
    split at names
    · rename_i last
      obtain ⟨filled, final⟩ := List.getLast?_eq_some_iff.mp last
      exact ⟨trailer.dropLast, .inr (by rw [final, List.dropLast_concat]), names⟩
    · exact ⟨trailer, .inl rfl, names⟩
  · intro given
    obtain ⟨encoded, rfl | rfl, names⟩ := given
    · rw [if_neg names.not_end_slash]
      exact names
    · rw [List.getLast?_concat, if_pos rfl, List.dropLast_concat]
      exact names

theorem names_iff {encoded subtopic : List Char} :
    Names encoded subtopic ↔
      (encoded = [] ∧ subtopic = []) ∨
        ∃ decoded, Percent.decodeText? encoded = some decoded ∧
          (pieces decoded).all isPiece = true ∧
          subtopic = List.intercalate ['.'] (pieces decoded) := by
  constructor
  · intro names
    cases names with
    | none => exact .inl ⟨rfl, rfl⟩
    | pieces spelled cut good =>
      rename_i decoded parts
      obtain rfl := cut_iff.mp cut
      refine .inr ⟨decoded, Percent.decodeText?_eq_some_iff.mpr spelled, ?_, rfl⟩
      rw [List.all_eq_true]
      intro piece member
      exact isPiece_iff.mpr (good piece member)
  · intro either
    rcases either with ⟨rfl, rfl⟩ | ⟨decoded, read, good, rfl⟩
    · exact .none
    · refine .pieces (Percent.decodeText?_eq_some_iff.mp read) (cut_pieces decoded) ?_
      intro piece member
      exact isPiece_iff.mp (List.all_eq_true.mp good piece member)

theorem decodeText?_nil : Percent.decodeText? [] = some [] :=
  Percent.decodeText?_eq_some_iff.mpr .nil

/-- The subtopic of a trailer is the one that it names without its last slash. -/
theorem subtopic_eq_ok {trailer target : String} :
    subtopic trailer = .ok target ↔ Names (dropLastSlash trailer.toList) target.toList := by
  rw [names_iff]
  unfold subtopic subtopicPieces?
  generalize dropLastSlash trailer.toList = encoded
  by_cases empty : encoded = []
  · subst empty
    simp only [↓reduceIte, decodeText?_nil, Except.ok.injEq, true_and]
    constructor
    · intro same
      subst same
      exact .inl String.toList_ofList
    · intro either
      rcases either with bare | ⟨decoded, same, good, _⟩
      · rw [← String.ofList_toList (s := target), bare]
        rfl
      · cases same
        cases good
  · simp only [empty, ↓reduceIte, false_and, false_or]
    cases Percent.decodeText? encoded with
    | none => simp
    | some decoded =>
      simp only [Option.bind_eq_bind, Option.bind_some, Option.some.injEq, exists_eq_left']
      by_cases good : (pieces decoded).all isPiece = true
      · simp only [good, ↓reduceIte, Except.ok.injEq, true_and]
        constructor
        · intro same
          subst same
          exact String.toList_ofList
        · intro same
          rw [← same, String.ofList_toList]
      · simp only [good, Bool.false_eq_true, ↓reduceIte, false_and, reduceCtorEq]

theorem split_eq_ok {topic channel trailer : String} :
    split topic = .ok ⟨channel, trailer⟩ ↔
      splitText? topic.toList = some (channel.toList, trailer.toList) := by
  unfold split
  cases found : splitText? topic.toList with
  | none => simp only [reduceCtorEq]
  | some parts =>
    obtain ⟨channelText, trailerText⟩ := parts
    simp only [Except.ok.injEq, Parts.mk.injEq, Option.some.injEq, Prod.mk.injEq]
    constructor
    · intro given
      obtain ⟨rfl, rfl⟩ := given
      exact ⟨String.toList_ofList.symm, String.toList_ofList.symm⟩
    · intro given
      obtain ⟨rfl, rfl⟩ := given
      exact ⟨String.ofList_toList, String.ofList_toList⟩

theorem split_error {topic : String} {error : GatewayError} (failed : split topic = .error error) :
    error = .malformedTopic := by
  unfold split at failed
  split at failed
  · cases failed
  · cases failed
    rfl

/-- Parsing is splitting and then reading the trailer. -/
theorem parse_eq_ok {topic channel target : String} :
    parse topic = .ok ⟨channel, target⟩ ↔
      ∃ trailer, split topic = .ok ⟨channel, trailer⟩ ∧ subtopic trailer = .ok target := by
  unfold parse
  cases divided : split topic with
  | error error => simp [bind, Except.bind]
  | ok parts =>
    obtain ⟨front, behind⟩ := parts
    cases named : subtopic behind with
    | error error => simp [bind, Except.bind, named, throw, throwThe, MonadExceptOf.throw]
    | ok result =>
      simp only [bind, Except.bind, named, pure, Except.pure, Except.ok.injEq, Route.mk.injEq,
        Parts.mk.injEq]
      constructor
      · intro given
        obtain ⟨rfl, rfl⟩ := given
        exact ⟨behind, ⟨rfl, rfl⟩, named⟩
      · intro given
        obtain ⟨_, ⟨same, rfl⟩, read⟩ := given
        rw [named] at read
        exact ⟨same, Except.ok.inj read⟩

theorem parse_eq_error {topic : String} {error : GatewayError} (failed : parse topic = .error error) :
    error = .malformedTopic := by
  unfold parse at failed
  cases divided : split topic with
  | error other =>
    rw [divided] at failed
    cases failed
    exact split_error divided
  | ok parts =>
    rw [divided] at failed
    cases named : subtopic parts.trailer with
    | error other =>
      simp only [bind, Except.bind, named] at failed
      cases failed
      rfl
    | ok result =>
      simp only [bind, Except.bind, named] at failed
      cases failed

theorem toList_eq_nil {text : String} : text.toList = [] ↔ text = "" := by
  rw [← String.toList_inj]
  rfl

theorem Spelling.shape {topic channel target lead tail encoded query : String}
    (spelling : Spelling topic channel target lead tail encoded query) :
    ∃ trailer : String, Shape topic.toList channel.toList trailer.toList lead.toList tail.toList
      query.toList ∧ (trailer = encoded ∨ trailer = encoded ++ "/") := by
  have whole : topic.toList = lead.toList ++ (channelsMark ++ (channel.toList ++
      '/' :: (messagesMark ++ tail.toList))) ++ query.toList := by
    rw [spelling.whole]
    simp only [String.toList_append, List.append_assoc]
    rfl
  have leads : lead.toList = [] ∨ lead.toList = ['/'] := by
    rcases spelling.lead with rfl | rfl
    · exact .inl rfl
    · exact .inr rfl
  have filled : channel.toList ≠ [] := by
    rw [ne_eq, toList_eq_nil]
    exact spelling.channelFilled
  have queries : Query query.toList := by
    rcases spelling.query with rfl | ⟨rest, rfl⟩
    · exact .inl rfl
    · exact .inr ⟨rest.toList, by rw [String.toList_append]; rfl⟩
  have clean := spelling.beforeQuery
  rcases spelling.tail with ⟨rfl, rfl⟩ | rfl | rfl
  · exact ⟨"", ⟨whole, leads, filled, spelling.channelChars, .inl ⟨rfl, rfl⟩, clean, queries⟩,
      .inl rfl⟩
  · refine ⟨encoded, ⟨whole, leads, filled, spelling.channelChars, .inr ?_, clean, queries⟩,
      .inl rfl⟩
    rw [String.toList_append]
    rfl
  · refine ⟨encoded ++ "/", ⟨whole, leads, filled, spelling.channelChars, .inr ?_, ?_, queries⟩,
      .inr rfl⟩
    · rw [String.append_assoc, String.toList_append]
      rfl
    · rw [String.toList_append, List.mem_append, not_or]
      exact ⟨clean, by decide⟩

theorem Shape.routes {topic channel trailer target encoded : String}
    {lead tail query : List Char}
    (shape : Shape topic.toList channel.toList trailer.toList lead tail query)
    (ended : trailer = encoded ∨ trailer = encoded ++ "/")
    (names : Names encoded.toList target.toList) : Routes topic channel target := by
  refine ⟨String.ofList lead, String.ofList tail, encoded, String.ofList query, ?_⟩
  have filled : channel ≠ "" := by
    rw [ne_eq, ← toList_eq_nil]
    exact shape.filled
  refine ⟨?_, ?_, filled, shape.chars, ?_, ?_, ?_, names⟩
  · rw [← String.toList_inj, shape.whole]
    simp only [String.toList_append, String.toList_ofList, List.append_assoc]
    rfl
  · rcases shape.lead with rfl | rfl
    · exact .inl rfl
    · exact .inr rfl
  · rcases shape.tail with ⟨rfl, empty⟩ | rfl
    · rcases ended with rfl | rfl
      · exact .inl ⟨rfl, toList_eq_nil.mp empty⟩
      · rw [String.toList_append, List.append_eq_nil_iff] at empty
        cases empty.2
    · rcases ended with rfl | rfl
      · refine .inr (.inl ?_)
        rw [← String.toList_inj, String.toList_append, String.toList_ofList]
        rfl
      · refine .inr (.inr ?_)
        simp only [← String.toList_inj, String.append_assoc, String.toList_append,
          String.toList_ofList]
        rfl
  · have clean := shape.beforeQuery
    rcases ended with rfl | rfl
    · exact clean
    · rw [String.toList_append, List.mem_append, not_or] at clean
      exact clean.1
  · rcases shape.query with rfl | ⟨rest, rfl⟩
    · exact .inl rfl
    · refine .inr ⟨String.ofList rest, ?_⟩
      simp only [← String.toList_inj, String.toList_append, String.toList_ofList]
      rfl

theorem parse_eq_ok_iff_routes {topic channel target : String} :
    parse topic = .ok ⟨channel, target⟩ ↔ Routes topic channel target := by
  rw [parse_eq_ok]
  constructor
  · intro given
    obtain ⟨trailer, divided, named⟩ := given
    obtain ⟨lead, tail, query, shape⟩ := splitText?_eq_some.mp (split_eq_ok.mp divided)
    obtain ⟨encoded, ended, names⟩ := names_dropLastSlash.mp (subtopic_eq_ok.mp named)
    have ended' : trailer = String.ofList encoded ∨ trailer = String.ofList encoded ++ "/" := by
      rcases ended with same | same
      · exact .inl (by rw [← same, String.ofList_toList])
      · right
        rw [← String.toList_inj, same, String.toList_append, String.toList_ofList]
        rfl
    refine shape.routes ended' ?_
    rw [String.toList_ofList]
    exact names
  · intro given
    obtain ⟨lead, tail, encoded, query, spelling⟩ := given
    obtain ⟨trailer, shape, ended⟩ := spelling.shape
    refine ⟨trailer, split_eq_ok.mpr (splitText?_eq_some.mpr ⟨_, _, _, shape⟩), ?_⟩
    refine subtopic_eq_ok.mpr (names_dropLastSlash.mpr ⟨encoded.toList, ?_, spelling.names⟩)
    rcases ended with rfl | rfl
    · exact .inl rfl
    · exact .inr String.toList_append

/-- The parser accepts exactly the language of topics and answers the route that the spelling
names; every other text is a malformed topic. -/
theorem parse_accepts_exactly (topic : String) :
    (∀ channel target, parse topic = .ok ⟨channel, target⟩ ↔ Routes topic channel target) ∧
      (parse topic = .error .malformedTopic ↔
        ¬ ∃ channel target, Routes topic channel target) := by
  refine ⟨fun channel target => parse_eq_ok_iff_routes, ?_⟩
  constructor
  · intro failed given
    obtain ⟨channel, target, routes⟩ := given
    rw [parse_eq_ok_iff_routes.mpr routes] at failed
    cases failed
  · intro none
    cases result : parse topic with
    | error error => rw [parse_eq_error result]
    | ok route => exact absurd ⟨_, _, parse_eq_ok_iff_routes.mp result⟩ none

end ChannelGate.Topic
