import ArrowScript.Proofs.Token.Beginnings
import ArrowScript.Proofs.Token.Locations
import Mathlib.Data.List.Chain
import Mathlib.Data.Option.NAry

/-!
# Combined spans

The tokens of a source stand one behind the other, and where two neighbors do not touch, a character between them is
reported. So the span that two tokens combine to encloses them and what stands between them; it is without a text
unless they are the same or touch. The spans of a run of tokens combine one after the other to a span with the text of
the whole run, unless a character in it is reported. In which order spans are combined does not matter as long as they
stand one behind the other.
-/

namespace ArrowScript
open Token

/-! ## Enclosing spans -/

/-- A text is what stands in a source from one offset to another. -/
def IsExcerpt (source : String) (start stop : Nat) (text : String) : Prop :=
  ∃ front back, source = front ++ text ++ back ∧ front.utf8ByteSize = start ∧ (front ++ text).utf8ByteSize = stop

/-- A span encloses two spans of a source and what stands between them: it runs from the start of the first to the end
of the second, and its text, if it has one, is what stands there. -/
structure Span.Encloses (span : Span) (source : String) (first last : Span) : Prop where
  file : span.file = first.file
  offset : span.offset = first.offset
  stop : span.stop = last.stop
  line : span.line = first.line
  column : span.column = first.column
  text : ∀ text ∈ span.text, IsExcerpt source first.offset last.stop text

/-- A character between two offsets is reported to be unexpected. -/
def Token.Scan.RejectsBetween (scan : Scan) (start stop : Nat) : Prop :=
  ∃ c offset, scan.Rejects c offset ∧ start ≤ offset ∧ offset < stop

/-! ## Joined spans -/

namespace Span

variable {file source : String} {first second third span : Span}

/-- What two spans of one file combine to. -/
def joined (first second : Span) : Span :=
  { first with
    text := joinedText first second
    length := second.stop - first.offset }

lemma combine_eq_joined (same : first.file = second.file) : first.combine second = .ok (first.joined second) :=
  if_pos same

/-- A joined span ends with its second part, if this does not end before the first begins. -/
lemma stop_joined (forward : first.offset ≤ second.stop) : (first.joined second).stop = second.stop :=
  Nat.add_sub_of_le forward

/-- Spans that stand one behind the other are joined where they touch. A span that stands behind itself is empty, so
it touches itself, too. -/
lemma joinedText_of_le (ordered : first.stop ≤ second.offset) : joinedText first second =
    if first.stop = second.offset then Option.map₂ (· ++ ·) first.text second.text else none := by
  unfold joinedText
  by_cases touch : first.stop = second.offset
  · simp only [if_pos touch]
    cases first.text <;> cases second.text <;> rfl
  · have apart : first ≠ second := by
      rintro rfl
      exact touch (Nat.le_antisymm ordered first.offset_le_stop)
    simp only [if_neg touch, if_neg apart]
    cases first.text <;> cases second.text <;> rfl

/-- Spans that stand one behind the other have a text together if they touch and both have one. -/
lemma isSome_joinedText_of_le (ordered : first.stop ≤ second.offset) : (joinedText first second).isSome ↔
    first.text.isSome ∧ second.text.isSome ∧ first.stop = second.offset := by
  rw [joinedText_of_le ordered]
  split_ifs with touch
  · cases first.text <;> cases second.text <;> simp [touch]
  · simp [touch]

/-- A span has a text with itself if it has one. -/
lemma isSome_joinedText_self (span : Span) : (joinedText span span).isSome = span.text.isSome := by
  unfold joinedText
  cases span.text with
  | none => rfl
  | some text =>
    show (if _ then some (text ++ text) else if span = span then some text else none).isSome = true
    rw [if_pos (rfl : span = span)]
    split <;> rfl

/-- Joining is associative on spans that stand one behind the other. -/
lemma joined_assoc (ordered : first.stop ≤ second.offset) (ordered' : second.stop ≤ third.offset) :
    (first.joined second).joined third = first.joined (second.joined third) := by
  have forward : first.offset ≤ second.stop := first.offset_le_stop.trans (ordered.trans second.offset_le_stop)
  have forward' : second.offset ≤ third.stop := second.offset_le_stop.trans (ordered'.trans third.offset_le_stop)
  have stop := stop_joined forward
  have stop' := stop_joined forward'
  have text : joinedText (first.joined second) third = joinedText first (second.joined third) := by
    have behind : (first.joined second).stop ≤ third.offset := stop ▸ ordered'
    have before : first.stop ≤ (second.joined third).offset := ordered
    rw [joinedText_of_le behind, joinedText_of_le before, stop]
    show (if _ then Option.map₂ _ (joinedText first second) third.text else none) =
      if _ then Option.map₂ _ first.text (joinedText second third) else none
    rw [joinedText_of_le ordered, joinedText_of_le ordered']
    show _ = if first.stop = second.offset then _ else none
    split_ifs
    · exact Option.map₂_assoc fun _ _ _ => String.append_assoc
    · exact Option.map₂_none_left _ _
    · exact (Option.map₂_none_right _ _).symm
    · rfl
  show (⟨_, _, _, _, _, _⟩ : Span) = ⟨_, _, _, _, _, _⟩
  rw [text, stop']
  rfl

/-- Spans of one file combine one after the other to what they are joined to. -/
lemma foldlM_combine {spans : List Span} (same : ∀ span ∈ spans, span.file = first.file) :
    spans.foldlM combine first = .ok (spans.foldl joined first) := by
  induction spans generalizing first with
  | nil => rfl
  | cons second rest ih =>
    rw [List.foldlM_cons, combine_eq_joined (same second List.mem_cons_self).symm]
    exact ih fun span mem => same span (List.mem_cons_of_mem _ mem)

/-- A span that others are joined to begins where it began. -/
lemma exists_foldl_joined (spans : List Span) (first : Span) :
    ∃ text length, spans.foldl joined first = { first with text := text, length := length } := by
  induction spans generalizing first with
  | nil => exact ⟨first.text, first.length, rfl⟩
  | cons second rest ih =>
    obtain ⟨text, length, e⟩ := ih (first.joined second)
    exact ⟨text, length, e⟩

namespace LiesIn

/-- The text of a span in a source is what stands there. -/
lemma excerpt (h : span.LiesIn file source) : ∀ text ∈ span.text, IsExcerpt source span.offset span.stop text := by
  intro text known
  obtain ⟨front, content, lies, same⟩ := h
  obtain ⟨back, e⟩ := lies.piece
  obtain rfl := same text known
  have offset : span.offset = Text.byteLength front := lies.offset
  have length : span.length = Text.byteLength content := lies.length
  refine ⟨String.ofList front, String.ofList back, ?_, ?_, ?_⟩
  · rw [← String.ofList_append, ← String.ofList_append, e, String.ofList_toList]
  · rw [offset, Text.byteLength_eq_utf8ByteSize]
  · rw [stop, offset, length, ← String.ofList_append, ← Text.byteLength_eq_utf8ByteSize, Text.byteLength_append]

/-- A span in a source that begins where one span does and ends with another encloses both. -/
lemma encloses (h : span.LiesIn file source)
    (begins : ∃ text length, span = { first with text := text, length := length }) (ends : span.stop = second.stop) :
    span.Encloses source first second := by
  have excerpt := h.excerpt
  rw [ends] at excerpt
  obtain ⟨text, length, rfl⟩ := begins
  exact ⟨rfl, rfl, ends, rfl, rfl, excerpt⟩

/-- Spans of one source are of one file. -/
lemma same_file (h : first.LiesIn file source) (g : second.LiesIn file source) : first.file = second.file := by
  obtain ⟨_, _, lies, -⟩ := h
  obtain ⟨_, _, lies', -⟩ := g
  exact lies.file.trans lies'.file.symm

/-- Spans in a source are joined to a span in it. -/
lemma joined (h : first.LiesIn file source) (g : second.LiesIn file source) :
    (first.joined second).LiesIn file source :=
  h.combine g (combine_eq_joined (h.same_file g))

lemma foldl_joined {spans : List Span} (h : first.LiesIn file source) (each : ∀ span ∈ spans, span.LiesIn file source) :
    (spans.foldl Span.joined first).LiesIn file source := by
  induction spans generalizing first with
  | nil => exact h
  | cons second rest ih =>
    exact ih (h.joined (each second List.mem_cons_self)) fun span mem => each span (List.mem_cons_of_mem _ mem)

end LiesIn

end Span

/-! ## Neighbors -/

namespace Token

variable {file source : String} {scanned : Scan} {token first second last : Token} {c : Char} {offset start stop : Nat}

/-- A token comes next after another one: it stands behind it, and where it does not touch it the character in between
is reported. -/
structure Scan.Follows (scan : Scan) (first second : Token) : Prop where
  ordered : first.span.stop ≤ second.span.offset
  gap : first.span.stop < second.span.offset → ∃ c, scan.Rejects c first.span.stop

lemma Scan.not_rejectsBetween (le : stop ≤ start) : ¬ scanned.RejectsBetween start stop := by
  rintro ⟨c, offset, -, behind, before⟩
  exact absurd (behind.trans_lt before) (Nat.not_lt.mpr le)

/-- Two tokens that follow each other touch if nothing between them is reported. -/
lemma Scan.Follows.touch_iff (h : scanned.Follows first second) :
    first.span.stop = second.span.offset ↔ ¬ scanned.RejectsBetween first.span.stop second.span.offset := by
  constructor
  · exact fun touch => Scan.not_rejectsBetween touch.ge
  · intro quiet
    by_contra apart
    have between := Nat.lt_of_le_of_ne h.ordered apart
    obtain ⟨c, rejects⟩ := h.gap between
    exact quiet ⟨c, _, rejects, Nat.le_refl _, between⟩

/-- A run of tokens ends with its first token or behind it. -/
lemma offset_le_getLastD {run : List Token} (chain : (first :: run).IsChain scanned.Follows) :
    first.span.offset ≤ (run.getLastD first).span.offset := by
  induction run generalizing first with
  | nil => exact Nat.le_refl _
  | cons next rest ih =>
    obtain ⟨follows, chain⟩ := List.isChain_cons_cons.mp chain
    rw [List.getLastD_cons]
    exact first.span.offset_le_stop.trans (follows.ordered.trans (ih chain))

/-- Tokens of slices that lie side by side follow each other if the characters between them are reported. -/
lemma follow_of_tiles {slices : List Slice} (tiles : Tiles offset last.span.offset (slices.map Slice.span))
    (rejected : ∀ slice ∈ slices, slice.kind? = none → ∃ c, scanned.Rejects c slice.span.offset)
    (ordered : first.span.stop ≤ offset) (gap : first.span.stop < offset → ∃ c, scanned.Rejects c first.span.stop) :
    (first :: (slices.filterMap Slice.token? ++ [last])).IsChain scanned.Follows := by
  induction slices generalizing offset first with
  | nil =>
    cases tiles
    exact .cons_cons ⟨ordered, gap⟩ (.singleton last)
  | cons slice rest ih =>
    obtain ⟨kind?, span⟩ := slice
    cases tiles with
    | cons _ nonempty tiles =>
      have later : ∀ slice ∈ rest, slice.kind? = none → ∃ c, scanned.Rejects c slice.span.offset :=
        fun slice mem => rejected slice (List.mem_cons_of_mem _ mem)
      cases kind? with
      | some kind =>
        exact .cons_cons ⟨ordered, gap⟩ (ih tiles later (Nat.le_refl _) fun h => absurd h (Nat.lt_irrefl _))
      | none =>
        refine ih tiles later (ordered.trans span.offset_le_stop) fun _ => ?_
        -- The character is the first behind the token, unless another one in front of it is reported already.
        rcases Nat.lt_or_eq_of_le ordered with before | touch
        · exact gap before
        · exact touch ▸ rejected _ List.mem_cons_self rfl

/-! ## Tokens of a source -/

/-- The tokens that have a text are those before the end of file. -/
lemma isSome_text_iff (mem : token ∈ (scan file source).tokens) :
    token.span.text.isSome ↔ token.kind ≠ .endOfFile := by
  rcases exists_slice_or_empty mem with ⟨slice, known, kind, span⟩ | ⟨kind, text, -⟩
  · obtain ⟨other, _, _, lies, -⟩ := (covers_scan file source).placed slice known
    rw [kind] at other
    rw [← span, lies.text]
    exact iff_of_true rfl fun e => other (congrArg some e)
  · rw [text, kind]
    exact iff_of_false nofun fun h => h rfl

/-- The tokens before the end of file are not empty. -/
lemma offset_lt_stop (mem : token ∈ (scan file source).tokens) (notEnd : token.kind ≠ .endOfFile) :
    token.span.offset < token.span.stop := by
  rcases exists_slice_or_empty mem with ⟨slice, known, -, span⟩ | ⟨kind, -⟩
  · exact span ▸ Slice.offset_lt_stop known
  · exact absurd kind notEnd

/-- The tokens of a source follow each other. -/
lemma follow_scan (file source : String) : (scan file source).tokens.IsChain (scan file source).Follows := by
  have covers := covers_scan file source
  let last := ((lexemes source.toList).foldl Place.after .start).endOfFile file
  have tiles : Tiles 0 last.span.offset ((slicesFrom file .start (lexemes source.toList)).map Slice.span) := by
    rw [show last.span.offset = _ from covers.last]
    exact covers.tiles
  have tokens : (scan file source).tokens =
      (slicesFrom file .start (lexemes source.toList)).filterMap Slice.token? ++ [last] := by
    rw [scan, scanFrom_eq]
  rw [tokens]
  -- The first token follows an empty one at the start of the source.
  have start : (Place.start.endOfFile file).span.stop = 0 := rfl
  exact (follow_of_tiles tiles (fun _ => exists_rejects) start.le fun h => absurd h start.not_gt).tail

/-- The tokens of a source stand one behind the other. -/
lemma ordered_scan (file source : String) :
    (scan file source).tokens.Pairwise fun first second => first.span.stop ≤ second.span.offset := by
  have : IsTrans Token fun first second => first.span.stop ≤ second.span.offset :=
    ⟨fun _ second _ ordered ordered' => ordered.trans (second.span.offset_le_stop.trans ordered')⟩
  exact List.isChain_iff_pairwise.mp ((follow_scan file source).imp fun _ _ => Scan.Follows.ordered)

/-- What is reported between two offsets stands in front of a token between them or behind it. -/
lemma rejectsBetween_iff (mem : token ∈ (scan file source).tokens) (behind : start ≤ token.span.offset)
    (before : token.span.offset ≤ stop) : (scan file source).RejectsBetween start stop ↔
      (scan file source).RejectsBetween start token.span.offset ∨
        (scan file source).RejectsBetween token.span.stop stop := by
  have ordered := token.span.offset_le_stop
  constructor
  · rintro ⟨c, offset, rejects, fromStart, toStop⟩
    rcases lt_or_le_of_rejects mem rejects with front | back
    · exact .inl ⟨c, offset, rejects, fromStart, front⟩
    · exact .inr ⟨c, offset, rejects, back, toStop⟩
  · rintro (⟨c, offset, rejects, fromStart, toStop⟩ | ⟨c, offset, rejects, fromStart, toStop⟩)
    · exact ⟨c, offset, rejects, fromStart, toStop.trans_le before⟩
    · exact ⟨c, offset, rejects, behind.trans (ordered.trans fromStart), toStop⟩

/-! ## Combined spans of tokens -/

variable {run : List Token} {i j : Nat}

/-- The spans that a run of tokens is joined to end with its last token. They have a text if nothing between the
tokens is reported. -/
lemma foldl_joined_run (chain : (last :: run).IsChain (scan file source).Follows)
    (known : ∀ token ∈ run, token ∈ (scan file source).tokens ∧ token.kind ≠ .endOfFile) {span : Span}
    (stop : span.stop = last.span.stop) :
    ((run.map Token.span).foldl Span.joined span).stop = (run.getLastD last).span.stop ∧
      (((run.map Token.span).foldl Span.joined span).text.isSome ↔ span.text.isSome ∧
        ¬ (scan file source).RejectsBetween last.span.stop (run.getLastD last).span.offset) := by
  induction run generalizing last span with
  | nil =>
    exact ⟨stop, (and_iff_left (Scan.not_rejectsBetween last.span.offset_le_stop)).symm⟩
  | cons next rest ih =>
    obtain ⟨follows, chain⟩ := List.isChain_cons_cons.mp chain
    obtain ⟨mem, notEnd⟩ := known next List.mem_cons_self
    have ordered : span.stop ≤ next.span.offset := stop ▸ follows.ordered
    have stop' : (span.joined next.span).stop = next.span.stop :=
      Span.stop_joined (span.offset_le_stop.trans (ordered.trans next.span.offset_le_stop))
    obtain ⟨ends, text⟩ := ih chain (fun token mem => known token (List.mem_cons_of_mem _ mem)) stop'
    rw [List.getLastD_cons]
    refine ⟨ends, text.trans ?_⟩
    have behind := offset_le_getLastD chain
    have joined : (span.joined next.span).text.isSome ↔
        span.text.isSome ∧ ¬ (scan file source).RejectsBetween last.span.stop next.span.offset := by
      show (Span.joinedText span next.span).isSome ↔ _
      rw [Span.isSome_joinedText_of_le ordered, isSome_text_iff mem, and_iff_right notEnd, stop, follows.touch_iff]
    rw [joined, rejectsBetween_iff mem follows.ordered behind, not_or, and_assoc]

/-- Of two tokens the earlier is not the end of file and stands in front. -/
lemma ordered_of_lt (lt : i < j) (hi : (scan file source).tokens[i]? = some first)
    (hj : (scan file source).tokens[j]? = some last) :
    first.kind ≠ .endOfFile ∧ first.span.stop ≤ last.span.offset := by
  obtain ⟨bound, rfl⟩ := List.getElem?_eq_some_iff.mp hi
  obtain ⟨bound', rfl⟩ := List.getElem?_eq_some_iff.mp hj
  refine ⟨?_, List.pairwise_iff_getElem.mp (ordered_scan file source) i j bound bound' lt⟩
  obtain ⟨body, ending, e, -, notEnd⟩ := endsOnce_scan file source
  have inside : i < body.length := by
    rw [e, List.length_append, List.length_singleton] at bound'
    omega
  have mem : (scan file source).tokens[i] ∈ body := by
    simp only [e, List.getElem_append_left inside]
    exact List.getElem_mem inside
  exact notEnd _ mem

/-- Two tokens have a text together if they are the same or neighbors with nothing reported between them, and neither
is the end of file. -/
lemma isSome_joinedText_iff (le : i ≤ j) (hi : (scan file source).tokens[i]? = some first)
    (hj : (scan file source).tokens[j]? = some last) :
    (Span.joinedText first.span last.span).isSome ↔ last.kind ≠ .endOfFile ∧ j ≤ i + 1 ∧
      ¬ (scan file source).RejectsBetween first.span.stop last.span.offset := by
  have known := isSome_text_iff (List.mem_of_getElem? hj)
  rcases Nat.eq_or_lt_of_le le with rfl | lt
  · obtain rfl := Option.some.inj (hi.symm.trans hj)
    rw [Span.isSome_joinedText_self, known]
    exact (and_iff_left ⟨Nat.le_succ i, Scan.not_rejectsBetween first.span.offset_le_stop⟩).symm
  · obtain ⟨notEnd, ordered⟩ := ordered_of_lt lt hi hj
    rw [Span.isSome_joinedText_of_le ordered, known, isSome_text_iff (List.mem_of_getElem? hi)]
    rcases Nat.eq_or_lt_of_le (Nat.succ_le_of_lt lt) with rfl | lt'
    · have follows : (scan file source).Follows first last := by
        obtain ⟨bound, rfl⟩ := List.getElem?_eq_some_iff.mp hi
        obtain ⟨bound', rfl⟩ := List.getElem?_eq_some_iff.mp hj
        exact List.isChain_iff_getElem.mp (follow_scan file source) i bound'
      rw [follows.touch_iff, and_iff_right notEnd, and_iff_right (Nat.le_refl _)]
    · -- The token behind the first stands between the two.
      have between : first.span.stop < last.span.offset := by
        obtain ⟨bound, -⟩ := List.getElem?_eq_some_iff.mp hj
        have next := List.getElem?_eq_getElem (lt'.trans bound)
        obtain ⟨-, behind⟩ := ordered_of_lt (Nat.lt_succ_self i) hi next
        obtain ⟨solid, before⟩ := ordered_of_lt lt' next hj
        exact behind.trans_lt ((offset_lt_stop (List.getElem_mem _) solid).trans_le before)
      exact iff_of_false (fun h => absurd h.2.2 between.ne) fun h => absurd h.2.1 (Nat.not_le.mpr lt')

/-- Two tokens, the same or in their order, are joined to what they enclose. -/
lemma joined_encloses (le : i ≤ j) (hi : (scan file source).tokens[i]? = some first)
    (hj : (scan file source).tokens[j]? = some last) :
    (first.span.joined last.span).Encloses source first.span last.span := by
  have forward : first.span.offset ≤ last.span.stop := by
    rcases Nat.eq_or_lt_of_le le with rfl | lt
    · obtain rfl := Option.some.inj (hi.symm.trans hj)
      exact first.span.offset_le_stop
    · exact first.span.offset_le_stop.trans ((ordered_of_lt lt hi hj).2.trans last.span.offset_le_stop)
  have lies : first.span.LiesIn file source := liesIn_of_mem_scan (List.mem_of_getElem? hi)
  have lies' : last.span.LiesIn file source := liesIn_of_mem_scan (List.mem_of_getElem? hj)
  exact (lies.joined lies').encloses ⟨_, _, rfl⟩ (Span.stop_joined forward)

/-- A run of tokens before the end of file is joined to what it encloses, with a text if nothing between the tokens is
reported. -/
lemma foldl_joined_encloses (within : first :: run <:+: (scan file source).tokens)
    (solid : ∀ token ∈ first :: run, token.kind ≠ .endOfFile) :
    ((run.map Token.span).foldl Span.joined first.span).Encloses source first.span (run.getLastD first).span ∧
      (((run.map Token.span).foldl Span.joined first.span).text.isSome ↔
        ¬ (scan file source).RejectsBetween first.span.stop (run.getLastD first).span.offset) := by
  have mem : first ∈ (scan file source).tokens := within.subset List.mem_cons_self
  have known : ∀ token ∈ run, token ∈ (scan file source).tokens ∧ token.kind ≠ .endOfFile := fun token mem =>
    ⟨within.subset (List.mem_cons_of_mem _ mem), solid token (List.mem_cons_of_mem _ mem)⟩
  have lies : first.span.LiesIn file source := liesIn_of_mem_scan mem
  have each : ∀ span ∈ run.map Token.span, span.LiesIn file source :=
    List.forall_mem_map.mpr fun token mem => liesIn_of_mem_scan (known token mem).1
  have chain : (first :: run).IsChain (scan file source).Follows := by
    obtain ⟨before, after, e⟩ := within
    have all := follow_scan file source
    rw [← e] at all
    exact all.left_of_append.right_of_append
  obtain ⟨ends, text⟩ := foldl_joined_run chain known rfl
  refine ⟨(lies.foldl_joined each).encloses (Span.exists_foldl_joined _ _) ends, text.trans (and_iff_right ?_)⟩
  exact (isSome_text_iff mem).mpr (solid first List.mem_cons_self)

end Token

/-- Combining covers what stands between spans. Two tokens of a source, the same or in their order, combine to a span
that runs from the start of the first to the end of the second. Combining a run of tokens before the end of file one
after the other gives a span with the text of the run, unless a character in it is reported. Spans of one file that
stand one behind the other can be combined in any order. -/
theorem combined_spans_enclose (file source : String) :
    (∀ i j first last, i ≤ j →
      (scan file source).tokens[i]? = some first → (scan file source).tokens[j]? = some last →
      ∃ combined, first.span.combine last.span = .ok combined ∧ combined.Encloses source first.span last.span ∧
        (combined.text.isSome ↔ last.kind ≠ .endOfFile ∧ j ≤ i + 1 ∧
          ¬ (scan file source).RejectsBetween first.span.stop last.span.offset)) ∧
    (∀ first run, first :: run <:+: (scan file source).tokens → (∀ token ∈ first :: run, token.kind ≠ .endOfFile) →
      ∃ combined, (run.map Token.span).foldlM Span.combine first.span = .ok combined ∧
        combined.Encloses source first.span (run.getLastD first).span ∧
        (combined.text.isSome ↔
          ¬ (scan file source).RejectsBetween first.span.stop (run.getLastD first).span.offset)) ∧
    ∀ first second third : Span, first.file = second.file → second.file = third.file →
      first.stop ≤ second.offset → second.stop ≤ third.offset →
      ∃ combined, (do (← first.combine second).combine third) = .ok combined ∧
        (do first.combine (← second.combine third)) = .ok combined := by
  have file_eq {token : Token} (mem : token ∈ (scan file source).tokens) : token.span.file = file :=
    file_of_mem_scan mem
  refine ⟨?_, ?_, ?_⟩
  · intro i j first last le hi hj
    have same := (file_eq (List.mem_of_getElem? hi)).trans (file_eq (List.mem_of_getElem? hj)).symm
    exact ⟨_, Span.combine_eq_joined same, joined_encloses le hi hj, isSome_joinedText_iff le hi hj⟩
  · intro first run within solid
    have same : ∀ span ∈ run.map Token.span, span.file = first.span.file := List.forall_mem_map.mpr fun token mem =>
      (file_eq (within.subset (List.mem_cons_of_mem _ mem))).trans (file_eq (within.subset List.mem_cons_self)).symm
    exact ⟨_, Span.foldlM_combine same, foldl_joined_encloses within solid⟩
  · intro first second third same same' ordered ordered'
    refine ⟨(first.joined second).joined third, ?_, ?_⟩
    · rw [Span.combine_eq_joined same]
      exact Span.combine_eq_joined (same.trans same')
    · rw [Span.combine_eq_joined same', Span.joined_assoc ordered ordered']
      exact Span.combine_eq_joined same

/-- The spans of a quoted text, an operator and a name that touch. -/
theorem combined_spans_enclose_sum :
    let source := "\"é\"+x$"
    let scanned := scan "a" source
    let quoted : Token := ⟨.string, ⟨some "\"é\"", "a", 0, 4, 1, 1⟩⟩
    let plus : Token := ⟨.plus, ⟨some "+", "a", 4, 1, 1, 4⟩⟩
    let name : Token := ⟨.identifier, ⟨some "x", "a", 5, 1, 1, 5⟩⟩
    (0 ≤ 2 ∧ scanned.tokens[0]? = some quoted ∧ scanned.tokens[2]? = some name ∧
      ∃ combined, quoted.span.combine name.span = .ok combined ∧ combined.Encloses source quoted.span name.span) ∧
    ([quoted, plus, name] <:+: scanned.tokens ∧ (∀ token ∈ [quoted, plus, name], token.kind ≠ .endOfFile) ∧
      ∃ combined, [plus.span, name.span].foldlM Span.combine quoted.span = .ok combined ∧
        combined.Encloses source quoted.span name.span ∧
        (combined.text.isSome ↔ ¬ scanned.RejectsBetween quoted.span.stop name.span.offset)) ∧
    quoted.span.file = plus.span.file ∧ plus.span.file = name.span.file ∧
      quoted.span.stop ≤ plus.span.offset ∧ plus.span.stop ≤ name.span.offset ∧
      ∃ combined, (do (← quoted.span.combine plus.span).combine name.span) = .ok combined ∧
        (do quoted.span.combine (← plus.span.combine name.span)) = .ok combined := by
  intro source scanned quoted plus name
  obtain ⟨pair, run, three⟩ := combined_spans_enclose "a" source
  have opens : scanned.tokens[0]? = some quoted := by decide +kernel
  have closes : scanned.tokens[2]? = some name := by decide +kernel
  have within : [quoted, plus, name] <:+: scanned.tokens := by decide +kernel
  have solid : ∀ token ∈ [quoted, plus, name], token.kind ≠ .endOfFile := by decide
  obtain ⟨combined, ok, encloses, -⟩ := pair 0 2 quoted name (by decide) opens closes
  exact ⟨⟨by decide, opens, closes, combined, ok, encloses⟩, ⟨within, solid, run quoted [plus, name] within solid⟩,
    rfl, rfl, by decide, by decide, three quoted.span plus.span name.span rfl rfl (by decide) (by decide)⟩

end ArrowScript
