import ArrowScript.Proofs.Token.Placing
import Mathlib.Data.List.Pairwise

/-!
# Where scanning starts

The slices of a source lie side by side, so each of its characters stands in exactly one of them: in a token, or on
its own. Scanning thus starts anew at every character that does not stand inside a token, behind the first one there,
and at no other. Where it starts, a token begins if any lexeme does, and the character is reported if none does. So
nothing of a source is passed over (`scan_munches`).
-/

namespace ArrowScript

lemma Span.offset_le_stop (span : Span) : span.offset ≤ span.stop :=
  Nat.le_add_right _ _

namespace Token

variable {file source : String} {token : Token} {slice other : Slice} {front back text : List Char} {c : Char}
  {offset stop : Nat}

/-! ## Slices side by side -/

/-- Spans that lie side by side are not empty and begin where they do or later. -/
lemma Tiles.bounds {spans : List Span} {span : Span} (tiles : Tiles offset stop spans) (mem : span ∈ spans) :
    offset ≤ span.offset ∧ 0 < span.length := by
  induction tiles with
  | nil => cases mem
  | cons head nonempty _ ih =>
    rcases List.mem_cons.mp mem with rfl | mem
    · exact ⟨Nat.le_refl _, nonempty⟩
    · exact ⟨head.offset_le_stop.trans (ih mem).1, (ih mem).2⟩

/-- Spans that lie side by side stand one behind the other. -/
lemma Tiles.pairwise {spans : List Span} (tiles : Tiles offset stop spans) :
    spans.Pairwise fun first second => first.stop ≤ second.offset := by
  induction tiles with
  | nil => exact .nil
  | cons head _ tiles ih => exact .cons (fun span mem => (tiles.bounds mem).1) ih

/-- Of two slices one stands behind the other. -/
lemma slices_apart (mem : slice ∈ slicesFrom file .start (lexemes source.toList))
    (mem' : other ∈ slicesFrom file .start (lexemes source.toList)) (ne : slice ≠ other) :
    slice.span.stop ≤ other.span.offset ∨ other.span.stop ≤ slice.span.offset := by
  have ordered := List.pairwise_map.mp (covers_scan file source).tiles.pairwise
  have apart : (slicesFrom file .start (lexemes source.toList)).Pairwise fun slice other =>
      slice.span.stop ≤ other.span.offset ∨ other.span.stop ≤ slice.span.offset := ordered.imp .inl
  have : Std.Symm fun slice other : Slice =>
      slice.span.stop ≤ other.span.offset ∨ other.span.stop ≤ slice.span.offset := ⟨fun _ _ => Or.symm⟩
  exact apart.forall mem mem' ne

/-- A slice is not empty. -/
lemma Slice.offset_lt_stop (mem : slice ∈ slicesFrom file .start (lexemes source.toList)) :
    slice.span.offset < slice.span.stop :=
  Nat.lt_add_of_pos_right ((covers_scan file source).tiles.bounds (List.mem_map_of_mem mem)).2

/-- A slice ends with its text. -/
lemma Slice.stop_eq (mem : slice ∈ slicesFrom file .start (lexemes source.toList)) :
    slice.span.stop = slice.span.offset + slice.span.content.utf8ByteSize := by
  obtain ⟨-, _, content, lies, -⟩ := (covers_scan file source).placed slice mem
  rw [Span.stop, Span.content, lies.length, lies.text, Option.getD_some, Text.byteLength_eq_utf8ByteSize]

/-- A character at an offset stands in a slice: at its start, or behind that if the slice is a token. -/
def Slice.Holds (slice : Slice) (offset : Nat) : Prop :=
  slice.span.offset = offset ∨ slice.kind?.isSome ∧ slice.span.offset < offset ∧ offset < slice.span.stop

/-- A character that stands in a slice of the rest of a text stands in a slice of the text. -/
lemma exists_holds_behind {place : Place} {lexeme : Lexeme} {cut : List Lexeme}
    (h : ∃ slice ∈ slicesFrom file (place.after lexeme) cut,
      slice.Holds ((place.after lexeme).offset + Text.byteLength front)) :
    ∃ slice ∈ slicesFrom file place (lexeme :: cut),
      slice.Holds (place.offset + Text.byteLength (lexeme.text ++ front)) := by
  obtain ⟨slice, mem, holds⟩ := h
  rw [offset_after, Nat.add_assoc, ← Text.byteLength_append] at holds
  exact ⟨slice, List.mem_cons_of_mem _ mem, holds⟩

/-- Each character of a text stands in a slice of it. -/
lemma exists_holds {cut : List Lexeme} (munched : Munched text cut) (place : Place) (e : text = front ++ c :: back) :
    ∃ slice ∈ slicesFrom file place cut, slice.Holds (place.offset + Text.byteLength front) := by
  induction munched generalizing front place with
  | nil => cases front <;> cases e
  | @token kind lexeme rest cut _ _ ih =>
    -- The character is behind the lexeme, or is the first behind it, or is in it.
    rcases List.append_eq_append_iff.mp e with ⟨front, rfl, later⟩ | ⟨_ | ⟨d, more⟩, rfl, later⟩
    · exact exists_holds_behind (ih _ later)
    · have first : rest = [] ++ c :: back := later.symm
      have behind := exists_holds_behind (ih (place.after ⟨some kind, front ++ []⟩) first)
      simpa only [List.append_nil] using behind
    · refine ⟨⟨some kind, place.span file (front ++ d :: more)⟩, List.mem_cons_self, ?_⟩
      cases front with
      | nil => exact .inl rfl
      | cons first front =>
        refine .inr ⟨rfl, Nat.lt_add_of_pos_right (Text.byteLength_pos (List.cons_ne_nil _ _)), ?_⟩
        have more_pos : 0 < Text.byteLength (d :: more) := Text.byteLength_pos (List.cons_ne_nil _ _)
        show _ < place.offset + Text.byteLength ((first :: front) ++ d :: more)
        rw [Text.byteLength_append]
        omega
  | @stray d rest cut _ _ ih =>
    cases front with
    | nil => exact ⟨_, List.mem_cons_self, .inl rfl⟩
    | cons first front =>
      obtain ⟨rfl, later⟩ := List.cons.inj e
      exact exists_holds_behind (ih (place.after ⟨none, [d]⟩) later)

/-! ## Tokens and reported characters -/

/-- A token is a slice of its kind, or it is the end of file and is empty. -/
lemma exists_slice_or_empty (mem : token ∈ (scan file source).tokens) :
    (∃ slice ∈ slicesFrom file .start (lexemes source.toList),
      slice.kind? = some token.kind ∧ slice.span = token.span) ∨
    token.kind = .endOfFile ∧ token.span.text = none ∧ token.span.length = 0 := by
  rw [scan, scanFrom_eq, List.mem_append, List.mem_singleton] at mem
  rcases mem with mem | rfl
  · obtain ⟨slice, known, e⟩ := List.mem_filterMap.mp mem
    obtain ⟨kind, some, rfl⟩ := Option.map_eq_some_iff.mp e
    exact .inl ⟨slice, known, some, rfl⟩
  · exact .inr ⟨rfl, rfl, rfl⟩

/-- A slice with a kind is a token, but not the end of file. -/
lemma Slice.mem_tokens {kind : Kind} (mem : slice ∈ slicesFrom file .start (lexemes source.toList))
    (some : slice.kind? = some kind) : ⟨kind, slice.span⟩ ∈ (scan file source).tokens ∧ kind ≠ .endOfFile := by
  constructor
  · rw [scan, scanFrom_eq]
    refine List.mem_append_left _ (List.mem_filterMap.mpr ⟨slice, mem, ?_⟩)
    rw [Slice.token?, some, Option.map_some]
  · rintro rfl
    exact ((covers_scan file source).placed slice mem).1 some

/-- A slice without a kind is a character that is reported to be unexpected. -/
lemma exists_rejects (mem : slice ∈ slicesFrom file .start (lexemes source.toList)) (plain : slice.kind? = none) :
    ∃ c, (scan file source).Rejects c slice.span.offset := by
  obtain ⟨_, span⟩ := slice
  obtain rfl := plain
  have found : ⟨.unexpected (String.ofList span.content.toList), span⟩ ∈ (scan file source).findings := by
    rw [scan, scanFrom_eq]
    exact List.mem_filterMap.mpr ⟨_, mem, rfl⟩
  obtain ⟨_, c, _, -, -, text, -⟩ := exists_strays found rfl
  exact ⟨c, _, found, congrArg LexicalProblem.unexpected text, rfl⟩

/-- A character that is reported to be unexpected is a slice without a kind. -/
lemma exists_slice_of_rejects (rejects : (scan file source).Rejects c offset) :
    ∃ slice ∈ slicesFrom file .start (lexemes source.toList), slice.kind? = none ∧ slice.span.offset = offset := by
  obtain ⟨finding, found, unexpected, rfl⟩ := rejects
  rw [scan, scanFrom_eq] at found
  obtain ⟨slice, known, e⟩ := List.mem_filterMap.mp found
  obtain ⟨problem, said, rfl⟩ := Option.map_eq_some_iff.mp e
  obtain rfl : problem = _ := unexpected
  exact ⟨slice, known, (problem?_unexpected said).1, rfl⟩

/-- No character of a token is reported to be unexpected. -/
lemma lt_or_le_of_rejects (mem : token ∈ (scan file source).tokens) (rejects : (scan file source).Rejects c offset) :
    offset < token.span.offset ∨ token.span.stop ≤ offset := by
  obtain ⟨stray, known', plain, rfl⟩ := exists_slice_of_rejects rejects
  rcases exists_slice_or_empty mem with ⟨slice, known, kind, span⟩ | ⟨-, -, empty⟩
  · have ne : stray ≠ slice := by
      rintro rfl
      cases kind.symm.trans plain
    rw [← span]
    exact (slices_apart known' known ne).imp_left (Nat.lt_of_lt_of_le (Slice.offset_lt_stop known'))
  · rw [Span.stop, empty]
    omega

/-! ## Beginnings -/

/-- A token or a character that is reported to be unexpected begins at an offset. -/
def Scan.StartsAt (scan : Scan) (offset : Nat) : Prop :=
  (∃ token ∈ scan.tokens, token.kind ≠ .endOfFile ∧ token.span.offset = offset) ∨ ∃ c, scan.Rejects c offset

/-- An offset is inside the text of a token, behind the start of it. -/
def Scan.Inside (scan : Scan) (offset : Nat) : Prop :=
  ∃ token ∈ scan.tokens, token.kind ≠ .endOfFile ∧ token.span.offset < offset ∧
    offset < token.span.offset + token.span.content.utf8ByteSize

/-- Scanning starts where a slice does. -/
lemma startsAt_iff : (scan file source).StartsAt offset ↔
    ∃ slice ∈ slicesFrom file .start (lexemes source.toList), slice.span.offset = offset := by
  constructor
  · rintro (⟨token, mem, notEnd, offset⟩ | ⟨c, rejects⟩)
    · rcases exists_slice_or_empty mem with ⟨slice, known, -, span⟩ | ⟨ending, -⟩
      · exact ⟨slice, known, span ▸ offset⟩
      · exact absurd ending notEnd
    · obtain ⟨slice, known, -, offset⟩ := exists_slice_of_rejects rejects
      exact ⟨slice, known, offset⟩
  · rintro ⟨slice, mem, rfl⟩
    cases kind : slice.kind? with
    | some kind =>
      obtain ⟨token, notEnd⟩ := Slice.mem_tokens mem kind
      exact .inl ⟨_, token, notEnd, rfl⟩
    | none => exact .inr (exists_rejects mem kind)

/-- Inside a token is inside a slice with a kind. -/
lemma inside_iff : (scan file source).Inside offset ↔ ∃ slice ∈ slicesFrom file .start (lexemes source.toList),
    slice.kind?.isSome ∧ slice.span.offset < offset ∧ offset < slice.span.stop := by
  constructor
  · rintro ⟨token, mem, notEnd, behind, before⟩
    rcases exists_slice_or_empty mem with ⟨slice, known, kind, span⟩ | ⟨ending, -⟩
    · rw [← span, ← Slice.stop_eq known] at before
      exact ⟨slice, known, Option.isSome_of_eq_some kind, span ▸ behind, before⟩
    · exact absurd ending notEnd
  · rintro ⟨slice, mem, some, behind, before⟩
    obtain ⟨kind, some⟩ := Option.isSome_iff_exists.mp some
    obtain ⟨token, notEnd⟩ := Slice.mem_tokens mem some
    exact ⟨_, token, notEnd, behind, Slice.stop_eq mem ▸ before⟩

/-- Scanning starts at each character that is not inside a token, and at no other. -/
lemma startsAt_iff_not_inside (e : source.toList = front ++ c :: back) :
    (scan file source).StartsAt (Text.byteLength front) ↔ ¬ (scan file source).Inside (Text.byteLength front) := by
  rw [startsAt_iff, inside_iff]
  constructor
  · rintro ⟨slice, mem, offset⟩ ⟨other, mem', -, behind, before⟩
    have ne : slice ≠ other := by
      rintro rfl
      exact absurd offset behind.ne
    have nonempty := Slice.offset_lt_stop mem
    rcases slices_apart mem mem' ne with first | last <;> omega
  · intro outside
    obtain ⟨slice, mem, holds⟩ := exists_holds (munched_lexemes _) .start e
    rw [show Place.start.offset = 0 from rfl, Nat.zero_add] at holds
    rcases holds with starts | inside
    · exact ⟨slice, mem, starts⟩
    · exact absurd ⟨slice, mem, inside⟩ outside

/-- A character is reported to be unexpected only where no lexeme begins. -/
lemma Scan.Rejects.strays (rejects : (scan file source).Rejects c (Text.byteLength front))
    (e : source.toList = front ++ c :: back) : Strays (c :: back) := by
  obtain ⟨finding, mem, unexpected, offset⟩ := rejects
  obtain ⟨front', d, back', source, offset', -, strays⟩ := exists_strays mem unexpected
  -- Offsets are bytes, and the beginnings of a text are told apart by how many they have.
  obtain rfl := eq_of_byteLength (e.symm.trans source) (offset.symm.trans offset')
  rwa [List.append_cancel_left (e.symm.trans source)]

/-- Where scanning starts and no lexeme begins, the character is reported to be unexpected. -/
lemma Scan.StartsAt.rejects (starts : (scan file source).StartsAt (Text.byteLength front))
    (e : source.toList = front ++ c :: back) (strays : Strays (c :: back)) :
    (scan file source).Rejects c (Text.byteLength front) := by
  rcases starts with ⟨token, mem, notEnd, offset⟩ | ⟨d, finding, mem, unexpected, offset⟩
  · obtain ⟨front', lexeme, back', source, offset', -, munches⟩ := exists_munches mem notEnd
    obtain rfl := eq_of_byteLength (e.symm.trans source) (offset.symm.trans offset')
    have begins : lexeme <+: c :: back := ⟨back', (List.append_cancel_left (e.symm.trans source)).symm⟩
    exact absurd begins (strays token.kind lexeme munches.mem)
  · obtain ⟨front', d', back', source, offset', same, -⟩ := exists_strays mem unexpected
    obtain rfl := eq_of_byteLength (e.symm.trans source) (offset.symm.trans offset')
    obtain ⟨rfl, -⟩ := List.cons.inj (List.append_cancel_left (e.symm.trans source))
    exact ⟨finding, mem, unexpected.trans (by rw [same]), offset⟩

/-- Tokens are cut off a text by maximal munch over the languages of all kinds: each is the longest lexeme at its
offset and is a name only if it is nothing else. What is reported as unexpected are single characters of the text.
Whatever is not inside a token is the start of one or is reported, so that a token begins where a lexeme does, and a
character is reported exactly if no lexeme begins there. -/
theorem scan_munches (file source : String) :
    (∀ token ∈ (scan file source).tokens, token.kind ≠ .endOfFile →
      ∃ front lexeme back, source.toList = front ++ (lexeme ++ back) ∧
        token.span.offset = Text.byteLength front ∧ token.span.text = some (String.ofList lexeme) ∧
        Munches token.kind lexeme back) ∧
    (∀ finding ∈ (scan file source).findings, ∀ text, finding.problem = .unexpected text →
      ∃ front c back, source.toList = front ++ c :: back ∧ finding.span.offset = Text.byteLength front ∧
        text = String.singleton c) ∧
    ∀ front c back, source.toList = front ++ c :: back →
      ((scan file source).StartsAt (Text.byteLength front) ↔ ¬ (scan file source).Inside (Text.byteLength front)) ∧
      ((scan file source).Rejects c (Text.byteLength front) ↔
        ¬ (scan file source).Inside (Text.byteLength front) ∧ Strays (c :: back)) := by
  refine ⟨fun token => exists_munches, fun finding mem text unexpected => ?_, fun front c back e => ?_⟩
  · obtain ⟨front, c, back, source, offset, same, -⟩ := exists_strays mem unexpected
    exact ⟨front, c, back, source, offset, same⟩
  · have starts : (scan file source).StartsAt _ ↔ _ := startsAt_iff_not_inside e
    refine ⟨starts, fun rejects => ⟨starts.mp (.inr ⟨c, rejects⟩), rejects.strays e⟩, ?_⟩
    rintro ⟨outside, strays⟩
    exact (starts.mpr outside).rejects e strays

end Token

end ArrowScript
