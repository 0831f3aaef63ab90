import ArrowScript.Proofs.Token.Placing

/-!
# Locations in a source

A span lies in a source if it is the piece of the source that it says it is; its text may be left out. The spans of
all tokens lie in the source that was scanned, the end of file behind its last byte, and so do those of what is
reported. Two of them combine to one that does, whichever of them comes first: a span that would go backwards is
empty.
-/

namespace ArrowScript
open ArrowScript.Token ArrowScript.Span

/-- A span is a piece of a source of a file: its offset and length are those of the piece, its line and column are
those of its offset, and its text, if it has one, is the piece. -/
def Span.LiesIn (file source : String) (span : Span) : Prop :=
  ∃ front content, Lies file source.toList front content { span with text := some (String.ofList content) } ∧
    ∀ text ∈ span.text, text = String.ofList content

variable {file source : String} {span first second combined : Span} {front front' piece whole source' : List Char}

/-- A span does not go beyond the end of its source. -/
lemma Span.LiesIn.stop_le (h : span.LiesIn file source) : span.stop ≤ source.utf8ByteSize := by
  obtain ⟨front, content, lies, -⟩ := h
  obtain ⟨rest, e⟩ := lies.piece
  have bytes := congrArg Text.byteLength e
  rw [Text.byteLength_append, Text.byteLength_append, Text.byteLength_eq_utf8ByteSize source.toList,
    String.ofList_toList] at bytes
  have offset : span.offset = _ := lies.offset
  have length : span.length = _ := lies.length
  rw [Span.stop]
  omega

/-! ## Combined spans -/

/-- Two beginnings of a text that are equally long. -/
lemma beginnings_eq (h : front <+: source') (g : front' <+: source')
    (length : Text.byteLength front = Text.byteLength front') : front = front' := by
  obtain ⟨back, e⟩ := h
  obtain ⟨back', e'⟩ := g
  exact eq_of_byteLength (e.trans e'.symm) length

/-- Of two beginnings of a text, the shorter is one of the longer. -/
lemma exists_append_eq (h : front <+: source') (g : whole <+: source')
    (le : Text.byteLength front ≤ Text.byteLength whole) : ∃ piece, front ++ piece = whole := by
  rcases List.prefix_or_prefix_of_prefix h g with before | ⟨more, rfl⟩
  · exact before
  · rw [Text.byteLength_append] at le
    refine ⟨[], (List.append_nil _).trans (beginnings_eq h g ?_)⟩
    rw [Text.byteLength_append]
    omega

section

variable {content content' : List Char} {text : String}
  (lies : Lies file source.toList front content { first with text := some (String.ofList content) })
  (lies' : Lies file source.toList front' content' { second with text := some (String.ofList content') })
  (known : ∀ text ∈ first.text, text = String.ofList content)
  (known' : ∀ text ∈ second.text, text = String.ofList content')

include lies lies' known known' in
/-- The joined text of two spans is what stands from the start of the first to the end of the second. -/
lemma joinedText_eq {covered : List Char} (e : front ++ covered = front' ++ content')
    (joined : text ∈ joinedText first second) : text = String.ofList covered := by
  have offset : first.offset = Text.byteLength front := lies.offset
  have length : first.length = Text.byteLength content := lies.length
  have offset' : second.offset = Text.byteLength front' := lies'.offset
  have length' : second.length = Text.byteLength content' := lies'.length
  unfold joinedText at joined
  split at joined
  next left right hl hr =>
    rw [known left hl, known' right hr] at joined
    split at joined
    · next touch =>
      have same : front ++ content = front' := beginnings_eq lies.piece ((List.prefix_append _ _).trans lies'.piece) (by
        rw [Text.byteLength_append, ← offset, ← length, ← offset']
        exact touch)
      rw [← same, List.append_assoc] at e
      obtain rfl := Option.some.inj joined
      rw [List.append_cancel_left e, String.ofList_append]
    · split at joined
      · next same =>
        have bytes := congrArg Text.byteLength e
        rw [Text.byteLength_append, Text.byteLength_append, ← offset, ← offset', ← length', same] at bytes
        have pieces : front ++ content = front ++ covered := beginnings_eq lies.piece (e ▸ lies'.piece) (by
          rw [Text.byteLength_append, Text.byteLength_append, ← length, same]
          omega)
        obtain rfl := Option.some.inj joined
        rw [List.append_cancel_left pieces]
      · cases joined
  next => cases joined

include lies lies' known known' in
/-- What stands from the start of a span to the end of another one, nothing if that end comes first. -/
lemma exists_covered : ∃ covered, front ++ covered <+: source.toList ∧
    Text.byteLength covered = second.stop - first.offset ∧
    ∀ text ∈ joinedText first second, text = String.ofList covered := by
  have offset : first.offset = Text.byteLength front := lies.offset
  have offset' : second.offset = Text.byteLength front' := lies'.offset
  have length' : second.length = Text.byteLength content' := lies'.length
  have begins : front <+: source.toList := (List.prefix_append _ _).trans lies.piece
  by_cases forward : first.offset ≤ second.stop
  · obtain ⟨covered, e⟩ := exists_append_eq begins lies'.piece (by
      rw [Text.byteLength_append, ← offset, ← offset', ← length']
      exact forward)
    have bytes := congrArg Text.byteLength e
    rw [Text.byteLength_append, Text.byteLength_append, ← offset, ← offset', ← length'] at bytes
    exact ⟨covered, e ▸ lies'.piece, by rw [Span.stop]; omega,
      fun text joined => joinedText_eq lies lies' known known' e joined⟩
  · refine ⟨[], by rwa [List.append_nil], by rw [Text.byteLength]; omega, fun text joined => ?_⟩
    -- Spans that touch or are the same do not go backwards.
    unfold joinedText at joined
    split at joined
    · split at joined
      · next touch =>
        rw [Span.stop] at touch forward
        omega
      · split at joined
        · next same =>
          rw [same, Span.stop] at forward
          omega
        · cases joined
    · cases joined

end

/-- Two spans in a source combine to a span in it. -/
lemma Span.LiesIn.combine (h : first.LiesIn file source) (g : second.LiesIn file source)
    (e : first.combine second = .ok combined) : combined.LiesIn file source := by
  obtain ⟨front, content, lies, known⟩ := h
  obtain ⟨front', content', lies', known'⟩ := g
  obtain ⟨covered, piece, bytes, joined⟩ := exists_covered lies lies' known known'
  unfold Span.combine at e
  split at e
  · cases e
    exact ⟨front, covered, ⟨piece, lies.file, rfl, lies.offset, bytes.symm, lies.line, lies.column⟩, joined⟩
  · cases e

/-! ## Scanned texts -/

namespace Token

variable {rest : List Char} {place : Place} {stops : List Nat} {cut : List Lexeme}

/-- Behind all lexemes is the end of the text. -/
lemma marks_end (munched : Munched rest cut) (marks : Marks source' front rest place stops) :
    ∃ stops', Marks source' source' [] (cut.foldl Place.after place) stops' := by
  induction munched generalizing front place stops with
  | nil =>
    have whole : source' = front := marks.split.trans (List.append_nil _)
    exact ⟨stops, whole ▸ marks⟩
  | token munches _ ih =>
    obtain ⟨_, behind⟩ := marks.munched munches
    exact ih behind
  | stray strays _ ih => exact ih (marks.stray strays)

/-- Slices lie in the source. -/
lemma liesIn_of_mem_slices {slice : Slice} (mem : slice ∈ slicesFrom file .start (lexemes source.toList)) :
    slice.span.LiesIn file source := by
  obtain ⟨-, front, content, lies, -⟩ := (covers_scan file source).placed slice mem
  have text : slice.span.text = some (String.ofList content) := lies.text
  refine ⟨front, content, ?_, fun other known => Option.some.inj (known.symm.trans text)⟩
  rw [← text]
  exact lies

/-- All tokens of a source lie in it. -/
lemma liesIn_of_mem_scan {token : Token} (mem : token ∈ (scan file source).tokens) :
    token.span.LiesIn file source := by
  rw [scan, scanFrom_eq, List.mem_append, List.mem_singleton] at mem
  rcases mem with mem | rfl
  · obtain ⟨slice, known, e⟩ := List.mem_filterMap.mp mem
    obtain ⟨kind, -, rfl⟩ := Option.map_eq_some_iff.mp e
    exact liesIn_of_mem_slices known
  · obtain ⟨_, marks⟩ := marks_end (munched_lexemes source.toList) (.start _)
    have lies : Lies file source.toList source.toList [] _ := marks.lies file
    exact ⟨source.toList, [], lies, fun _ known => by cases known⟩

/-- What is reported about a source lies in it. -/
lemma liesIn_of_mem_diagnostics {diagnostic : Diagnostic} (mem : diagnostic ∈ (scan file source).diagnostics) :
    diagnostic.span.LiesIn file source := by
  rw [Scan.diagnostics, scan, scanFrom_eq] at mem
  obtain ⟨finding, found, rfl⟩ := List.mem_map.mp mem
  obtain ⟨slice, known, e⟩ : ∃ slice ∈ slicesFrom file .start (lexemes source.toList), slice.finding? = some finding :=
    List.mem_filterMap.mp found
  obtain ⟨problem, -, rfl⟩ := Option.map_eq_some_iff.mp e
  exact liesIn_of_mem_slices known

end Token

end ArrowScript
