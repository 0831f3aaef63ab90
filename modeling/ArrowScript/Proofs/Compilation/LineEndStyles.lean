import ArrowScript.Proofs.Analysis.Relocation
import ArrowScript.Proofs.Grammar.DisplacedPrograms
import ArrowScript.Proofs.Token.LineEnds

/-!
# Line ends through all stages

The stages after scanning never look at an offset by itself. The parser hands spans on, and the analysis asks whether
spans touch and combines them, which comes out the same where line ends have grown (`Span.relocation_stretch`). So the
style of line ends does not matter to any stage (`line_end_styles_agree`).
-/

namespace ArrowScript
open Token Grammar Analysis

/-! ## Stretched spans -/

namespace Span

variable {moved : Nat → Nat} (increasing : StrictMono moved)
include increasing

/-- A stretched span stops where its stop has moved to. -/
lemma stop_stretch (span : Span) : (span.stretch moved).stop = moved span.stop :=
  Nat.add_sub_of_le (increasing.monotone (Nat.le_add_right _ _))

/-- Different spans are stretched to different spans. -/
lemma stretch_injective : Function.Injective (stretch moved) := by
  intro first second same
  have offset : first.offset = second.offset := increasing.injective (congrArg Span.offset same)
  have stop : first.stop = second.stop := increasing.injective <| by
    rw [← stop_stretch increasing, ← stop_stretch increasing, same]
  obtain ⟨text, file, _, length, line, column⟩ := first
  obtain ⟨text', file', _, length', line', column'⟩ := second
  obtain rfl : _ = _ := offset
  obtain rfl : length = length' := Nat.add_left_cancel stop
  obtain ⟨rfl, rfl, -, -, rfl, rfl⟩ := Span.mk.inj same
  rfl

/-- Stretched spans touch where the spans touch. -/
lemma joinedText_stretch (first second : Span) :
    joinedText (first.stretch moved) (second.stretch moved) = joinedText first second := by
  have text (span : Span) : (span.stretch moved).text = span.text := rfl
  have offset (span : Span) : (span.stretch moved).offset = moved span.offset := rfl
  unfold joinedText
  simp only [text, offset, stop_stretch increasing, increasing.injective.eq_iff, (stretch_injective increasing).eq_iff]

/-- Stretched spans combine to the stretched combination. -/
lemma combine_stretch (first second : Span) :
    (first.stretch moved).combine (second.stretch moved) = (first.combine second).map (stretch moved) := by
  unfold combine
  show (if first.file = second.file then _ else _) = _
  rw [joinedText_stretch increasing, stop_stretch increasing]
  split
  · show Except.ok (⟨_, _, _, _, _, _⟩ : Span) = Except.ok ⟨_, _, _, _, _, _⟩
    congr 2
    -- The second span may stop in front of the first; then both combinations are empty.
    show moved second.stop - moved first.offset = moved (first.offset + (second.stop - first.offset)) - moved first.offset
    rcases Nat.le_total first.offset second.stop with ahead | behind
    · rw [Nat.add_sub_of_le ahead]
    · rw [Nat.sub_eq_zero_of_le behind, Nat.sub_eq_zero_of_le (increasing.monotone behind), Nat.add_zero, Nat.sub_self]
  · rfl

/-- Stretching puts spans where combined spans are put alike. -/
lemma relocation_stretch : Relocation (stretch moved) where
  content _ := rfl
  locus _ := rfl
  combine := combine_stretch increasing

end Span

/-! ## Line ends within spans -/

variable {ending source : List Char}

/-- The line ends of a text that stop within a span. -/
def Token.lineEndsWithin (source : List Char) (span : Span) : List Nat :=
  (lineStops 0 source).filter fun stop => span.offset < stop ∧ stop ≤ span.stop

/-- A span that starts where its offset has moved to and is longer by what the line ends within it have grown. -/
def Span.grow (ending source : List Char) (span : Span) : Span :=
  { span with
    offset := movedOffset ending source span.offset
    length := span.length + (Text.byteLength ending - 1) * (lineEndsWithin source span).length }

/-- The line ends up to the stop of a span are those up to its offset and those within it. -/
lemma length_stopsUpTo_stop (source : List Char) (span : Span) : (stopsUpTo source span.stop).length =
    (stopsUpTo source span.offset).length + (lineEndsWithin source span).length := by
  have early : (stopsUpTo source span.stop).filter (· ≤ span.offset) = stopsUpTo source span.offset := by
    have ordered : span.offset ≤ span.stop := Nat.le_add_right _ _
    unfold stopsUpTo
    rw [List.filter_filter]
    exact List.filter_congr fun stop _ => by simpa using fun h => h.trans ordered
  have late : (stopsUpTo source span.stop).filter (fun stop => !decide (stop ≤ span.offset)) =
      lineEndsWithin source span := by
    unfold stopsUpTo lineEndsWithin
    rw [List.filter_filter]
    exact List.filter_congr fun stop _ => by simp only [Bool.decide_and, ← Nat.not_le, decide_not]
  rw [List.length_eq_length_filter_add fun stop => decide (stop ≤ span.offset), early, late]

/-- Spans are stretched by what the line ends within them grow. -/
lemma Span.stretch_movedOffset (ending source : List Char) (span : Span) :
    span.stretch (movedOffset ending source) = span.grow ending source := by
  show (⟨_, _, _, _, _, _⟩ : Span) = ⟨_, _, _, _, _, _⟩
  congr 1
  show movedOffset ending source span.stop - movedOffset ending source span.offset = _
  rw [movedOffset, length_stopsUpTo_stop, movedOffset, Nat.mul_add, stop]
  omega

/-! ## Stages -/

section
variable {file source : String} {ending : List Char} {moved : Nat → Nat} {move : Span → Span}

/-- What a token shows apart from its offset. A line end shows neither its length nor its text. -/
def Token.outline (token : Token) : Kind × Nat × Nat × Option (Nat × Option String) :=
  (token.kind, token.span.line, token.span.column,
    if token.kind = .endOfLine then none else some (token.span.length, token.span.text))

/-- Line ends that are written differently do not show it. -/
lemma Token.outline_restyle (ending : List Char) (moved : Nat → Nat) (token : Token) :
    (token.restyle ending moved).outline = token.outline := by
  obtain ⟨kind, span⟩ := token
  unfold restyle outline
  by_cases line : kind = .endOfLine
  · simp only [line, if_true]
    rfl
  · simp only [line, if_false]
    rfl

/-- A token has moved to where its offset has moved. -/
lemma Token.offset_restyle (ending : List Char) (moved : Nat → Nat) (token : Token) :
    (token.restyle ending moved).span.offset = moved token.span.offset := by
  unfold restyle
  dsimp only
  split <;> rfl

/-- Line ends are trivia, so tokens are displaced when these are written differently. -/
lemma displaced_restyle {token : Token}
    (moves : token.kind ≠ .endOfLine → move token.span = token.span.shift moved) :
    token.Displaced move (token.restyle ending moved) where
  kind := rfl
  file := by
    unfold restyle
    dsimp only
    split <;> rfl
  span := by
    intro solid
    have other : token.kind ≠ .endOfLine := by
      intro line
      rw [line] at solid
      cases solid
    rw [moves other]
    exact if_neg other

/-- Tokens are parsed to a displaced program when line ends are written differently. -/
lemma parse_restyle (content : ∀ span, (move span).content = span.content)
    (moves : ∀ token ∈ (scan file source).tokens, token.kind ≠ .endOfLine → move token.span = token.span.shift moved) :
    parse ((scan file source).restyle ending moved).tokens = (parse (scan file source).tokens).relocate move := by
  obtain ⟨body, last, e, kind, -⟩ := endsOnce_scan file source
  show parse ((scan file source).tokens.map _) = _
  rw [e] at moves ⊢
  rw [List.map_append, List.map_singleton]
  refine parse_displaced kind ?_ (displaced_restyle (moves last (by simp))) content
  exact List.forall₂_map_right_iff.mpr <| List.forall₂_same.mpr fun token mem =>
    displaced_restyle (moves token (List.mem_append_left _ mem))

/-- What is noted about displaced tokens in words. -/
lemma Grammar.Parsed.diagnostics_relocate (parsed : Parsed) :
    (parsed.relocate move).diagnostics = parsed.diagnostics.map (Diagnostic.relocate move) := by
  show List.map _ (parsed.findings.map _) = (parsed.findings.map _).map _
  rw [List.map_map, List.map_map]
  rfl

/-- What is reported about lexemes is the same where they have moved to. -/
lemma Token.Scan.diagnostics_restyle (ending : List Char) (moved : Nat → Nat) (scan : Scan) :
    (scan.restyle ending moved).diagnostics = scan.diagnostics.map (Diagnostic.relocate (Span.shift moved)) := by
  show List.map _ (scan.findings.map _) = (scan.findings.map _).map _
  rw [List.map_map, List.map_map]
  rfl

end

/-- All stages make the same of two texts, up to byte offsets; spans that the analysis combines may also have grown. -/
structure SameUpTo (moved : Nat → Nat) (grow : Span → Span) (file source other : String) : Prop where
  outlines : (scan file other).tokens.map outline = (scan file source).tokens.map outline
  offsets : (scan file other).tokens.map (·.span.offset) =
    (scan file source).tokens.map fun token => moved token.span.offset
  lexical : (scan file other).diagnostics =
    (scan file source).diagnostics.map (Diagnostic.relocate (Span.shift moved))
  program : (parse (scan file other).tokens).program =
    (parse (scan file source).tokens).program.relocate (Span.shift moved)
  syntactic : (parse (scan file other).tokens).diagnostics =
    (parse (scan file source).tokens).diagnostics.map (Diagnostic.relocate (Span.shift moved))
  analyzed : analyze .initial (parse (scan file other).tokens).program =
    (analyze .initial (parse (scan file source).tokens).program).relocate grow
  semantic : (analyze .initial (parse (scan file other).tokens).program).diagnostics =
    (analyze .initial (parse (scan file source).tokens).program).diagnostics.map (Diagnostic.relocate grow)

/-- The style of line ends does not matter: writing every line feed of a source without carriage returns in another
way only moves offsets by what the line ends before them grow, and only makes spans longer that line ends lie in. -/
theorem line_end_styles_agree (file : String) {source : String} {ending : List Char} (style : OtherStyle ending)
    (feeds : '\r' ∉ source.toList) :
    SameUpTo (movedOffset ending source.toList) (Span.grow ending source.toList) file source
      (String.ofList (withLineEnds ending source.toList)) := by
  obtain ⟨scanned, lengths⟩ := scan_withLineEnds file style feeds
  have grows : Span.grow ending source.toList = Span.stretch (movedOffset ending source.toList) :=
    funext fun span => (span.stretch_movedOffset ending source.toList).symm
  have relocation := Span.relocation_stretch (movedOffset_strictMono ending source.toList)
  rw [grows]
  generalize movedOffset ending source.toList = moved at scanned lengths relocation ⊢
  generalize String.ofList (withLineEnds ending source.toList) = other at scanned ⊢
  -- Spans of tokens other than line ends may be shifted as well as stretched, so the whole tree may be. The parser
  -- does not care which; only stretched spans are combined to what the combined spans are stretched to.
  have shifted : parse (scan file other).tokens = (parse (scan file source).tokens).relocate (Span.shift moved) := by
    rw [scanned]
    exact parse_restyle (fun _ => rfl) fun _ _ _ => rfl
  have stretched : parse (scan file other).tokens = (parse (scan file source).tokens).relocate (Span.stretch moved) := by
    rw [scanned]
    exact parse_restyle (fun _ => rfl) lengths
  have analyzed : analyze .initial (parse (scan file other).tokens).program =
      (analyze .initial (parse (scan file source).tokens).program).relocate (Span.stretch moved) := by
    rw [stretched]
    exact analyze_relocate relocation _
  exact {
    outlines := by
      rw [scanned]
      show (List.map _ _).map _ = _
      rw [List.map_map]
      exact List.map_congr_left fun token _ => token.outline_restyle ending moved
    offsets := by
      rw [scanned]
      show (List.map _ _).map _ = _
      rw [List.map_map]
      exact List.map_congr_left fun token _ => token.offset_restyle ending moved
    lexical := by rw [scanned, Scan.diagnostics_restyle]
    program := congrArg Parsed.program shifted
    syntactic := by rw [shifted, Parsed.diagnostics_relocate]
    analyzed := analyzed
    semantic := by rw [analyzed, Analyzed.diagnostics_relocate relocation] }

/-- A call over two lines that is assigned to, with the lines ended in another way. -/
theorem line_end_styles_agree_call :
    OtherStyle ['\r', '\n'] ∧ '\r' ∉ "f(\n) -> 1\n".toList ∧
      SameUpTo (movedOffset ['\r', '\n'] "f(\n) -> 1\n".toList) (Span.grow ['\r', '\n'] "f(\n) -> 1\n".toList) "call"
        "f(\n) -> 1\n" (String.ofList (withLineEnds ['\r', '\n'] "f(\n) -> 1\n".toList)) :=
  ⟨.inl rfl, by decide, line_end_styles_agree "call" (.inl rfl) (by decide)⟩

/-- The report on the call grows by the line end between its brackets. -/
example : ((⟨none, "call", 0, 4, 1, 1⟩ : Span).grow ['\r', '\n'] "f(\n) -> 1\n".toList).length = 5 := by
  decide

end ArrowScript
