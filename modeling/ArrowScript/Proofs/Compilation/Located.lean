import ArrowScript.Proofs.Analysis.Pinpointing
import ArrowScript.Proofs.Compilation.Halting
import ArrowScript.Proofs.Token.Locations

/-!
# Locations of what is kept and reported

Every stage takes its spans from the stage before it: the parser from tokens, the analysis from the tree. The only new
spans are combined ones. So the spans in the parsed and in the analyzed program, and those of all reports, lie in the
source, whether it makes sense or not; a report can always be shown with a snippet of the source.
-/

namespace ArrowScript
open Token Grammar Analysis

variable {file source : String}

/-- What is taken from the tokens of a source lies in it. -/
lemma liesIn_of_fromTokens {piece : Piece}
    (h : FromTokens ((Cursor.onFirst (scan file source).tokens).skip .insensitive) piece) :
    piece.span.LiesIn file source := by
  have token {token : Token} (mem : token ∈ ((Cursor.onFirst (scan file source).tokens).skip .insensitive).pending) :=
    liesIn_of_mem_scan (pending_onFirst _ mem)
  have closing : ((Cursor.onFirst (scan file source).tokens).skip .insensitive).closing.LiesIn file source := by
    obtain ⟨body, last, e, kind, -⟩ := endsOnce_scan file source
    rw [e, onFirst_append kind]
    exact liesIn_of_mem_scan (by rw [e]; exact List.mem_append_right _ List.mem_cons_self)
  cases piece with
  | link identifier =>
    obtain ⟨_, mem, -, rfl⟩ := h
    exact token mem
  | leaf span | mark span =>
    obtain rfl | ⟨_, mem, rfl⟩ := h
    · exact closing
    · exact token mem

/-- The analysis of a parsed source keeps the spans of the program, and reports at spans in the source. -/
lemma analyze_located (file source : String) :
    let program := (parse (scan file source).tokens).program
    let analyzed := analyze .initial program
    analyzed.program.root.pieces.map Piece.span = program.root.pieces.map Piece.span ∧
      ∀ finding ∈ analyzed.findings, finding.span.LiesIn file source := by
  intro program analyzed
  obtain ⟨pieces, nodup⟩ := parse_fit (scan file source).tokens
  obtain ⟨_, sameFile⟩ := file_of_fromTokens (fun _ => file_of_mem_scan : ∀ token ∈ (scan file source).tokens, _)
  have accounted : analyzed.Accounted program := analyze_accounts sameFile program nodup pieces
  obtain ⟨code, coded⟩ := exists_coded accounted.grown
  have pins := program.root.pins (P := Span.LiesIn file source) Span.LiesIn.combine code
    fun piece mem => liesIn_of_fromTokens (pieces piece mem)
  rw [accounted.root code coded]
  exact ⟨pins.same, fun finding mem => pins.found finding ((accounted.findings code coded).subset mem)⟩

/-- All spans in the parsed and in the analyzed program lie in the source, and so does every report of any stage: its
offset, length, line, column and text, if it has one, are those of a piece of the source, and it ends within it. -/
theorem all_spans_lie_in_source (file source : String) :
    let program := (parse (scan file source).tokens).program
    let analyzed := (analyze .initial program).program
    (∀ piece ∈ program.root.pieces ++ analyzed.root.pieces,
      piece.span.LiesIn file source ∧ piece.span.stop ≤ source.utf8ByteSize) ∧
    ∀ (stage : Stage), ∀ diagnostic ∈ stage.reports file source,
      diagnostic.span.LiesIn file source ∧ diagnostic.span.stop ≤ source.utf8ByteSize := by
  intro program analyzed
  obtain ⟨same, found⟩ := analyze_located file source
  have parsed : AllPlaced (Span.LiesIn file source) program.root.pieces := fun piece mem =>
    liesIn_of_fromTokens ((parse_fit (scan file source).tokens).1 piece mem)
  have within {span : Span} (h : span.LiesIn file source) : _ ∧ _ := ⟨h, h.stop_le⟩
  refine ⟨fun piece mem => within ?_, fun stage diagnostic mem => within ?_⟩
  · rcases List.mem_append.mp mem with mem | mem
    · exact parsed piece mem
    · exact parsed.of_same same piece mem
  · cases stage with
    | lex => exact liesIn_of_mem_diagnostics mem
    | parse =>
      obtain ⟨finding, reported, rfl⟩ := List.mem_map.mp mem
      exact liesIn_of_fromTokens (parse_located reported)
    | analyze =>
      obtain ⟨finding, reported, rfl⟩ := List.mem_map.mp mem
      exact found finding reported

end ArrowScript
