import ArrowScript.Proofs.Grammar.CleanParse
import ArrowScript.Proofs.Grammar.PrintedStatements

/-!
# Printing and parsing

Parsing undoes printing: the tokens of a well-formed program, with or without an end of file, are parsed
without reports as that program, apart from where its tokens stand, its handles and what the analysis adds
to it.
-/

namespace ArrowScript.Grammar
open Lexeme

/-- A program is parsed from its text. -/
lemma program_gives {bound : Nat} {root : Block} {s : State} (wf : root.wellFormed .program)
    (enough : root.lexemes.length < bound) (h : s.Shows root.lexemes) :
    Gives (program bound) s fun r t => r.bare = root.bare ∧ t.Shows [] := by
  obtain ⟨kind, wf⟩ := of_wellFormed wf
  rw [lexemes_program kind] at h enough
  rw [← List.append_nil (lines _)] at h
  have few := length_le_lines Statement.lexemes root.statements
  simp only [program, gives_bind, gives_freshId, gives_span]
  refine (statements_gives (undoesStatements_statement? bound) (by omega)
    (fun statement mem => ⟨wf statement mem, ?_⟩) endsBlock_nil h.numbered).mono ?_
  · have short := length_form_lt_lines Statement.lexemes mem
    omega
  · rintro r t ⟨same, shows⟩
    exact ⟨bare_block kind.symm same, shows⟩

/-- The last lexeme of some lines, if there is one, is a line end. -/
lemma getLast?_lines (forms : List (List Lexeme)) :
    (lines forms).getLast? = none ∨ (lines forms).getLast? = some (sign .endOfLine) := by
  induction forms with
  | nil => exact .inl rfl
  | cons form rest ih =>
    right
    rw [lines, List.getLast?_append, List.getLast?_cons]
    rcases ih with none | some
    · rw [none]
      rfl
    · rw [some]
      rfl

/-- The tokens of a program are parsed from the first to the last, whether or not an end of file follows. -/
lemma pending_onFirst_printed {root : Block} {tokens body : List Token} (wf : root.wellFormed .program)
    (printed : Spelled body root.lexemes)
    (ends : tokens = body ∨ ∃ last, last.kind = .endOfFile ∧ tokens = body ++ [last]) :
    (Cursor.onFirst tokens).pending = body := by
  rcases ends with rfl | ⟨last, kind, rfl⟩
  · have kinds := congrArg List.getLast? printed.map_kind
    rw [List.getLast?_map, List.getLast?_map, lexemes_program (of_wellFormed wf).1] at kinds
    unfold Cursor.onFirst
    cases e : tokens.getLast? with
    | none => exact (List.getLast?_eq_none_iff.mp e).symm
    | some last =>
      -- The printed tokens end with a line, which is not taken for the end of the file.
      have line : last.kind ≠ .endOfFile := by
        rw [e] at kinds
        rcases getLast?_lines (root.statements.map Statement.lexemes) with none | some
        · rw [none] at kinds
          cases kinds
        · rw [some] at kinds
          intro endOfFile
          rw [Option.map_some, endOfFile] at kinds
          cases kinds
      simp only [line, if_false]
  · rw [onFirst_append kind]

/-- Parsing undoes printing: from tokens that spell a well-formed program, parsing gives that program back
and reports nothing. -/
theorem parse_print {root : Block} {tokens body : List Token} (wf : root.wellFormed .program)
    (printed : Spelled body root.lexemes)
    (ends : tokens = body ∨ ∃ last, last.kind = .endOfFile ∧ tokens = body ++ [last]) :
    (parse tokens).diagnostics = [] ∧ (parse tokens).program.root.bare = root.bare := by
  have pending := pending_onFirst_printed wf printed ends
  -- A printed program begins with a statement or is empty, so nothing is skipped in front.
  have starts : landing .insensitive root.lexemes = root.lexemes := by
    have start := (lines_start endsBlock_nil (of_wellFormed wf).2).1
    rw [List.append_nil] at start
    rw [lexemes_program (of_wellFormed wf).1, start]
  have shows : State.Shows ⟨(Cursor.onFirst tokens).skip .insensitive, 0, #[]⟩ root.lexemes := by
    refine ⟨?_, rfl⟩
    have skipped := printed.dropWhile Sensitivity.insensitive.skips
    rw [← landing, starts, ← pending] at skipped
    exact skipped
  have enough : root.lexemes.length < (Cursor.onFirst tokens).pending.length + 1 := by
    rw [pending, printed.length_eq]
    exact Nat.lt_succ_self _
  obtain ⟨same, finished⟩ := program_gives wf enough shows
  refine ⟨?_, same⟩
  have clean : (parse tokens).findings = [] := List.eq_nil_of_length_eq_zero finished.clean
  rw [Parsed.diagnostics, clean, List.map_nil]

/-- The tokens of `x : List<int>[] -> (a < b)`, a line end, `f<int>(x)` and a line end are parsed as this
declaration and this call. -/
theorem parse_print_comparison :
    ∃ (root : Block) (tokens : List Token), root.wellFormed .program ∧ Spelled tokens root.lexemes ∧
      tokens.length = 23 ∧
      (parse tokens).diagnostics = [] ∧ (parse tokens).program.root.bare = root.bare := by
  let word (text : String) : Span := ⟨some text, "", 0, 0, 1, 1⟩
  let named (text : String) : Expr := .chain ⟨[.name (.unbound (word text))], word text, none⟩
  let int : TypeRef := .named (word "int") true
  let list : TypeRef := ⟨word "List", false, [int], true, none⟩
  let comparison : Expr := .binary .less (word "<") (named "a") (named "b") none
  let call : Link := .call (.unbound (word "f")) (some [int]) [.untyped (named "x")] (word ")")
  let root : Block := ⟨⟨0⟩, .program,
    [.variable ⟨⟨1⟩, word "x", some list, some (.untyped comparison), none⟩,
      .expression (.untyped (.chain ⟨[call], word "f", none⟩))], word "x"⟩
  have wf : root.wellFormed .program := by decide +kernel
  have printed := spelled_tokens root.lexemes
  exact ⟨root, _, wf, printed, rfl, parse_print wf printed (.inl rfl)⟩

end ArrowScript.Grammar
