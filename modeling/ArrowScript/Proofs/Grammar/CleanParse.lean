import ArrowScript.Proofs.Grammar.ReadingStatements
import ArrowScript.Proofs.Token.Scanning

/-!
# Parses without reports

What parsing did as a whole (`parse_reads`). Every step over a token either takes a name or literal into
the tree, or steps over a token that is neither, or was reported. So a parse that reported nothing has
taken each name and literal of the tokens exactly once, in the order of the tokens.
-/

namespace ArrowScript.Grammar
open Place Token

/-- Parsing reads the tokens from the first one that is not trivia, and draws all handles from zero on. -/
lemma parse_reads (tokens : List Token) :
    ∃ s t pieces, s.cursor = (Cursor.onFirst tokens).skip .insensitive ∧ s.nextId = 0 ∧ s.findings = #[] ∧
      (parse tokens).findings = t.findings.toList ∧ (parse tokens).program.root.Written pieces ∧
      Reads (before s) (before t) pieces (parse tokens).program.root.ids ∧
      (t.Clean → t.token.kind = .endOfFile) := by
  have skipped := (List.dropWhile_sublist (l := (Cursor.onFirst tokens).pending)
    (fun token => Sensitivity.insensitive.skips token.kind)).length_le
  obtain ⟨pieces, written, reads, ends⟩ := program_reads
    (s := ⟨(Cursor.onFirst tokens).skip .insensitive, 0, #[]⟩) (Nat.lt_succ_of_le skipped) rfl
  exact ⟨_, _, pieces, rfl, rfl, rfl, rfl, written, reads, ends⟩

/-- What parsing reports is at a token, or at the end of file. -/
lemma parse_located {tokens : List Token} {finding : Finding SyntaxProblem} (mem : finding ∈ (parse tokens).findings) :
    FromTokens ((Cursor.onFirst tokens).skip .insensitive) (.mark finding.span) := by
  obtain ⟨s, t, pieces, start, -, none, findings, -, reads, -⟩ := parse_reads tokens
  rw [findings, Array.mem_toList_iff] at mem
  rw [← start]
  rcases reads.located finding mem with before | located
  · have before : finding ∈ s.findings := before
    rw [none] at before
    exact absurd before (Array.not_mem_empty finding)
  · exact located

/-- Tokens that end with the end of file are parsed from their first to the one before it. -/
lemma onFirst_append {body : List Token} {last : Token} (kind : last.kind = .endOfFile) :
    Cursor.onFirst (body ++ [last]) = ⟨body, last.span⟩ := by
  simp [Cursor.onFirst, kind]

/-- Only at the end of the tokens is there an end of file, if there is none before. -/
lemma pending_eq_nil {s : State} (none : ∀ token ∈ s.pending, token.kind ≠ .endOfFile)
    (h : s.token.kind = .endOfFile) : s.pending = [] := by
  rcases Nat.eq_zero_or_pos s.pending.length with e | pos
  · exact List.length_eq_zero_iff.mp e
  · have mem : s.token ∈ s.pending := by
      rw [pending_eq_cons pos]
      exact List.mem_cons_self
    exact absurd h (none s.token mem)

/-- A parse without reports keeps every name and literal of the tokens: in the order that the program is
written in, the leaves of the tree are those tokens, one by one; the order of the tree itself differs
from it only in that it has the fields of a type before the methods. -/
theorem parse_keeps_leaves :
    (∀ file source, EndsOnce (scan file source).tokens) ∧
    ∀ tokens, EndsOnce tokens → (parse tokens).findings = [] →
      ∃ pieces, (parse tokens).program.root.Written pieces ∧
        leavesOf pieces = leafSpans tokens ∧
        (leavesOf (parse tokens).program.root.pieces).Perm (leafSpans tokens) := by
  refine ⟨endsOnce_scan, ?_⟩
  rintro _ ⟨body, last, rfl, kind, once⟩ clean
  obtain ⟨s, t, pieces, start, -, -, findings, written, reads, ends⟩ := parse_reads (body ++ [last])
  rw [onFirst_append kind] at start
  have clean : t.Clean := by
    rw [findings, Array.toList_eq_nil_iff] at clean
    rw [State.Clean, clean, Array.size_empty]
  -- nothing is left behind the tokens that were read
  have within : t.pending ⊆ body := by
    have skipped : s.pending = body.dropWhile _ := congrArg Cursor.pending start
    exact List.Subset.trans reads.pending.subset (skipped ▸ (List.dropWhile_suffix _).subset)
  have finished : t.pending = [] :=
    pending_eq_nil (fun token mem => once token (within mem)) (ends clean)
  have leaves : leavesOf pieces = leafSpans (body ++ [last]) := by
    have read := reads.leaves clean
    rw [rest_before, rest_before, finished, State.pending, start, Cursor.skip, leafSpans_dropWhile] at read
    simpa [leafSpans, kind, Token.Kind.isLeaf] using read.symm
  exact ⟨pieces, written, leaves, leaves ▸ (written.perm.filterMap Piece.leaf?).symm⟩

/-- The tokens of `x : int`, a line end, `x -> 1` are kept as four leaves. -/
theorem parse_keeps_leaves_assignment :
    ∃ tokens, EndsOnce tokens ∧ (parse tokens).findings = [] ∧ (leafSpans tokens).length = 4 ∧
      ∃ pieces, (parse tokens).program.root.Written pieces ∧
        leavesOf pieces = leafSpans tokens ∧
        (leavesOf (parse tokens).program.root.pieces).Perm (leafSpans tokens) := by
  let tokenAt (kind : Kind) (offset : Nat) : Token := ⟨kind, ⟨none, "", offset, 1, 1, offset + 1⟩⟩
  let tokens := [tokenAt .identifier 0, tokenAt .colon 1, tokenAt .builtinType 2, tokenAt .endOfLine 3,
    tokenAt .identifier 4, tokenAt .arrow 5, tokenAt .integer 6, tokenAt .endOfFile 7]
  have once : EndsOnce tokens := ⟨tokens.dropLast, tokenAt .endOfFile 7, rfl, rfl, by decide⟩
  have clean : (parse tokens).findings = [] := by decide +kernel
  exact ⟨tokens, once, clean, by decide, parse_keeps_leaves.2 tokens once clean⟩

end ArrowScript.Grammar
