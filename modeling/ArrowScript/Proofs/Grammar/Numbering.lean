import ArrowScript.Proofs.Grammar.CleanParse
import ArrowScript.Proofs.Grammar.Termination

/-!
# Numbering of nodes

Each routine of the parser draws a handle for every node that it puts into the tree, before, between or behind those of
the parts, and none for what it drops. What a routine reads carries the handles that were drawn on the way, in some
order (`Reads.nodes`), so the handles of a whole tree are counted without gaps, on malformed input, too.
-/

namespace ArrowScript.Grammar

/-- A program draws the first handle for its root. -/
lemma id_of_program {s t : State} {bound : Nat} {root : Block} (run : Runs (program bound) s root t) :
    root.id = ⟨s.nextId⟩ := by
  simp only [program, run_bind, run_freshId, run_span, run_pure] at run
  obtain ⟨_, _, ⟨rfl, rfl⟩, _, _, ⟨rfl, rfl⟩, _, _, _, rfl, rfl⟩ := run
  rfl

/-- Handles identify nodes. Whatever the tokens are, the root of the tree has the first handle, no handle is given to two
of the blocks, types, functions, parameters and variables in the tree, and their handles are all those that the parser
has drawn when it comes to its end: the numbers from zero up to how many such nodes there are. -/
theorem parse_numbers_nodes (tokens : List Token) :
    let root := (parse tokens).program.root
    root.id = ⟨0⟩ ∧ root.ids.Nodup ∧ root.ids.Perm ((List.range root.ids.length).map NodeId.mk) ∧
      ∃ t, Runs (program ((Cursor.onFirst tokens).pending.length + 1)) (State.start tokens) root t ∧
        t.nextId = root.ids.length := by
  intro root
  obtain ⟨t, run⟩ : ∃ t, Runs (program ((Cursor.onFirst tokens).pending.length + 1)) (.start tokens) root t :=
    ⟨_, rfl⟩
  obtain ⟨pieces, -, reads, -⟩ := program_reads (Nat.lt_succ_of_le (start_onward tokens).length_le) run
  have drawn : root.ids.Perm (handles 0 t.nextId) := reads.nodes
  have count : t.nextId = root.ids.length := by
    rw [drawn.length_eq, handles, List.length_map, List.length_range', Nat.sub_zero]
  refine ⟨id_of_program run, drawn.nodup_iff.mpr (nodup_handles 0 t.nextId), ?_, t, run, count⟩
  rwa [handles, Nat.sub_zero, count, ← List.range_eq_range'] at drawn

end ArrowScript.Grammar
