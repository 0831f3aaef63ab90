import ArrowScript.Proofs.Analysis.CompleteStatements
import ArrowScript.Proofs.Analysis.HindsightPrograms
import ArrowScript.Proofs.Compilation.Halting
import ArrowScript.Proofs.Grammar.BuildingStatements

/-!
# Complete programs

A compilation without reports need not have bound every name. A variable may be used before the statement that gives it
its type, and then the analysis stops without a word. The program is complete exactly if this happens nowhere
(`complete_of_compile_iff`).
-/

namespace ArrowScript
open Token Grammar Analysis

/-! ## Programs -/

namespace Analysis

/-- Where all names in written types are bound, those types are known from outside of the program. -/
lemma Resolved.written {analyzed : Analyzed} (resolved : Resolved analyzed.ascriptions) : analyzed.hindsight.Written := by
  intro node type listed
  obtain ⟨ascription, mem, same⟩ := List.mem_map.mp (mem_of_lookup_eq_some listed)
  have complete := complete_of_unresolved (resolved ascription mem)
  rw [(Prod.mk.inj same).2] at complete
  exact TypeRef.isSome_of_complete complete

namespace Analyzed.Ends

variable {program : Program} {analyzed : Analyzed} (ends : analyzed.Ends program) (blank : program.root.Blank)
  (nodup : program.root.ids.Nodup) (brackets : program.root.Bracketed)

include ends blank nodup brackets in
/-- Without findings all names in the written types of declarations are bound. -/
lemma names_resolved (none : analyzed.findings = []) : Resolved analyzed.ascriptions := by
  have perm := ends.unfound blank nodup brackets
  rw [Analyzed.unfound, none] at perm
  exact List.flatMap_eq_nil_iff.mp (List.append_eq_nil_iff.mp perm.nil_eq.symm).1

include ends blank nodup brackets in
/-- A program without findings is complete exactly if no variable in it is used before its type is known. -/
lemma complete_iff {tokens : List Token} (proper : program.root.Proper tokens) (none : analyzed.findings = []) :
    analyzed.program.root.complete ↔ Timely analyzed.encounters := by
  obtain ⟨code, coded⟩ := exists_coded ends.accounted.grown
  have resolved := ends.names_resolved blank nodup brackets none
  have written := resolved.written
  obtain ⟨allowed, visited⟩ := ends.accounted.clean none coded
  have stays := ends.accounted.clip_root blank
  have clear : ∀ region ∈ program.root.regions false .empty, region.Clear program.root.typeOrigins
      analyzed.state.scopes analyzed.state.types analyzed.hindsight.ascriptions
      (.of (program.root.regions false .empty)) := fun region within =>
    ⟨ends.shown blank nodup coded within, allowed region within⟩
  rw [Analyzed.ascriptions, ends.accounted.root code coded] at resolved
  rw [ends.accounted.root code coded] at stays
  rw [Analyzed.encounters, ends.accounted.root code coded]
  exact proper.complete_iff blank brackets (ends.shows blank nodup coded) written clear ⟨visited, stays⟩ resolved

end Analyzed.Ends

end Analysis

/-! ## Compilations -/

/-- The program that comes of a compilation is complete exactly if no variable in it is used before its type is known:
every name but those in imports and paths is bound, every written type is, and all declarations and expressions have
types, unless a chain has stopped at a variable that had no type yet. -/
theorem complete_of_compile_iff {file source : String} {options : LogOptions} {result : Compilation}
    (compiled : (compile file source options).1 = .ok result) : result.program.root.complete ↔
      Timely (analyze .initial (parse (scan file source).tokens).program).encounters := by
  obtain ⟨none, rfl⟩ := compile_ok compiled
  have ends := parse_ends fun token (mem : token ∈ (scan file source).tokens) => file_of_mem_scan mem
  have nodup := (parse_fit (scan file source).tokens).2
  have proper := proper_of_findings (List.map_eq_nil_iff.mp (none .parse))
  exact ends.complete_iff (parse_blank _) nodup (parse_bracketed _) proper (List.map_eq_nil_iff.mp (none .analyze))

/-- Nothing is reported for a name behind a variable that gets its type on the next line, and it is not bound. The other
way round it is reported that there is no such name. -/
example :
    let program (source : String) := (parse (scan "a" source).tokens).program
    let early := analyze .initial (program "y: int -> x.foo()\nx: -> 1\n")
    let late := analyze .initial (program "x: -> 1\ny: int -> x.foo()\n")
    early.findings = [] ∧ early.program.root.complete = false ∧ late.unfound.map Unfound.name = ["foo"] := by
  decide +kernel

end ArrowScript
