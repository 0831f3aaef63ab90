import ArrowScript.Proofs.Analysis.RecastStatements

/-!
# Programs put elsewhere

Where a program stands does not matter to the analysis, as long as spans are combined to what they were combined to. So
the analysis of a program that was put elsewhere in its file is the analysis of the program, put elsewhere.
-/

namespace ArrowScript
open Analysis

variable {move : Span → Span}

/-- Puts spans elsewhere and leaves all names as they are. -/
def Recast.relocation (move : Span → Span) : Recast :=
  ⟨move, move, id, id⟩

/-- A place in a file that spans are put at: texts stay, and so do lines and columns, and combined spans are put where
the spans that are combined are put. -/
structure Relocation (move : Span → Span) : Prop where
  content : ∀ span, (move span).content = span.content
  locus : ∀ span, (move span).locus = span.locus
  combine : ∀ first second, (move first).combine (move second) = (first.combine second).map move

namespace Relocation

variable (relocation : Relocation move)
include relocation

/-- The analysis does not notice that spans are put elsewhere. -/
lemma unnoticed : (Recast.relocation move).Unnoticed where
  content := relocation.content
  injective := Function.injective_id
  builtin _ _ := rfl
  mangle _ _ := rfl
  combine := relocation.combine
  userNode? _ _ := rfl
  element? _ _ := rfl
  isGeneric _ _ := rfl
  arrayOf _ _ := rfl
  registerUser _ _ _ := rfl
  registerParameter _ _ := rfl

/-- The wording of a problem does not tell byte offsets. -/
lemma message (types : TypeRegistry) (problem : SemanticProblem) :
    SemanticProblem.message types ((Recast.relocation move).problem problem) = problem.message types := by
  cases problem with
  | alreadyDefined what name first =>
    have same : (Recast.relocation move).problem (.alreadyDefined what name first) =
        .alreadyDefined what name (move first) := rfl
    rw [same]
    unfold SemanticProblem.message
    simp only [relocation.locus]
  | _ => rfl

/-- The diagnostic for a problem is at the place where the problem was put. -/
lemma diagnostic (types : TypeRegistry) (finding : Finding SemanticProblem) :
    SemanticProblem.diagnostic types ((Recast.relocation move).finding finding) =
      (SemanticProblem.diagnostic types finding).relocate move := by
  have span : ((Recast.relocation move).finding finding).span = move finding.span := ite_self _
  show (⟨_, _, _⟩ : Diagnostic) = ⟨_, _, _⟩
  rw [span]
  exact congrArg (Diagnostic.mk _ · _) (relocation.message types finding.problem)

end Relocation

namespace Analysis

/-- An analyzed program, put elsewhere in its file. -/
def Analyzed.relocate (move : Span → Span) (analyzed : Analyzed) : Analyzed :=
  (Recast.relocation move).analyzed analyzed

/-- A fresh analysis knows no places. -/
lemma State.relocate_initial (move : Span → Span) : (Recast.relocation move).state .initial = .initial := by
  simp only [Recast.state, Recast.scopes, initial, ScopeTable.empty, List.map_toArray, List.map_nil]
  rfl

/-- A program that was put elsewhere is analyzed to what the program is analyzed to, put elsewhere. -/
theorem analyze_relocate (relocation : Relocation move) (program : Program) :
    analyze .initial (program.relocate move) = (analyze .initial program).relocate move := by
  have analyzed := analyze_recast relocation.unnoticed .initial program
  rwa [State.relocate_initial] at analyzed

/-- What is reported about an analyzed program is put elsewhere. -/
lemma Analyzed.diagnostics_relocate (relocation : Relocation move) (analyzed : Analyzed) :
    (analyzed.relocate move).diagnostics = analyzed.diagnostics.map (Diagnostic.relocate move) := by
  show List.map _ (analyzed.findings.map _) = (analyzed.findings.map _).map _
  rw [List.map_map, List.map_map]
  exact List.map_congr_left fun finding _ => relocation.diagnostic analyzed.state.types finding

end Analysis

end ArrowScript
