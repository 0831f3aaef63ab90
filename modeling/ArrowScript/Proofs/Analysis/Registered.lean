import ArrowScript.Proofs.Analysis.AccountingPrograms
import ArrowScript.Proofs.Analysis.Recoding

/-!
# Registered handles

Every handle in an analyzed program and in what was found there is registered. Shapes that no handle stands for
may be coded by any handle, and the result is the same for all codes; so none of their codes is ever used
(`Analyzed.Accounted.clip_root`, `Analyzed.Accounted.registered`).
-/

namespace ArrowScript

/-- A handle, if it is registered. -/
def TypeRegistry.clip (registry : TypeRegistry) (type : TypeId) : TypeId :=
  if type.index < registry.size then type else .nothing

namespace Analysis

variable {origins : List Origin} {registry : TypeRegistry} {code : Shape → TypeId} {program : Program}
  {analyzed : Analyzed}

/-- The built-in types are registered. -/
lemma Grown.known_builtin (grown : Grown origins registry) {type : TypeId} (small : type.index < 6) :
    type.index < registry.size :=
  (grown.shaped_builtin small).known grown

/-- What is clipped is registered. -/
lemma Grown.known_clip (grown : Grown origins registry) (type : TypeId) :
    (registry.clip type).index < registry.size := by
  unfold TypeRegistry.clip
  split
  · assumption
  · exact grown.known_builtin (by decide)

/-- Shapes that no handle stands for may be coded by any handle. -/
lemma Coded.clip (coded : Coded origins registry code) (grown : Grown origins registry) :
    Coded origins registry fun shape => registry.clip (code shape) := by
  intro type shape shaped
  obtain rfl := coded type shape shaped
  exact if_pos (shaped.known grown)

/-- A registered code stands for its shape. -/
lemma Coded.shaped (coded : Coded origins registry code) (injective : Function.Injective code)
    (grown : Grown origins registry) {shape : Shape} (known : (code shape).index < registry.size) :
    Shaped origins registry (code shape) shape := by
  obtain ⟨form, shaped⟩ := Shaped.of_known grown known
  rwa [injective (coded _ _ shaped)] at shaped

namespace Analyzed.Accounted

variable (accounted : analyzed.Accounted program) (blank : program.root.Blank)

include accounted

/-- A program without findings has no definitions where they are forbidden, and no problems in its account. -/
lemma clean (none : analyzed.findings = []) {code : Shape → TypeId}
    (coded : Coded program.root.typeOrigins analyzed.state.types code) :
    (∀ region ∈ program.root.regions false .empty, region.forbidden = []) ∧
      (program.root.account code).problems = [] := by
  have perm := accounted.findings code coded
  rw [none] at perm
  have problems := perm.nil_eq.symm
  simp only [Block.problems, List.append_eq_nil_iff] at problems
  obtain ⟨⟨declared, visited⟩, -⟩ := problems
  exact ⟨fun region mem => (List.append_eq_nil_iff.mp (List.flatMap_eq_nil_iff.mp declared region mem)).2, visited⟩

include blank

/-- The handles in an analyzed program are registered. -/
lemma clip_root : analyzed.program.root.rename analyzed.state.types.clip = analyzed.program.root := by
  obtain ⟨code, coded⟩ := exists_coded accounted.grown
  have same := accounted.root _ (coded.clip accounted.grown)
  rw [(blank.account_recoded code).1, ← accounted.root code coded] at same
  exact same.symm

/-- The handles in what was found are registered. -/
lemma registered {finding : Finding SemanticProblem} (mem : finding ∈ analyzed.findings) {type : TypeId}
    (there : type ∈ finding.problem.types) : type.index < analyzed.state.types.size := by
  obtain ⟨code, coded⟩ := exists_coded accounted.grown
  -- Whatever the handles of shapes are, the findings are those of the account; so clip them to registered ones.
  have listed := (accounted.findings _ (coded.clip accounted.grown)).subset mem
  rw [blank.problems_recoded code] at listed
  obtain ⟨other, -, rfl⟩ := List.mem_map.mp listed
  rw [renameFinding, SemanticProblem.types_rename] at there
  obtain ⟨before, -, rfl⟩ := List.mem_map.mp there
  exact accounted.grown.known_clip before

end Analyzed.Accounted

end Analysis

end ArrowScript
