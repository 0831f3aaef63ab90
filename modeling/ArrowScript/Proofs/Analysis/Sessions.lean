import ArrowScript.Proofs.Analysis.Clashing
import ArrowScript.Proofs.Grammar.Blank

/-!
# Sessions

What one analysis knows is there for the next one. All programs number their nodes from zero on, so after the first
program of a session every other one is refused (`session_accepts_first`): it has an owner that was closed before,
at the latest its root. The session stays usable in the sense that what it knows is kept.
-/

namespace ArrowScript.Analysis
open Grammar Token

/-- The program that a source of a file is parsed to. -/
def parsedProgram (file source : String) : Program :=
  (parse (scan file source).tokens).program

/-- What the analysis knows after it was given the programs of some sources, one after the other. -/
def stateAfter (sources : List (String × String)) : State :=
  sources.foldl (fun state (file, source) => (analyze state (parsedProgram file source)).state) .initial

/-- An analysis that has failed at an owner of the program, while this was still being declared. The program is as it
was parsed. Of what was known before nothing is lost, and the scopes that were opened for the owners around the
failing one are still open. -/
structure Analyzed.Refused (analyzed : Analyzed) (state : State) (program : Program) (node : NodeId)
    (around : List NodeId) (left : List ScopeId) : Prop where
  first : (program.root.closings false []).find? state.hasClosed = some (node, around)
  declaring : ∃ reached, declareBlock program.root state = .error (.closedTwice node) reached
  fault : analyzed.fault? = some (.closedTwice node)
  message : analyzed.fault?.map Fault.message = some s!"scope of node {node.index} closed twice"
  untouched : analyzed.program = program
  blank : analyzed.program.root.Blank
  kept : ∀ node scope, state.scopes.scopeOf? node = some scope → analyzed.state.scopes.scopeOf? node = some scope
  functionDepth : analyzed.state.functionDepth = 0
  returnTypes : analyzed.state.returnTypes = []
  active : analyzed.state.active = left ++ state.active
  opened : List.Forall₂ (fun owner scope => (owner, scope) ∈ numbered state.scopes.size program.root.scopeOwners)
    around left
  exist : ∀ scope ∈ left, scope.index < analyzed.state.scopes.size

/-- What is known after at least one program: the first node of every program has a scope. -/
structure State.Used (state : State) : Prop where
  functionDepth : state.functionDepth = 0
  returnTypes : state.returnTypes = []
  exist : ∀ scope ∈ state.active, scope.index < state.scopes.size
  outermost : (state.scopes.scopeOf? ⟨0⟩).isSome

/-- The root is the first node of a parsed program. -/
lemma id_root_parsedProgram (file source : String) : (parsedProgram file source).root.id = ⟨0⟩ := rfl

/-- The first analysis of a session leaves scopes that mirror the program. -/
lemma mirrors_first (file source : String) :
    (analyze .initial (parsedProgram file source)).state.scopes.Mirrors (parsedProgram file source).root := by
  obtain ⟨file', sameFile⟩ := file_of_fromTokens
    fun token (mem : token ∈ (scan file source).tokens) => file_of_mem_scan mem
  obtain ⟨pieces, nodup⟩ := parse_fit (scan file source).tokens
  exact analyze_mirrors sameFile nodup pieces

/-- The first analysis of a session settles. -/
lemma analyze_first (file source : String) :
    (analyze .initial (parsedProgram file source)).Settled ∧
      (analyze .initial (parsedProgram file source)).state.Used := by
  have settled : (analyze .initial (parsedProgram file source)).Settled :=
    parse_settles fun token (mem : token ∈ (scan file source).tokens) => file_of_mem_scan mem
  obtain ⟨own, recorded, -⟩ := (mirrors_first file source).outermost
  refine ⟨settled, settled.functionDepth, settled.returnTypes, ?_, ?_⟩
  · rw [settled.active]
    exact nofun
  · exact Option.isSome_iff_exists.mpr ⟨own, recorded⟩

/-- Each owner of a parsed program is closed once. -/
lemma distinct_closings (file source : String) :
    (((parsedProgram file source).root.closings false []).map Prod.fst).Nodup := by
  rw [((parsedProgram file source).root.closings_perm false [] ⟨0⟩).nodup_iff, ← Block.scopeOwners_eq]
  exact (mirrors_first file source).distinct

/-- The root of a program is the last owner that is closed. -/
lemma mem_closings_root (root : Block) : (root.id, []) ∈ root.closings false [] := by
  obtain ⟨id, kind, statements, span⟩ := root
  rw [Block.closings]
  exact List.mem_append_right _ (List.mem_singleton_self _)

/-- After a first program, every other one is refused, and what is known is as it should be for the next one. -/
lemma analyze_used {state : State} (used : state.Used) (file source : String) :
    let program := parsedProgram file source
    (∃ node around left, (analyze state program).Refused state program node around left) ∧
      (analyze state program).state.Used := by
  intro program
  have ends : ClosesOnce (fun owner scope => (owner, scope) ∈ numbered state.scopes.size program.root.scopeOwners)
      state.active (declareBlock program.root) state ((program.root.enclosed false program.root.id).map Prod.fst)
      (program.root.closings false []) := by
    refine declareBlock_closes program.root program.root.id {
      depth := by rw [used.functionDepth, decide_eq_false (lt_irrefl 0)]
      exist := used.exist
      open' := ⟨[], rfl, .nil⟩
      numbers := fun entry mem => by rwa [program.root.scopeOwners_eq program.root.id]
      distinct := distinct_closings file source }
  rw [ClosesOnce, Ends] at ends
  split at ends
  · -- The root cannot have been closed, as its node has a scope already.
    have free := ends.fresh _ (List.mem_map_of_mem (mem_closings_root program.root))
    have taken := used.outermost
    rw [← id_root_parsedProgram file source, free] at taken
    cases taken
  next fault reached ran =>
    obtain ⟨node, around, left, first, rfl, active, opened⟩ := ends.first
    have failed : runBlock program.root state = .error (.closedTwice node, program.root) reached := by
      show EStateM.bind (EStateM.adaptExcept _ (declareBlock program.root)) _ state = _
      simp only [EStateM.bind, EStateM.adaptExcept, ran]
    have e : analyze state program = finish program program.root (some (.closedTwice node)) reached := by
      rw [analyze, failed]
    rw [e]
    have functionDepth := ends.functionDepth.trans used.functionDepth
    have returnTypes := ends.returnTypes.trans used.returnTypes
    have exist : ∀ scope ∈ left, scope.index < reached.scopes.size := fun scope mem =>
      ends.exist scope (active ▸ List.mem_append_left _ mem)
    refine ⟨⟨node, around, left, first, ⟨reached, ran⟩, rfl, rfl, rfl, parse_blank _, ends.kept, functionDepth,
      returnTypes, active, opened, exist⟩, functionDepth, returnTypes, ends.exist, ?_⟩
    obtain ⟨own, recorded⟩ := Option.isSome_iff_exists.mp used.outermost
    exact Option.isSome_iff_exists.mpr ⟨own, ends.kept _ _ recorded⟩

/-- What is known after the first source and any number of others. -/
lemma used_stateAfter (first : String × String) (others : List (String × String)) :
    (stateAfter (first :: others)).Used := by
  suffices ∀ state : State, state.Used →
      (others.foldl (fun state (file, source) => (analyze state (parsedProgram file source)).state) state).Used from
    this _ (analyze_first first.1 first.2).2
  induction others with
  | nil => exact fun state used => used
  | cons other rest ih => exact fun state used => ih _ (analyze_used used other.1 other.2).2

/-- One session accepts one program: of any sources that are parsed and analyzed one after the other, the first one
settles and every later one is refused, at the first owner to be closed whose node has a scope already. -/
theorem session_accepts_first (earlier : List (String × String)) (file source : String) :
    let program := parsedProgram file source
    let analyzed := analyze (stateAfter earlier) program
    match earlier with
    | [] => analyzed.Settled
    | _ :: _ => ∃ node around left, analyzed.Refused (stateAfter earlier) program node around left := by
  cases earlier with
  | nil => exact (analyze_first file source).1
  | cons first others => exact (analyze_used (used_stateAfter first others) file source).1

/-- After a program of three nested blocks, a program with a conditional in a loop fails at the innermost block, and
the scopes of the loop and of the root stay open. -/
theorem session_accepts_first_nested :
    let earlier := [("a", "while x \x7b\n  while x \x7b\n  \x7d\n\x7d\n")]
    let source := "while x \x7b\n  if x \x7b\n  \x7d\n\x7d\n"
    let program := parsedProgram "b" source
    (∃ node around left, (analyze (stateAfter earlier) program).Refused (stateAfter earlier) program node around left) ∧
      (program.root.closings false []).find? (stateAfter earlier).hasClosed = some (⟨2⟩, [⟨1⟩, ⟨0⟩]) ∧
      (analyze (stateAfter earlier) program).state.active = [⟨4⟩, ⟨3⟩] := by
  intro earlier source program
  exact ⟨session_accepts_first earlier "b" source, by decide +kernel, by decide +kernel⟩

end ArrowScript.Analysis
