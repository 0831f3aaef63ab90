import ArrowScript.Proofs.Analysis.Registered
import ArrowScript.Proofs.Analysis.WellTyped

/-!
# Functions of a program

Every function that is introduced has a region of its own, and in the account of the program its parameters have
the types that are found in that region.
-/

namespace ArrowScript
open Analysis

/-! ## Renamed functions -/

section
variable {ξ : TypeId → TypeId}

mutual

/-- Renaming types in a block renames them in its functions. -/
lemma Block.functions_rename : ∀ x : Block, (x.rename ξ).functions = x.functions.map (FunctionDef.rename ξ)
  | ⟨id, kind, statements, span⟩ => by
    rw [Block.rename, Block.functions, Block.functions, statementFunctions_rename]

lemma statementFunctions_rename : ∀ x : List Statement,
    statementFunctions (statementsRename ξ x) = (statementFunctions x).map (FunctionDef.rename ξ)
  | [] => by rw [statementsRename, statementFunctions, List.map_nil]
  | statement :: rest => by
    rw [statementsRename, statementFunctions, statementFunctions, List.map_append, statement.functions_rename,
      statementFunctions_rename rest]

lemma Statement.functions_rename : ∀ x : Statement,
    (x.rename ξ).functions = x.functions.map (FunctionDef.rename ξ)
  | .type definition => by
    rw [Statement.rename, Statement.functions, Statement.functions, definition.functions_rename]
  | .function definition => by
    rw [Statement.rename, Statement.functions, Statement.functions, definition.functions_rename]
  | .whileLoop keyword condition body => by
    rw [Statement.rename, Statement.functions, Statement.functions, body.functions_rename]
  | .conditional conditional => by
    rw [Statement.rename, Statement.functions, Statement.functions, conditional.functions_rename]
  | .variable _ | .returning .. | .breaking _ | .continuing _ | .importing .. | .path .. | .expression _ => rfl

lemma Conditional.functions_rename : ∀ x : Conditional,
    (x.rename ξ).functions = x.functions.map (FunctionDef.rename ξ)
  | ⟨condition, body, otherwise, keyword⟩ => by
    rw [Conditional.rename, Conditional.functions, Conditional.functions, List.map_append, body.functions_rename,
      otherwise.functions_rename]

lemma Otherwise.functions_rename : ∀ x : Otherwise,
    (x.rename ξ).functions = x.functions.map (FunctionDef.rename ξ)
  | .nothing => by rw [Otherwise.rename, Otherwise.functions, List.map_nil]
  | .conditional conditional => by
    rw [Otherwise.rename, Otherwise.functions, Otherwise.functions, conditional.functions_rename]
  | .block block => by
    rw [Otherwise.rename, Otherwise.functions, Otherwise.functions, block.functions_rename]

lemma FunctionDef.functions_rename : ∀ x : FunctionDef,
    (x.rename ξ).functions = x.functions.map (FunctionDef.rename ξ)
  | ⟨id, name, typeParameters, parameters, returns, body, keyword⟩ => by
    rw [FunctionDef.functions, List.map_cons, FunctionDef.rename, FunctionDef.functions, body.functions_rename]

lemma functionsAmong_rename : ∀ x : List FunctionDef,
    functionsAmong (functionsRename ξ x) = (functionsAmong x).map (FunctionDef.rename ξ)
  | [] => by rw [functionsRename, functionsAmong, List.map_nil]
  | definition :: rest => by
    rw [functionsRename, functionsAmong, functionsAmong, List.map_append, definition.functions_rename,
      functionsAmong_rename rest]

/-- Renaming types in a type renames them in its methods. -/
lemma TypeDef.functions_rename : ∀ x : TypeDef, (x.rename ξ).functions = x.functions.map (FunctionDef.rename ξ)
  | ⟨id, name, typeParameters, fields, methods, keyword, binding⟩ => by
    rw [TypeDef.rename, TypeDef.functions, TypeDef.functions, functionsAmong_rename]

end

end

/-! ## Introduced functions -/

namespace Analysis

/-- A function that is introduced somewhere has a region among some. -/
def Introduction.HasRegion (regions : List Region) (introduction : Introduction) : Prop :=
  ∀ entry, introduction.meaning = .function entry →
    ∃ region ∈ regions, ∃ definition, region.definition = some (.inl definition) ∧ definition.id = entry.node

/-- The functions that are introduced in some regions have regions among others. -/
def HaveRegions (regions among : List Region) : Prop :=
  ∀ region ∈ regions, ∀ introduction ∈ region.introductions, introduction.HasRegion among

variable {regions others among more : List Region} {introduction : Introduction}

/-- A region among some is one among more. -/
lemma Introduction.HasRegion.mono (h : introduction.HasRegion among) (subset : among ⊆ more) :
    introduction.HasRegion more := by
  intro entry meaning
  obtain ⟨region, mem, rest⟩ := h entry meaning
  exact ⟨region, subset mem, rest⟩

/-- A parameter is no function. -/
lemma hasRegion_typeParameter {owner : NodeId} {position : Nat} {names : List Span}
    (mem : introduction ∈ typeParameterIntroductions owner position names) : introduction.HasRegion among := by
  induction names generalizing position with
  | nil => cases mem
  | cons name rest ih =>
    rw [typeParameterIntroductions] at mem
    rcases List.mem_cons.mp mem with rfl | mem
    · nofun
    · exact ih mem

namespace HaveRegions

/-- Regions among some are among more. -/
lemma mono (h : HaveRegions regions among) (subset : among ⊆ more) : HaveRegions regions more :=
  fun region mem introduction there => (h region mem introduction there).mono subset

/-- Regions of two parts. -/
lemma append (h : HaveRegions regions regions) (g : HaveRegions others others) :
    HaveRegions (regions ++ others) (regions ++ others) := by
  intro region mem
  rcases List.mem_append.mp mem with mem | mem
  · exact h.mono (List.subset_append_left _ _) region mem
  · exact g.mono (List.subset_append_right _ _) region mem

/-- One more region. -/
lemma cons {region : Region} (own : ∀ introduction ∈ region.introductions, introduction.HasRegion regions)
    (h : HaveRegions regions regions) : HaveRegions (region :: regions) (region :: regions) := by
  intro other mem introduction there
  rcases List.mem_cons.mp mem with rfl | mem
  · exact (own introduction there).mono (List.subset_cons_self _ _)
  · exact (h other mem introduction there).mono (List.subset_cons_self _ _)

end HaveRegions

end Analysis

/-- A function has a region of its own. -/
lemma FunctionDef.hasRegion (definition : FunctionDef) (around : Layer) :
    definition.introduction.HasRegion (definition.regions around) := by
  obtain ⟨id, name, typeParameters, parameters, returns, body, keyword⟩ := definition
  rintro entry meaning
  cases meaning
  rw [FunctionDef.regions]
  exact ⟨_, List.mem_cons_self, _, rfl, rfl⟩

/-- The function that a statement introduces has a region there. -/
lemma Statement.hasRegion (statement : Statement) (nested : Bool) (around : Layer) :
    ∀ introduction ∈ statement.introductions nested, introduction.HasRegion (statement.regions nested around) := by
  intro introduction mem
  match statement, nested, mem with
  | .function definition, false, mem =>
    obtain rfl := List.mem_singleton.mp mem
    exact definition.hasRegion around
  | .type ⟨id, name, typeParameters, fields, methods, keyword, binding⟩, false, mem =>
    obtain rfl := List.mem_singleton.mp mem
    intro entry meaning
    cases meaning
  | .variable declaration, _, mem =>
    obtain rfl := List.mem_singleton.mp mem
    nofun

mutual

/-- The functions that are introduced in a block have regions there. -/
lemma Block.haveRegions : ∀ (x : Block) (nested : Bool) (around : Layer),
    HaveRegions (x.regions nested around) (x.regions nested around)
  | ⟨id, kind, statements, span⟩, nested, around => by
    rw [Block.regions]
    refine .cons (fun introduction mem => ?_) (statements_haveRegions statements nested _)
    obtain ⟨statement, there, mem⟩ := List.mem_flatMap.mp mem
    rw [statementRegions_eq_flatMap]
    exact (statement.hasRegion nested _ introduction mem).mono fun region mem =>
      List.mem_flatMap.mpr ⟨_, there, mem⟩

lemma statements_haveRegions : ∀ (x : List Statement) (nested : Bool) (around : Layer),
    HaveRegions (statementRegions nested around x) (statementRegions nested around x)
  | [], nested, around => by
    rw [statementRegions]
    nofun
  | statement :: rest, nested, around => by
    rw [statementRegions]
    exact (statement.haveRegions nested around).append (statements_haveRegions rest nested around)

lemma Statement.haveRegions : ∀ (x : Statement) (nested : Bool) (around : Layer),
    HaveRegions (x.regions nested around) (x.regions nested around)
  | .type definition, nested, around => by
    rw [Statement.regions]
    cases nested with
    -- Inside a function there are no regions of definitions.
    | true => nofun
    | false => exact definition.haveRegions around
  | .function definition, nested, around => by
    rw [Statement.regions]
    cases nested with
    | true => nofun
    | false => exact definition.haveRegions around
  | .whileLoop _ _ body, nested, around => by
    rw [Statement.regions]
    exact body.haveRegions nested around
  | .conditional conditional, nested, around => by
    rw [Statement.regions]
    exact conditional.haveRegions nested around
  | .variable _, nested, around | .returning .., nested, around | .breaking _, nested, around
  | .continuing _, nested, around | .importing .., nested, around | .path .., nested, around
  | .expression _, nested, around => by
    rw [Statement.regions]
    nofun

lemma Conditional.haveRegions : ∀ (x : Conditional) (nested : Bool) (around : Layer),
    HaveRegions (x.regions nested around) (x.regions nested around)
  | ⟨_, body, otherwise, _⟩, nested, around => by
    rw [Conditional.regions]
    exact (body.haveRegions nested around).append (otherwise.haveRegions nested around)

lemma Otherwise.haveRegions : ∀ (x : Otherwise) (nested : Bool) (around : Layer),
    HaveRegions (x.regions nested around) (x.regions nested around)
  | .nothing, nested, around => by
    rw [Otherwise.regions]
    nofun
  | .conditional conditional, nested, around => by
    rw [Otherwise.regions]
    exact conditional.haveRegions nested around
  | .block block, nested, around => by
    rw [Otherwise.regions]
    exact block.haveRegions nested around

lemma FunctionDef.haveRegions : ∀ (x : FunctionDef) (around : Layer),
    HaveRegions (x.regions around) (x.regions around)
  | ⟨id, name, typeParameters, parameters, returns, body, keyword⟩, around => by
    rw [FunctionDef.regions]
    refine .cons (fun introduction mem => ?_) (body.haveRegions true _)
    rcases List.mem_append.mp mem with mem | mem
    · exact hasRegion_typeParameter mem
    · obtain ⟨parameter, -, rfl⟩ := List.mem_map.mp mem
      nofun

lemma functions_haveRegions : ∀ (x : List FunctionDef) (around : Layer),
    HaveRegions (functionRegions around x) (functionRegions around x)
  | [], around => by
    rw [functionRegions]
    nofun
  | definition :: rest, around => by
    rw [functionRegions]
    exact (definition.haveRegions around).append (functions_haveRegions rest around)

lemma TypeDef.haveRegions : ∀ (x : TypeDef) (around : Layer),
    HaveRegions (x.regions around) (x.regions around)
  | ⟨id, name, typeParameters, fields, methods, keyword, binding⟩, around => by
    rw [TypeDef.regions]
    refine .cons (fun introduction mem => ?_) (functions_haveRegions methods _)
    rcases List.mem_append.mp mem with mem | mem
    · exact hasRegion_typeParameter mem
    rcases List.mem_append.mp mem with mem | mem
    · obtain ⟨field, -, rfl⟩ := List.mem_map.mp mem
      nofun
    · obtain ⟨method, there, rfl⟩ := List.mem_map.mp mem
      rw [functionRegions_eq_flatMap]
      exact (method.hasRegion _).mono fun region mem =>
      List.mem_flatMap.mpr ⟨_, there, mem⟩

end

/-! ## Recorded functions -/

namespace Analysis

/-- The function that a region belongs to is among some functions, and its parameters are recorded with the types
that are found in the region. -/
def Region.Records (code : Shape → TypeId) (functions : List FunctionDef) (region : Region) : Prop :=
  ∀ definition, region.definition = some (.inl definition) → ∃ final ∈ functions,
    final.id = definition.id ∧ final.parameters = definition.parameters.map fun parameter =>
      { parameter with written := parameter.written.bound code region.place.layer }

/-- What is recorded among some functions is recorded among more. -/
lemma Region.Records.mono {code : Shape → TypeId} {functions more : List FunctionDef} {region : Region}
    (h : region.Records code functions) (subset : functions ⊆ more) : region.Records code more := by
  intro definition known
  obtain ⟨final, mem, rest⟩ := h definition known
  exact ⟨final, subset mem, rest⟩

/-- Regions of two parts are recorded if those of each part are. -/
lemma records_append {code : Shape → TypeId} {first second : List Region} {functions others : List FunctionDef}
    (h : ∀ region ∈ first, region.Records code functions) (g : ∀ region ∈ second, region.Records code others) :
    ∀ region ∈ first ++ second, region.Records code (functions ++ others) := by
  intro region mem
  rcases List.mem_append.mp mem with mem | mem
  · exact (h region mem).mono (List.subset_append_left _ _)
  · exact (g region mem).mono (List.subset_append_right _ _)

end Analysis

mutual

/-- The functions of a block are recorded. -/
lemma Block.records_visited : ∀ (x : Block) (setting : Setting),
    ∀ region ∈ x.regions setting.nested setting.around,
      region.Records setting.code (x.visited setting).node.functions
  | ⟨id, kind, statements, span⟩, setting => by
    rw [Block.regions, Block.visited, Block.functions]
    refine List.forall_mem_cons.mpr ⟨nofun, ?_⟩
    exact records_statementsVisited statements (setting.inside (statementLayer setting.nested statements))

lemma records_statementsVisited : ∀ (x : List Statement) (setting : Setting),
    ∀ region ∈ statementRegions setting.nested setting.around x,
      region.Records setting.code (statementFunctions (statementsVisited setting x).node)
  | [], setting => by
    rw [statementRegions]
    nofun
  | statement :: rest, setting => by
    rw [statementRegions, statementsVisited, statementFunctions]
    exact records_append (statement.records_visited setting)
      (records_statementsVisited rest (setting.after (statement.visited setting).inferred))

lemma Statement.records_visited : ∀ (x : Statement) (setting : Setting),
    ∀ region ∈ x.regions setting.nested setting.around,
      region.Records setting.code (x.visited setting).node.functions
  | .type definition, setting => by
    rw [Statement.regions, Statement.visited]
    split
    · nofun
    · rw [Statement.functions]
      exact definition.records_visited setting
  | .function definition, setting => by
    rw [Statement.regions, Statement.visited]
    split
    · nofun
    · rw [Statement.functions]
      exact definition.records_visited setting
  | .whileLoop keyword condition body, setting => by
    rw [Statement.regions, Statement.visited, Statement.functions]
    exact body.records_visited setting
  | .conditional conditional, setting => by
    rw [Statement.regions, Statement.visited, Statement.functions]
    exact conditional.records_visited setting
  | .variable _, setting | .returning .., setting | .breaking _, setting | .continuing _, setting
  | .importing .., setting | .path .., setting | .expression _, setting => by
    rw [Statement.regions]
    nofun

lemma Conditional.records_visited : ∀ (x : Conditional) (setting : Setting),
    ∀ region ∈ x.regions setting.nested setting.around,
      region.Records setting.code (x.visited setting).node.functions
  | ⟨condition, body, otherwise, keyword⟩, setting => by
    rw [Conditional.regions, Conditional.visited, Conditional.functions]
    exact records_append (body.records_visited setting)
      (otherwise.records_visited (setting.after (body.visited setting).inferred))

lemma Otherwise.records_visited : ∀ (x : Otherwise) (setting : Setting),
    ∀ region ∈ x.regions setting.nested setting.around,
      region.Records setting.code (x.visited setting).node.functions
  | .nothing, setting => by
    rw [Otherwise.regions]
    nofun
  | .conditional conditional, setting => by
    rw [Otherwise.regions, Otherwise.visited, Otherwise.functions]
    exact conditional.records_visited setting
  | .block block, setting => by
    rw [Otherwise.regions, Otherwise.visited, Otherwise.functions]
    exact block.records_visited setting

lemma FunctionDef.records_visited : ∀ (x : FunctionDef) (setting : Setting),
    ∀ region ∈ x.regions setting.around, region.Records setting.code (x.visited setting).node.functions
  | ⟨id, name, typeParameters, parameters, returns, body, keyword⟩, setting => by
    let definition : FunctionDef := ⟨id, name, typeParameters, parameters, returns, body, keyword⟩
    let inside := setting.inside definition.layer
    rw [FunctionDef.regions, FunctionDef.visited, FunctionDef.functions]
    refine List.forall_mem_cons.mpr ⟨?_, fun region mem => ?_⟩
    · intro known e
      cases e
      exact ⟨_, List.mem_cons_self, rfl, rfl⟩
    · have inner := body.records_visited (inside.body (definition.returned inside.around)) region mem
      exact inner.mono (List.subset_cons_self _ _)

lemma records_functionsVisited : ∀ (x : List FunctionDef) (setting : Setting),
    ∀ region ∈ functionRegions setting.around x,
      region.Records setting.code (functionsAmong (functionsVisited setting x).node)
  | [], setting => by
    rw [functionRegions]
    nofun
  | definition :: rest, setting => by
    rw [functionRegions, functionsVisited, functionsAmong]
    exact records_append (definition.records_visited setting)
      (records_functionsVisited rest (setting.after (definition.visited setting).inferred))

lemma TypeDef.records_visited : ∀ (x : TypeDef) (setting : Setting),
    ∀ region ∈ x.regions setting.around, region.Records setting.code (x.visited setting).node.functions
  | ⟨id, name, typeParameters, fields, methods, keyword, binding⟩, setting => by
    let definition : TypeDef := ⟨id, name, typeParameters, fields, methods, keyword, binding⟩
    let inside := setting.inside definition.layer
    rw [TypeDef.regions, TypeDef.visited, TypeDef.functions]
    refine List.forall_mem_cons.mpr ⟨nofun, ?_⟩
    exact records_functionsVisited methods (inside.after (declarationsVisited inside fields).inferred)

end

end ArrowScript
