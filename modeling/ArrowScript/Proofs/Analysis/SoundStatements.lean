import ArrowScript.Proofs.Analysis.SoundExpressions

/-!
# Soundness for statements

A statement in which the account finds no problem is well typed by the types that are recorded in it, if nothing is
defined inside a function and the functions that are introduced are documented (`Statement.Blank.visited_wellTyped`).
-/

namespace ArrowScript
open Analysis Grammar

variable {origins : List Origin} {typing : Typing}

namespace Analysis

/-! ## Settings -/

/-- Nothing is wrong with what comes of a visit, and the types in it are registered. -/
structure Outcome.Clean {ν : Type} (place : ν → ν) (outcome : Outcome ν) : Prop where
  problems : outcome.problems = []
  stays : place outcome.node = outcome.node

/-- Nothing is defined in a region that may not be there, and its functions are documented. -/
structure Region.Fine (typing : Typing) (facts : Facts) (code : Shape → TypeId) (region : Region) : Prop where
  allowed : region.forbidden = []
  documented : (Layer.of region.introductions).Documented typing facts code

/-- What is found in an inner layer is documented, and so is what is found around it. -/
lemma Layer.Documented.shadowing {facts : Facts} {code : Shape → TypeId} {inner outer : Layer}
    (h : inner.Documented typing facts code) (g : outer.Documented typing facts code) :
    (inner.shadowing outer).Documented typing facts code := by
  intro key entry found
  rcases Option.or_eq_some_iff.mp found with found | ⟨-, found⟩
  · exact h key entry found
  · exact g key entry found

namespace Setting

variable {setting : Setting}

/-- The type to be returned where a setting is inside a function. -/
def expected (setting : Setting) : Option (Option TypeId) :=
  if setting.nested then some (setting.returned.map setting.code) else none

namespace Sound

/-- Going into a documented layer. -/
lemma inside (sound : setting.Sound origins typing) {layer : Layer}
    (documented : layer.Documented typing setting.facts setting.code) : (setting.inside layer).Sound origins typing :=
  { sound with around := documented.shadowing sound.around }

/-- Going on when the types of further variables are known. -/
lemma after (sound : setting.Sound origins typing) (inferred : List (NodeId × Shape)) :
    (setting.after inferred).Sound origins typing :=
  { sound with }

/-- Going into the body of a function. -/
lemma body (sound : setting.Sound origins typing) {returned : Option Shape}
    (recorded : setting.Recorded typing.registry returned) : (setting.body returned).Sound origins typing :=
  { sound with returned := recorded }

/-- Nothing is recorded as itself. -/
lemma code_nothing (sound : setting.Sound origins typing) : setting.code (.builtin .nothing) = .nothing :=
  sound.coded _ _ (sound.grown.shaped_builtin (by decide))

/-- Nothing is recorded. -/
lemma recorded_nothing (sound : setting.Sound origins typing) :
    setting.Recorded typing.registry (some (.builtin .nothing)) := by
  show some (typing.registry.clip (setting.code (.builtin .nothing))) = some (setting.code (.builtin .nothing))
  rw [sound.code_nothing]
  exact congrArg some (if_pos (sound.grown.known_builtin (by decide)))

end Sound

end Setting

end Analysis

/-! ## Declarations and returned values -/

section
variable {setting : Setting} (sound : setting.Sound origins typing)

include sound

/-- A clean value that may be absent is well typed, and its type is registered. -/
lemma optionJudged_wellTyped {value : Option Expression} (blank : ∀ x ∈ value, x.Blank)
    (clean : (optionJudged setting value).Clean (Option.map (Expression.rename typing.registry.clip))) :
    (∀ found ∈ (optionJudged setting value).node, Expression.WellTyped typing found) ∧
      setting.Recorded typing.registry (optionJudged setting value).shape := by
  cases value with
  | none => exact ⟨nofun, rfl⟩
  | some value =>
    obtain ⟨problems, stays⟩ := clean
    replace stays := Option.some.inj stays
    refine ⟨?_, Expression.recorded_of_stays stays⟩
    rintro found mem
    obtain rfl := Option.some.inj mem
    exact (blank value rfl).judged_wellTyped sound ⟨problems, stays⟩

/-- A clean declaration is well typed. -/
lemma Declaration.Blank.visited_wellTyped {declaration : Declaration} (blank : declaration.Blank)
    (clean : (declaration.visited setting).Clean (Declaration.rename typing.registry.clip)) :
    (declaration.visited setting).node.WellTyped typing := by
  obtain ⟨problems, stays⟩ := clean
  have initial := blank.initial
  obtain ⟨id, name, written, value, type⟩ := declaration
  unfold Declaration.visited at problems stays ⊢
  cases written with
  | none =>
    obtain ⟨wellTyped, -⟩ := optionJudged_wellTyped sound initial
      ⟨problems, congrArg Declaration.initial stays⟩
    exact ⟨wellTyped, nofun⟩
  | some written =>
    obtain ⟨problems, fits⟩ := List.append_eq_nil_iff.mp problems
    obtain ⟨wellTyped, recorded⟩ := optionJudged_wellTyped sound initial
      ⟨problems, congrArg Declaration.initial stays⟩
    refine ⟨wellTyped, ?_⟩
    show typing.Accepts (written.bound setting.code setting.around).binding
      ((optionJudged setting value).node.bind Expression.type)
    cases value with
    | none => exact fun _ _ => nofun
    | some value =>
      rw [TypeRef.binding_bound]
      show typing.Accepts _ (value.judged setting).node.type
      rw [value.type_judged]
      exact sound.accepts fits (congrArg Declaration.type stays) recorded

/-- A clean returned value is well typed and goes with the type to be returned. -/
lemma returnVisited_wellTyped {keyword : Span} {value : Option Expression} (blank : ∀ x ∈ value, x.Blank)
    (clean : (returnVisited setting keyword value).Clean (Option.map (Expression.rename typing.registry.clip))) :
    (∀ found ∈ (returnVisited setting keyword value).node, Expression.WellTyped typing found) ∧
      ∀ expected ∈ setting.expected,
        typing.Accepts expected (returnedType (returnVisited setting keyword value).node) := by
  obtain ⟨problems, stays⟩ := clean
  obtain ⟨problems, fits⟩ := List.append_eq_nil_iff.mp problems
  obtain ⟨wellTyped, recorded⟩ := optionJudged_wellTyped sound blank ⟨problems, stays⟩
  refine ⟨wellTyped, fun expected mem => ?_⟩
  unfold Setting.expected at mem
  split at mem
  · obtain rfl := Option.some.inj mem
    cases value with
    | none =>
      have accepts : typing.Accepts (setting.returned.map setting.code) (some (setting.code (.builtin .nothing))) :=
        sound.accepts fits sound.returned sound.recorded_nothing
      rwa [sound.code_nothing] at accepts
    | some value =>
      show typing.Accepts _ (value.judged setting).node.type
      rw [value.type_judged]
      exact sound.accepts fits sound.returned recorded
  · cases mem

/-- Clean declarations are well typed. -/
lemma declarationsVisited_wellTyped {list : List Declaration} (blank : ∀ declaration ∈ list, declaration.Blank)
    (clean : (declarationsVisited setting list).Clean (List.map (Declaration.rename typing.registry.clip))) :
    ∀ declaration ∈ (declarationsVisited setting list).node, declaration.WellTyped typing := by
  induction list generalizing setting with
  | nil => nofun
  | cons declaration rest ih =>
    obtain ⟨problems, stays⟩ := clean
    rw [declarationsVisited] at problems stays ⊢
    obtain ⟨problems, others⟩ := List.append_eq_nil_iff.mp problems
    obtain ⟨head, tail⟩ := List.cons.inj stays
    refine List.forall_mem_cons.mpr ⟨?_, ?_⟩
    · exact (blank declaration List.mem_cons_self).visited_wellTyped sound ⟨problems, head⟩
    · exact ih (sound.after _) (fun other mem => blank other (List.mem_cons_of_mem _ mem)) ⟨others, tail⟩

/-- The type that a function is recorded to return is the one that is expected inside. -/
lemma returnType_visited (definition : FunctionDef)
    (stays : (definition.returns.map (TypeRef.bound setting.code setting.around)).map
      (TypeRef.rename typing.registry.clip) = definition.returns.map (TypeRef.bound setting.code setting.around)) :
    setting.Recorded typing.registry (definition.returned setting.around) ∧
      (definition.returns.map (TypeRef.bound setting.code setting.around)).elim (some .nothing) TypeRef.binding =
        (definition.returned setting.around).map setting.code := by
  unfold FunctionDef.returned
  cases e : definition.returns with
  | none =>
    refine ⟨sound.recorded_nothing, ?_⟩
    show _ = some (setting.code (.builtin .nothing))
    rw [sound.code_nothing]
    rfl
  | some written =>
    rw [e] at stays
    have binding := congrArg TypeRef.binding (Option.some.inj stays)
    rw [TypeRef.binding_rename, TypeRef.binding_bound] at binding
    exact ⟨binding, TypeRef.binding_bound _ _ written⟩

end

/-! ## Statements -/

mutual

/-- A clean block is well typed. -/
lemma Block.Blank.visited_wellTyped : ∀ {x : Block} {setting : Setting}, x.Blank → setting.Sound origins typing →
    (∀ region ∈ x.regions setting.nested setting.around, region.Fine typing setting.facts setting.code) →
    (x.visited setting).Clean (Block.rename typing.registry.clip) →
      (x.visited setting).node.WellTyped typing setting.expected
  | ⟨id, kind, statements, span⟩, setting, blank, sound, fine, ⟨problems, stays⟩ => by
    rw [Block.Blank] at blank
    rw [Block.regions] at fine
    obtain ⟨own, fine⟩ := List.forall_mem_cons.mp fine
    rw [Block.visited] at problems stays
    rw [Block.rename] at stays
    rw [Block.visited, Block.WellTyped]
    have allowed := List.flatMap_eq_nil_iff.mp own.allowed
    exact statementsBlank_visited_wellTyped blank (sound.inside own.documented) allowed fine
      ⟨problems, (Block.mk.inj stays).2.2.1⟩

lemma statementsBlank_visited_wellTyped : ∀ {x : List Statement} {setting : Setting}, statementsBlank x →
    setting.Sound origins typing → (∀ statement ∈ x, statement.forbidden setting.nested = []) →
    (∀ region ∈ statementRegions setting.nested setting.around x,
      region.Fine typing setting.facts setting.code) →
    (statementsVisited setting x).Clean (statementsRename typing.registry.clip) →
      statementsWellTyped typing setting.expected (statementsVisited setting x).node
  | [], setting, _, _, _, _, _ => by
    rw [statementsVisited, statementsWellTyped]
    trivial
  | statement :: rest, setting, blank, sound, allowed, fine, ⟨problems, stays⟩ => by
    rw [statementsBlank] at blank
    rw [statementRegions] at fine
    obtain ⟨first, fine⟩ := List.forall_mem_append.mp fine
    obtain ⟨own, allowed⟩ := List.forall_mem_cons.mp allowed
    rw [statementsVisited] at problems stays
    rw [statementsRename] at stays
    obtain ⟨problems, others⟩ := List.append_eq_nil_iff.mp problems
    obtain ⟨head, tail⟩ := List.cons.inj stays
    rw [statementsVisited, statementsWellTyped]
    refine ⟨blank.1.visited_wellTyped sound own first ⟨problems, head⟩, ?_⟩
    exact statementsBlank_visited_wellTyped blank.2 (sound.after (statement.visited setting).inferred) allowed fine
      ⟨others, tail⟩

lemma Statement.Blank.visited_wellTyped : ∀ {x : Statement} {setting : Setting}, x.Blank →
    setting.Sound origins typing → x.forbidden setting.nested = [] →
    (∀ region ∈ x.regions setting.nested setting.around, region.Fine typing setting.facts setting.code) →
    (x.visited setting).Clean (Statement.rename typing.registry.clip) →
      (x.visited setting).node.WellTyped typing setting.expected
  | .type definition, setting, blank, sound, allowed, fine, ⟨problems, stays⟩ => by
    rw [Statement.Blank] at blank
    cases outside : setting.nested with
    | true =>
      -- A definition inside a function is forbidden.
      rw [outside] at allowed
      cases allowed
    | false =>
      rw [outside, Statement.regions] at fine
      rw [Statement.visited, outside] at problems stays ⊢
      rw [if_neg Bool.false_ne_true] at problems stays ⊢
      rw [Statement.rename] at stays
      rw [Statement.WellTyped, Setting.expected, outside]
      exact ⟨rfl, blank.visited_wellTyped sound fine ⟨problems, Statement.type.inj stays⟩⟩
  | .function definition, setting, blank, sound, allowed, fine, ⟨problems, stays⟩ => by
    rw [Statement.Blank] at blank
    cases outside : setting.nested with
    | true =>
      rw [outside] at allowed
      cases allowed
    | false =>
      rw [outside, Statement.regions] at fine
      rw [Statement.visited, outside] at problems stays ⊢
      rw [if_neg Bool.false_ne_true] at problems stays ⊢
      rw [Statement.rename] at stays
      rw [Statement.WellTyped, Setting.expected, outside]
      exact ⟨rfl, blank.visited_wellTyped sound fine ⟨problems, Statement.function.inj stays⟩⟩
  | .variable declaration, setting, blank, sound, _, _, ⟨problems, stays⟩ => by
    rw [Statement.Blank] at blank
    rw [Statement.visited] at problems stays
    rw [Statement.rename] at stays
    rw [Statement.visited, Statement.WellTyped]
    exact blank.visited_wellTyped sound ⟨problems, Statement.variable.inj stays⟩
  | .returning keyword value, setting, blank, sound, _, _, ⟨problems, stays⟩ => by
    rw [Statement.Blank] at blank
    rw [Statement.visited] at problems stays
    rw [Statement.rename] at stays
    rw [Statement.visited, Statement.WellTyped]
    exact returnVisited_wellTyped sound blank ⟨problems, (Statement.returning.inj stays).2⟩
  | .whileLoop keyword condition body, setting, blank, sound, _, fine, ⟨problems, stays⟩ => by
    rw [Statement.Blank] at blank
    rw [Statement.regions] at fine
    rw [Statement.visited] at problems stays
    rw [Statement.rename] at stays
    obtain ⟨problems, inner⟩ := List.append_eq_nil_iff.mp problems
    obtain ⟨-, first, second⟩ := Statement.whileLoop.inj stays
    rw [Statement.visited, Statement.WellTyped]
    exact ⟨blank.1.judged_wellTyped sound ⟨problems, first⟩,
      blank.2.visited_wellTyped sound fine ⟨inner, second⟩⟩
  | .conditional conditional, setting, blank, sound, _, fine, ⟨problems, stays⟩ => by
    rw [Statement.Blank] at blank
    rw [Statement.regions] at fine
    rw [Statement.visited] at problems stays
    rw [Statement.rename] at stays
    rw [Statement.visited, Statement.WellTyped]
    exact blank.visited_wellTyped sound fine ⟨problems, Statement.conditional.inj stays⟩
  | .expression expression, setting, blank, sound, _, _, ⟨problems, stays⟩ => by
    rw [Statement.Blank] at blank
    rw [Statement.visited] at problems stays
    rw [Statement.rename] at stays
    rw [Statement.visited, Statement.WellTyped]
    exact blank.judged_wellTyped sound ⟨problems, Statement.expression.inj stays⟩
  | .importing keyword target, setting, blank, _, _, _, _ | .path keyword target, setting, blank, _, _, _, _ => by
    rw [Statement.Blank] at blank
    rw [Statement.visited, Statement.WellTyped]
    exact blank.wellTyped typing
  | .breaking _, setting, _, _, _, _, _ | .continuing _, setting, _, _, _, _, _ => by
    rw [Statement.visited, Statement.WellTyped]
    trivial

lemma Conditional.Blank.visited_wellTyped : ∀ {x : Conditional} {setting : Setting}, x.Blank →
    setting.Sound origins typing →
    (∀ region ∈ x.regions setting.nested setting.around, region.Fine typing setting.facts setting.code) →
    (x.visited setting).Clean (Conditional.rename typing.registry.clip) →
      (x.visited setting).node.WellTyped typing setting.expected
  | ⟨condition, body, otherwise, keyword⟩, setting, blank, sound, fine, ⟨problems, stays⟩ => by
    rw [Conditional.Blank] at blank
    rw [Conditional.regions] at fine
    obtain ⟨first, second⟩ := List.forall_mem_append.mp fine
    rw [Conditional.visited] at problems stays
    rw [Conditional.rename] at stays
    simp only [List.append_eq_nil_iff] at problems
    obtain ⟨head, inner, last, -⟩ := Conditional.mk.inj stays
    rw [Conditional.visited, Conditional.WellTyped]
    refine ⟨blank.1.judged_wellTyped sound ⟨problems.1.1, head⟩,
      blank.2.1.visited_wellTyped sound first ⟨problems.1.2, inner⟩, ?_⟩
    exact blank.2.2.visited_wellTyped (sound.after (body.visited setting).inferred) second ⟨problems.2, last⟩

lemma Otherwise.Blank.visited_wellTyped : ∀ {x : Otherwise} {setting : Setting}, x.Blank →
    setting.Sound origins typing →
    (∀ region ∈ x.regions setting.nested setting.around, region.Fine typing setting.facts setting.code) →
    (x.visited setting).Clean (Otherwise.rename typing.registry.clip) →
      (x.visited setting).node.WellTyped typing setting.expected
  | .nothing, setting, _, _, _, _ => by
    rw [Otherwise.visited, Otherwise.WellTyped]
    trivial
  | .conditional conditional, setting, blank, sound, fine, ⟨problems, stays⟩ => by
    rw [Otherwise.Blank] at blank
    rw [Otherwise.regions] at fine
    rw [Otherwise.visited] at problems stays
    rw [Otherwise.rename] at stays
    rw [Otherwise.visited, Otherwise.WellTyped]
    exact blank.visited_wellTyped sound fine ⟨problems, Otherwise.conditional.inj stays⟩
  | .block block, setting, blank, sound, fine, ⟨problems, stays⟩ => by
    rw [Otherwise.Blank] at blank
    rw [Otherwise.regions] at fine
    rw [Otherwise.visited] at problems stays
    rw [Otherwise.rename] at stays
    rw [Otherwise.visited, Otherwise.WellTyped]
    exact blank.visited_wellTyped sound fine ⟨problems, Otherwise.block.inj stays⟩

lemma FunctionDef.Blank.visited_wellTyped : ∀ {x : FunctionDef} {setting : Setting}, x.Blank →
    setting.Sound origins typing →
    (∀ region ∈ x.regions setting.around, region.Fine typing setting.facts setting.code) →
    (x.visited setting).Clean (FunctionDef.rename typing.registry.clip) →
      (x.visited setting).node.WellTyped typing
  | ⟨id, name, typeParameters, parameters, returns, body, keyword⟩, setting, blank, sound, fine,
      ⟨problems, stays⟩ => by
    let definition : FunctionDef := ⟨id, name, typeParameters, parameters, returns, body, keyword⟩
    rw [FunctionDef.Blank] at blank
    rw [FunctionDef.regions] at fine
    obtain ⟨own, fine⟩ := List.forall_mem_cons.mp fine
    rw [FunctionDef.visited] at problems stays
    rw [FunctionDef.rename] at stays
    obtain ⟨-, -, -, -, types, inner, -⟩ := FunctionDef.mk.inj stays
    have inside : (setting.inside definition.layer).Sound origins typing := sound.inside own.documented
    obtain ⟨recorded, returned⟩ := returnType_visited inside definition types
    rw [FunctionDef.visited, FunctionDef.WellTyped, FunctionDef.returnType, returned]
    exact blank.2.2.visited_wellTyped (inside.body recorded) fine ⟨problems, inner⟩

lemma functionsBlank_visited_wellTyped : ∀ {x : List FunctionDef} {setting : Setting}, functionsBlank x →
    setting.Sound origins typing →
    (∀ region ∈ functionRegions setting.around x, region.Fine typing setting.facts setting.code) →
    (functionsVisited setting x).Clean (functionsRename typing.registry.clip) →
      functionsWellTyped typing (functionsVisited setting x).node
  | [], setting, _, _, _, _ => by
    rw [functionsVisited, functionsWellTyped]
    trivial
  | definition :: rest, setting, blank, sound, fine, ⟨problems, stays⟩ => by
    rw [functionsBlank] at blank
    rw [functionRegions] at fine
    obtain ⟨first, fine⟩ := List.forall_mem_append.mp fine
    rw [functionsVisited] at problems stays
    rw [functionsRename] at stays
    obtain ⟨problems, others⟩ := List.append_eq_nil_iff.mp problems
    obtain ⟨head, tail⟩ := List.cons.inj stays
    rw [functionsVisited, functionsWellTyped]
    refine ⟨blank.1.visited_wellTyped sound first ⟨problems, head⟩, ?_⟩
    exact functionsBlank_visited_wellTyped blank.2 (sound.after (definition.visited setting).inferred) fine
      ⟨others, tail⟩

lemma TypeDef.Blank.visited_wellTyped : ∀ {x : TypeDef} {setting : Setting}, x.Blank →
    setting.Sound origins typing →
    (∀ region ∈ x.regions setting.around, region.Fine typing setting.facts setting.code) →
    (x.visited setting).Clean (TypeDef.rename typing.registry.clip) → (x.visited setting).node.WellTyped typing
  | ⟨id, name, typeParameters, fields, methods, keyword, binding⟩, setting, blank, sound, fine,
      ⟨problems, stays⟩ => by
    let definition : TypeDef := ⟨id, name, typeParameters, fields, methods, keyword, binding⟩
    rw [TypeDef.Blank] at blank
    rw [TypeDef.regions] at fine
    obtain ⟨own, fine⟩ := List.forall_mem_cons.mp fine
    rw [TypeDef.visited] at problems stays
    rw [TypeDef.rename] at stays
    obtain ⟨problems, others⟩ := List.append_eq_nil_iff.mp problems
    obtain ⟨-, -, -, first, second, -⟩ := TypeDef.mk.inj stays
    have inside : (setting.inside definition.layer).Sound origins typing := sound.inside own.documented
    rw [TypeDef.visited, TypeDef.WellTyped]
    refine ⟨declarationsVisited_wellTyped inside blank.1 ⟨problems, first⟩, ?_⟩
    exact functionsBlank_visited_wellTyped blank.2.1
      (inside.after (declarationsVisited (setting.inside definition.layer) fields).inferred) fine ⟨others, second⟩

end

end ArrowScript
