import ArrowScript.Analysis.Statement
import ArrowScript.Proofs.Analysis.ChangesExpressions

/-!
# Changes made by visiting statements

Statements are visited in scopes that declaring has made, and definitions with a type that is to be returned. Whatever
is entered is left again behind the last part of a node, so that every routine that visits statements follows a path of
changes and ends in the frame that it began in.
-/

namespace ArrowScript.Analysis
open TypeRegistry

variable {s t u : State} {ν β : Type} {types : List TypeId}

/-! ## Scopes -/

namespace VisitMakes

variable {ends : State → Prop} {inside : ν → List TypeId} {others : β → List TypeId} {next : Unit → Visit ν β}

/-- A visit that begins by entering a scope. -/
lemma enter {scope : ScopeId} (rest : VisitMakes ends inside others (next ()) { s with active := scope :: s.active }) :
    VisitMakes ends inside others (liftM (Analysis.enter scope) >>= next) s :=
  changed (.enter scope) rest

/-- A visit that begins by leaving a scope. -/
lemma leave (rest : VisitMakes ends inside others (next ()) { s with active := s.active.tail }) :
    VisitMakes ends inside others (liftM Analysis.leave >>= next) s :=
  changed .leave rest

end VisitMakes

/-- Leaving a scope in the frame in which it was entered. -/
lemma sameFrame_left {scope : ScopeId} (frame : SameFrame { s with active := scope :: s.active } t) :
    SameFrame s { t with active := t.active.tail } :=
  ⟨congrArg List.tail frame.active, frame.functionDepth, frame.returnTypes⟩

/-! ## Declarations -/

lemma checkExpected_reads (problem : TypeId → TypeId → SemanticProblem)
    (mentions : ∀ expected found, (problem expected found).types = [expected, found]) {expected found : Option TypeId}
    (expected_known : s.types.KnowsAll expected.toList) (found_known : s.types.KnowsAll found.toList) (span : Span) :
    StepReads (fun _ => []) (checkExpected problem expected found span) s := by
  rcases expected with - | expected
  · exact .pure knowsAll_nil
  rcases found with - | found
  · exact .pure knowsAll_nil
  refine .get ?_
  split
  · exact .pure knowsAll_nil
  · refine report_reads _ ?_ _
    rw [mentions]
    exact knowsAll_cons.mpr ⟨expected_known expected (by simp), found_known⟩

/-- The handles in an expression that may be absent. -/
abbrev valueHandles (value : Option Expression) : List TypeId :=
  value.elim [] Expression.handles

/-- A value that may be absent is filled in. -/
lemma visitOptional_reads (known : AllKnown s) {value : Option Expression}
    (there : s.types.KnowsAll (valueHandles value)) :
    TypedReads valueHandles (visitOptional visitExpression value) s := by
  cases value with
  | none => exact .pure knowsAll_nil
  | some value =>
    exact VisitReads.bind ((visitExpression_reads value known there).within fun node t _ given => given)
      fun visited t _ given => .pure given

/-- A declaration is filled in. -/
lemma visitDeclaration_reads (known : AllKnown s) {declaration : Declaration}
    (there : s.types.KnowsAll declaration.handles) :
    VisitReads Declaration.handles Declaration.handles (visitDeclaration declaration) s := by
  obtain ⟨node, name, written, initial, type⟩ := declaration
  have fills : ∀ {t : State} {written : Option TypeRef} {initial : Option Expression} {type : Option TypeId},
      t.types.KnowsAll (written.elim [] TypeRef.handles) → t.types.KnowsAll (valueHandles initial) →
      t.types.KnowsAll type.toList → t.types.KnowsAll (Declaration.handles ⟨node, name, written, initial, type⟩) :=
    fun h g k => knowsAll_append.mpr ⟨knowsAll_append.mpr ⟨h, g⟩, k⟩
  obtain ⟨⟨written_there, initial_there⟩, type_there⟩ :
      (_ ∧ s.types.KnowsAll (valueHandles initial)) ∧ _ := (knowsAll_append.mp there).imp_left knowsAll_append.mp
  refine VisitReads.bind (.askFor there) fun scope t asked _ => ?_
  have known := asked.allKnown known
  have initial_there := asked.knowsAll initial_there
  have type_there := asked.knowsAll type_there
  cases written with
  | some written =>
    refine (VisitReads.lift (bindDeclared_reads known node scope (asked.knowsAll written_there))).bind
      fun bound u first bound_known => ?_
    obtain ⟨written', expected⟩ := bound
    rw [knowsAll_append] at bound_known
    refine VisitReads.bind ((visitOptional_reads (first.allKnown known) (first.knowsAll initial_there)).within
      fun node v path given => ?_) fun visited v second given => ?_
    · exact fills (path.knowsAll bound_known.1) given (path.knowsAll (first.knowsAll type_there))
    obtain ⟨initial', found⟩ := visited
    rw [knowsAll_append] at given
    have filled : ∀ {w : State}, Reads v w →
        w.types.KnowsAll (Declaration.handles ⟨node, name, some written', initial', expected⟩) := fun reads =>
      fills ((second.trans reads).knowsAll bound_known.1) (reads.knowsAll given.1)
        ((second.trans reads).knowsAll bound_known.2)
    cases initial' with
    | none => exact .pure (filled (.refl v))
    | some value =>
      exact (VisitReads.lift (checkExpected_reads .initialDiffers (fun _ _ => rfl) (second.knowsAll bound_known.2)
        given.2 value.root.span)).bind fun _ w reads _ => .pure (filled reads)
  | none =>
    refine VisitReads.bind ((visitOptional_reads known initial_there).within fun node v path given => ?_)
      fun visited v second given => ?_
    · exact fills knowsAll_nil given (path.knowsAll type_there)
    obtain ⟨initial', found⟩ := visited
    rw [knowsAll_append] at given
    have filled : ∀ {w : State}, Reads v w →
        w.types.KnowsAll (Declaration.handles ⟨node, name, none, initial', found⟩) := fun reads =>
      fills knowsAll_nil (reads.knowsAll given.1) (reads.knowsAll given.2)
    cases found with
    | none => exact .pure (filled (.refl v))
    | some found =>
      have kept : StepReads (fun _ => []) (modify fun state : State =>
          { state with inferredTypes := (node, found) :: state.inferredTypes } : Step PUnit) v :=
        .changed (.inferred node found (given.2 found (by simp))) ⟨rfl, rfl, rfl⟩
      exact (VisitReads.lift kept).bind fun _ w reads _ => .pure (filled reads)

/-- Declarations are filled in. -/
lemma visitDeclarations_reads (list : List Declaration) {s : State} (known : AllKnown s)
    (there : s.types.KnowsAll (list.flatMap Declaration.handles)) :
    VisitReads (List.flatMap Declaration.handles) (List.flatMap Declaration.handles) (visitDeclarations list) s := by
  induction list generalizing s with
  | nil => exact .pure knowsAll_nil
  | cons declaration rest ih =>
    rw [List.flatMap_cons, knowsAll_append] at there
    rw [visitDeclarations]
    refine VisitReads.bind ((visitDeclaration_reads known there.1).within fun node t path given => ?_)
      fun visited t first given => ?_
    · rw [List.flatMap_cons, knowsAll_append]
      exact ⟨given, path.knowsAll there.2⟩
    refine VisitReads.bind ((ih (first.allKnown known) (first.knowsAll there.2)).within fun node u path others => ?_)
      fun others u second all => .pure ?_
    · rw [List.flatMap_cons, knowsAll_append]
      exact ⟨path.knowsAll given, others⟩
    · rw [List.flatMap_cons, knowsAll_append]
      exact ⟨second.knowsAll given, all⟩

/-- Parameters are filled in. -/
lemma visitParameters_reads (scope : ScopeId) (parameters : List Parameter) {s : State} (known : AllKnown s)
    (there : s.types.KnowsAll (parameters.flatMap Parameter.handles)) :
    StepReads (List.flatMap Parameter.handles) (visitParameters scope parameters) s := by
  unfold visitParameters
  induction parameters generalizing s with
  | nil => exact .pure knowsAll_nil
  | cons parameter rest ih =>
    rw [List.flatMap_cons, knowsAll_append] at there
    rw [List.mapM_cons]
    have filled : StepReads Parameter.handles (visitParameter scope parameter) s :=
      (bindDeclared_reads known parameter.id scope there.1).bind fun bound t _ given =>
        .pure (knowsAll_append.mp given).1
    refine filled.bind fun first t reads given => ?_
    refine (ih (reads.allKnown known) (reads.knowsAll there.2)).bind fun others u reads' all => .pure ?_
    rw [List.flatMap_cons, knowsAll_append]
    exact ⟨reads'.knowsAll given, all⟩

/-- The type that a function returns is filled in. -/
lemma visitReturns_reads (known : AllKnown s) (node : NodeId) (scope : ScopeId) {returns : Option TypeRef}
    (there : s.types.KnowsAll (returns.elim [] TypeRef.handles)) :
    StepReads (fun returned => returned.1.elim [] TypeRef.handles ++ returned.2.toList)
      (visitReturns node scope returns) s := by
  cases returns with
  | none => exact .pure (knowsAll_cons.mpr ⟨known.knows_builtin (by decide), knowsAll_nil⟩)
  | some written => exact (bindDeclared_reads known node scope there).bind fun bound t _ given => .pure given

/-- A returned value is filled in. -/
lemma visitReturning_reads (known : AllKnown s) (keyword : Span) {value : Option Expression}
    (there : s.types.KnowsAll (valueHandles value)) :
    VisitReads valueHandles valueHandles (visitReturning keyword value) s := by
  refine VisitReads.bind (visitOptional_reads known there) fun visited t reads given => .get ?_
  rw [knowsAll_append] at given
  have known := reads.allKnown known
  have expected : t.types.KnowsAll (Option.toList t.returnTypes.head?.join) := by
    cases e : t.returnTypes with
    | nil => exact knowsAll_nil
    | cons type rest => exact known.returned type (by simp [e])
  have found : t.types.KnowsAll (if visited.1.isSome then visited.2 else some .nothing).toList := by
    split
    · exact given.2
    · exact knowsAll_cons.mpr ⟨known.knows_builtin (by decide), knowsAll_nil⟩
  exact (VisitReads.lift (checkExpected_reads .returnDiffers (fun _ _ => rfl) expected found keyword)).bind
    fun _ u reads _ => .pure (reads.knowsAll given.1)

/-! ## Statements -/

mutual

/-- A block is filled in with known types. -/
lemma visitBlock_reads : ∀ (x : Block) {s : State}, AllKnown s → s.types.KnowsAll x.handles →
    VisitReads Block.handles Block.handles (visitBlock x) s
  | ⟨id, kind, statements, span⟩, s, known, there => by
    rw [visitBlock]
    refine VisitReads.bind (.askFor there) fun scope t asked _ => .enter ?_
    have entered : Path s { t with active := scope :: t.active } := asked.path.tail (.enter scope)
    refine VisitMakes.bind ((visitStatements_reads statements (entered.allKnown known)
      (entered.knowsAll there)).within fun node u _ given => given) fun filled u frame _ given => .leave ?_
    exact .pure (sameFrame_left frame) given

lemma visitStatements_reads : ∀ (x : List Statement) {s : State}, AllKnown s →
    s.types.KnowsAll (statementsHandles x) → VisitReads statementsHandles statementsHandles (visitStatements x) s
  | [], s, known, there => by
    rw [visitStatements]
    exact .pure knowsAll_nil
  | statement :: rest, s, known, there => by
    rw [statementsHandles, knowsAll_append] at there
    rw [visitStatements]
    refine VisitReads.bind ((visitStatement_reads statement known there.1).within fun node t path given => ?_)
      fun visited t first given => ?_
    · rw [statementsHandles, knowsAll_append]
      exact ⟨given, path.knowsAll there.2⟩
    refine VisitReads.bind ((visitStatements_reads rest (first.allKnown known) (first.knowsAll there.2)).within
      fun node u path others => ?_) fun others u second all => .pure ?_
    · rw [statementsHandles, knowsAll_append]
      exact ⟨path.knowsAll given, others⟩
    · rw [statementsHandles, knowsAll_append]
      exact ⟨second.knowsAll given, all⟩

lemma visitStatement_reads : ∀ (x : Statement) {s : State}, AllKnown s → s.types.KnowsAll x.handles →
    VisitReads Statement.handles Statement.handles (visitStatement x) s
  | .type definition, s, known, there => by
    rw [visitStatement]
    refine .get ?_
    split
    · exact .pure there
    · rw [Statement.handles] at there
      exact VisitReads.bind ((visitTypeDef_reads definition known there).within fun node t _ given => given)
        fun visited t _ given => .pure given
  | .function definition, s, known, there => by
    rw [visitStatement]
    refine .get ?_
    split
    · exact .pure there
    · rw [Statement.handles] at there
      exact VisitReads.bind ((visitFunctionDef_reads definition known there).within fun node t _ given => given)
        fun visited t _ given => .pure given
  | .variable declaration, s, known, there => by
    rw [Statement.handles] at there
    rw [visitStatement]
    exact VisitReads.bind ((visitDeclaration_reads known there).within fun node t _ given => given)
      fun visited t _ given => .pure given
  | .returning keyword value, s, known, there => by
    rw [Statement.handles] at there
    rw [visitStatement]
    exact VisitReads.bind ((visitReturning_reads known keyword there).within fun node t _ given => given)
      fun visited t _ given => .pure given
  | .whileLoop keyword condition body, s, known, there => by
    rw [Statement.handles, knowsAll_append] at there
    rw [visitStatement]
    refine VisitReads.bind ((visitExpression_reads condition known there.1).within fun node t path given => ?_)
      fun visited t first given => ?_
    · rw [Statement.handles, knowsAll_append]
      exact ⟨given, path.knowsAll there.2⟩
    rw [knowsAll_append] at given
    refine VisitReads.bind ((visitBlock_reads body (first.allKnown known) (first.knowsAll there.2)).within
      fun node u path inner => ?_) fun filled u second inner => .pure ?_
    · rw [Statement.handles, knowsAll_append]
      exact ⟨path.knowsAll given.1, inner⟩
    · rw [Statement.handles, knowsAll_append]
      exact ⟨second.knowsAll given.1, inner⟩
  | .conditional conditional, s, known, there => by
    rw [Statement.handles] at there
    rw [visitStatement]
    exact VisitReads.bind ((visitConditional_reads conditional known there).within fun node t _ given => given)
      fun visited t _ given => .pure given
  | .expression expression, s, known, there => by
    rw [Statement.handles] at there
    rw [visitStatement]
    exact VisitReads.bind ((visitExpression_reads expression known there).within fun node t _ given => given)
      fun visited t _ given => .pure (knowsAll_append.mp given).1
  | .breaking _, s, known, there | .continuing _, s, known, there | .importing .., s, known, there
  | .path .., s, known, there => by
    rw [visitStatement]
    exact .pure there

lemma visitConditional_reads : ∀ (x : Conditional) {s : State}, AllKnown s → s.types.KnowsAll x.handles →
    VisitReads Conditional.handles Conditional.handles (visitConditional x) s
  | ⟨condition, body, otherwise, keyword⟩, s, known, there => by
    simp only [Conditional.handles, knowsAll_append] at there
    obtain ⟨⟨condition_there, body_there⟩, otherwise_there⟩ := there
    rw [visitConditional]
    refine VisitReads.bind ((visitExpression_reads condition known condition_there).within fun node t path given => ?_)
      fun visited t first given => ?_
    · simp only [Conditional.handles, knowsAll_append]
      exact ⟨⟨given, path.knowsAll body_there⟩, path.knowsAll otherwise_there⟩
    obtain ⟨condition', type⟩ := visited
    rw [knowsAll_append] at given
    refine VisitReads.bind ((visitBlock_reads body (first.allKnown known) (first.knowsAll body_there)).within
      fun node u path inner => ?_) fun body' u second inner => ?_
    · simp only [Conditional.handles, knowsAll_append]
      exact ⟨⟨path.knowsAll given.1, inner⟩, path.knowsAll (first.knowsAll otherwise_there)⟩
    have reads := first.trans second
    refine VisitReads.bind ((visitOtherwise_reads otherwise (reads.allKnown known)
      (reads.knowsAll otherwise_there)).within fun node v path other => ?_) fun otherwise' v third other => .pure ?_
    · simp only [Conditional.handles, knowsAll_append]
      exact ⟨⟨path.knowsAll (second.knowsAll given.1), path.knowsAll inner⟩, other⟩
    · simp only [Conditional.handles, knowsAll_append]
      exact ⟨⟨(second.trans third).knowsAll given.1, third.knowsAll inner⟩, other⟩

lemma visitOtherwise_reads : ∀ (x : Otherwise) {s : State}, AllKnown s → s.types.KnowsAll x.handles →
    VisitReads Otherwise.handles Otherwise.handles (visitOtherwise x) s
  | .nothing, s, known, there => by
    rw [visitOtherwise]
    exact .pure there
  | .conditional conditional, s, known, there => by
    rw [Otherwise.handles] at there
    rw [visitOtherwise]
    exact VisitReads.bind ((visitConditional_reads conditional known there).within fun node t _ given => given)
      fun visited t _ given => .pure given
  | .block block, s, known, there => by
    rw [Otherwise.handles] at there
    rw [visitOtherwise]
    exact VisitReads.bind ((visitBlock_reads block known there).within fun node t _ given => given)
      fun visited t _ given => .pure given

lemma visitFunctionDef_reads : ∀ (x : FunctionDef) {s : State}, AllKnown s → s.types.KnowsAll x.handles →
    VisitReads FunctionDef.handles FunctionDef.handles (visitFunctionDef x) s
  | ⟨id, name, typeParameters, parameters, returns, body, keyword⟩, s, known, there => by
    have parts := there
    simp only [FunctionDef.handles, knowsAll_append] at parts
    obtain ⟨⟨parameters_there, returns_there⟩, body_there⟩ := parts
    rw [visitFunctionDef]
    refine VisitReads.bind (.askFor there) fun scope t asked _ => .enter ?_
    have entered : Path s { t with active := scope :: t.active } := asked.path.tail (.enter scope)
    have known := entered.allKnown known
    refine VisitMakes.bind (VisitReads.lift (visitParameters_reads scope parameters known
      (entered.knowsAll parameters_there))) fun parameters' u frame path parameters_known => ?_
    have first : Reads _ u := ⟨path, frame⟩
    refine VisitMakes.bind (VisitReads.lift (visitReturns_reads (first.allKnown known) id scope
      (first.knowsAll (entered.knowsAll returns_there)))) fun returned v frame path returned_known => ?_
    have second : Reads u v := ⟨path, frame⟩
    have reads := first.trans second
    obtain ⟨returns', type⟩ := returned
    rw [knowsAll_append] at returned_known
    -- The body is visited one function deeper, with the type that is to be returned.
    let inner : State := { v with returnTypes := type :: v.returnTypes, functionDepth := v.functionDepth + 1 }
    have inner_path : Path v inner := .tail (.single (.expect type returned_known.2)) .deeper
    have visited : VisitReads Block.handles Block.handles (visitBlock body) inner :=
      visitBlock_reads body (inner_path.allKnown (reads.allKnown known))
        (inner_path.knowsAll (reads.knowsAll (entered.knowsAll body_there)))
    have fills : ∀ {w : State} {body : Block}, Path v w → w.types.KnowsAll body.handles →
        w.types.KnowsAll (FunctionDef.handles ⟨id, name, typeParameters, parameters', returns', body, keyword⟩) := by
      intro w body path given
      simp only [FunctionDef.handles, knowsAll_append]
      exact ⟨⟨path.knowsAll (second.knowsAll parameters_known), path.knowsAll returned_known.1⟩, given⟩
    refine VisitMakes.bind ((visited.insideFunction.returningType returned_known.2).within
      fun node w path given => fills path given) fun body' w frame path given => .leave ?_
    exact .pure (sameFrame_left (reads.frame.trans frame)) (fills (path.tail .leave) given)

lemma visitFunctionDefs_reads : ∀ (x : List FunctionDef) {s : State}, AllKnown s →
    s.types.KnowsAll (functionsHandles x) → VisitReads functionsHandles functionsHandles (visitFunctionDefs x) s
  | [], s, known, there => by
    rw [visitFunctionDefs]
    exact .pure knowsAll_nil
  | definition :: rest, s, known, there => by
    rw [functionsHandles, knowsAll_append] at there
    rw [visitFunctionDefs]
    refine VisitReads.bind ((visitFunctionDef_reads definition known there.1).within fun node t path given => ?_)
      fun visited t first given => ?_
    · rw [functionsHandles, knowsAll_append]
      exact ⟨given, path.knowsAll there.2⟩
    refine VisitReads.bind ((visitFunctionDefs_reads rest (first.allKnown known) (first.knowsAll there.2)).within
      fun node u path others => ?_) fun others u second all => .pure ?_
    · rw [functionsHandles, knowsAll_append]
      exact ⟨path.knowsAll given, others⟩
    · rw [functionsHandles, knowsAll_append]
      exact ⟨second.knowsAll given, all⟩

lemma visitTypeDef_reads : ∀ (x : TypeDef) {s : State}, AllKnown s → s.types.KnowsAll x.handles →
    VisitReads TypeDef.handles TypeDef.handles (visitTypeDef x) s
  | ⟨id, name, typeParameters, fields, methods, keyword, before⟩, s, known, there => by
    simp only [TypeDef.handles, knowsAll_append] at there
    obtain ⟨⟨fields_there, methods_there⟩, -⟩ := there
    rw [visitTypeDef]
    refine .get ?_
    have bound : s.types.KnowsAll (s.definedTypes.lookup id).toList := by
      intro type mem
      obtain ⟨first, rest, e, -⟩ := List.lookup_eq_some_iff.mp (Option.mem_toList.mp mem)
      exact known.defined (id, type) (by simp [e])
    generalize s.definedTypes.lookup id = binding at bound
    have fills : ∀ {t : State} {fields : List Declaration} {methods : List FunctionDef}, Path s t →
        t.types.KnowsAll (fields.flatMap Declaration.handles) → t.types.KnowsAll (functionsHandles methods) →
        t.types.KnowsAll (TypeDef.handles ⟨id, name, typeParameters, fields, methods, keyword, binding⟩) := by
      intro t fields methods path fields_known methods_known
      simp only [TypeDef.handles, knowsAll_append]
      exact ⟨⟨fields_known, methods_known⟩, path.knowsAll bound⟩
    refine VisitReads.bind (.askFor (fills .refl fields_there methods_there)) fun scope t asked _ => .enter ?_
    have entered : Path s { t with active := scope :: t.active } := asked.path.tail (.enter scope)
    have known := entered.allKnown known
    refine VisitMakes.bind ((visitDeclarations_reads fields known (entered.knowsAll fields_there)).within
      fun node u path given => fills (entered.trans path) given (path.knowsAll (entered.knowsAll methods_there)))
      fun fields' u frame path fields_known => ?_
    have first : Reads _ u := ⟨path, frame⟩
    refine VisitMakes.bind ((visitFunctionDefs_reads methods (first.allKnown known)
      (first.knowsAll (entered.knowsAll methods_there))).within fun node v path' given =>
        fills (entered.trans (path.trans path')) (path'.knowsAll fields_known) given)
      fun methods' v frame path' methods_known => .leave ?_
    exact .pure (sameFrame_left (first.frame.trans frame))
      (fills ((entered.trans (path.trans path')).tail .leave) (path'.knowsAll fields_known) methods_known)

end

end ArrowScript.Analysis
