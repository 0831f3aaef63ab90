import ArrowScript.Proofs.Analysis.Carrying
import ArrowScript.Proofs.Analysis.Recast

/-!
# Written types and names, recast

What a written type or a name stands for does not change when it is recast.
-/

namespace ArrowScript.Analysis

variable {recast : Recast} {scope : ScopeId}

/-! ## Small steps -/

/-- Problems are reported alike. -/
lemma report_carries {problem problem' : SemanticProblem} {span span' : Span}
    (same : Finding.mk problem' span' = recast.finding ⟨problem, span⟩) :
    StepsCarry recast.state id (report problem span) (report problem' span') := by
  refine .changed fun s => ?_
  simp only [Recast.state, same, Array.map_push]

/-- Scopes are entered alike. -/
lemma enter_carries (scope : ScopeId) : StepsCarry recast.state id (enter scope) (enter scope) :=
  .changed fun _ => rfl

/-- Scopes are left alike. -/
lemma leave_carries : StepsCarry recast.state id leave leave :=
  .changed fun _ => rfl

/-- Array types are made alike. -/
lemma arrayOf_carries (unnoticed : recast.Unnoticed) (element : TypeId) :
    StepsCarry recast.state id (arrayOf element) (arrayOf element) := by
  refine .modifyGet fun s => ?_
  have same : (recast.state s).types.arrayOf element = _ := unnoticed.arrayOf s.types element
  simp only [same]
  rfl

/-- The innermost scope is the same. -/
lemma scope_recast (s : State) : (recast.state s).scope = s.scope.map id := by
  show s.scope = _
  cases s.scope <;> rfl

/-! ## Written types -/

/-- A written type stands for what it stood for. -/
lemma namedType?_recast (unnoticed : recast.Unnoticed) (s : State) (scope : ScopeId) (written : TypeRef) :
    namedType? (recast.state s) scope (written.respan recast.name) = namedType? s scope written := by
  have found : ((recast.state s).scopes.find? scope _ .outward : Option TypeSymbol) = _ :=
    s.scopes.find?_recast unnoticed.injective scope written.mangledName .outward
  unfold namedType?
  rw [written.builtin_respan, written.name_respan, unnoticed.content, unnoticed.builtin?, unnoticed.mangledName,
    found, Option.map_map]
  rfl

/-- A written type is looked up alike. -/
lemma lookUp_carries (unnoticed : recast.Unnoticed) (written : TypeRef) :
    StepsCarry recast.state id (lookUp scope written) (lookUp scope (written.respan recast.name)) := by
  refine .bind .get fun s => ?_
  rw [namedType?_recast unnoticed, written.array_respan]
  split
  · exact .pure rfl
  · split
    · exact (arrayOf_carries unnoticed _).bind fun type => .pure rfl
    · exact .pure rfl

mutual

/-- A written type is resolved alike. -/
lemma resolve_carries (unnoticed : recast.Unnoticed) : ∀ written : TypeRef,
    StepsCarry recast.state id (resolve scope written) (resolve scope (written.respan recast.name))
  | ⟨name, builtin, arguments, array, binding⟩ => by
    rw [TypeRef.respan, resolve, resolve]
    refine (lookUp_carries unnoticed ⟨name, builtin, arguments, array, binding⟩).bind fun type => ?_
    have others := resolveAll_carries unnoticed arguments
    cases type with
    | none =>
      rw [unnoticed.content]
      exact (report_carries rfl).bind fun _ => others.bind fun _ => .pure rfl
    | some type => exact others.bind fun _ => .pure rfl

lemma resolveAll_carries (unnoticed : recast.Unnoticed) : ∀ list : List TypeRef,
    StepsCarry recast.state id (resolveAll scope list) (resolveAll scope (typesRespan recast.name list))
  | [] => by
    rw [typesRespan, resolveAll]
    exact .pure rfl
  | written :: rest => by
    rw [typesRespan, resolveAll, resolveAll]
    exact (resolve_carries unnoticed written).discard.bind fun _ => resolveAll_carries unnoticed rest

end

mutual

/-- The type arguments of a written type are filled in alike. -/
lemma bindArguments_carries (unnoticed : recast.Unnoticed) : ∀ written : TypeRef,
    StepsCarry recast.state (TypeRef.respan recast.name) (bindArguments scope written)
      (bindArguments scope (written.respan recast.name))
  | ⟨name, builtin, arguments, array, binding⟩ => by
    rw [TypeRef.respan, bindArguments, bindArguments]
    exact (bindAll_carries unnoticed arguments).bind fun filled => .pure rfl

lemma bindAll_carries (unnoticed : recast.Unnoticed) : ∀ list : List TypeRef,
    StepsCarry recast.state (typesRespan recast.name) (bindAll scope list)
      (bindAll scope (typesRespan recast.name list))
  | [] => by
    rw [typesRespan, bindAll]
    exact .pure rfl
  | written :: rest => by
    rw [typesRespan, bindAll, bindAll]
    refine (lookUp_carries unnoticed written).bind fun binding =>
      (bindArguments_carries unnoticed written).bind fun filled => ?_
    refine (bindAll_carries unnoticed rest).bind fun others => .pure ?_
    rw [typesRespan, TypeRef.respan_binding, id]

end

/-- The type that a node is declared with is found alike. -/
lemma declaredType_carries (unnoticed : recast.Unnoticed) (node : NodeId) (written : TypeRef) :
    StepsCarry recast.state id (declaredType node scope written)
      (declaredType node scope (written.respan recast.name)) := by
  refine .bind .get fun s => ?_
  have same : (recast.state s).declaredTypes = s.declaredTypes := rfl
  rw [same]
  cases s.declaredTypes.lookup node with
  | some type => exact .pure rfl
  | none =>
    refine (resolve_carries unnoticed written).bind fun type => ?_
    have kept : StepsCarry recast.state id
        (modify fun s => { s with declaredTypes := (node, type) :: s.declaredTypes })
        (modify fun s => { s with declaredTypes := (node, id type) :: s.declaredTypes }) := .changed fun _ => rfl
    exact kept.bind fun _ => .pure rfl

/-- A written type of a declaration is filled in alike. -/
lemma bindDeclared_carries (unnoticed : recast.Unnoticed) (node : NodeId) (written : TypeRef) :
    StepsCarry recast.state (Prod.map (TypeRef.respan recast.name) id) (bindDeclared node scope written)
      (bindDeclared node scope (written.respan recast.name)) := by
  refine (declaredType_carries unnoticed node written).bind fun type => ?_
  rw [id, ← TypeRef.respan_binding]
  exact (bindArguments_carries unnoticed _).bind fun filled => .pure rfl

/-- A type argument of a call is filled in alike. -/
lemma bindTypeArgument_carries (unnoticed : recast.Unnoticed) (written : TypeRef) :
    StepsCarry recast.state (TypeRef.respan recast.name) (bindTypeArgument scope written)
      (bindTypeArgument scope (written.respan recast.name)) := by
  refine (resolve_carries unnoticed written).bind fun type => ?_
  rw [id, ← TypeRef.respan_binding]
  exact bindArguments_carries unnoticed _

/-- The type arguments of a call are filled in alike. -/
lemma bindTypeArgumentList_carries (unnoticed : recast.Unnoticed) (written : List TypeRef) :
    StepsCarry recast.state (typesRespan recast.name) (bindTypeArgumentList scope written)
      (bindTypeArgumentList scope (typesRespan recast.name written)) := by
  rw [typesRespan_eq_map, funext typesRespan_eq_map]
  exact .mapM (bindTypeArgument_carries unnoticed) written

/-! ## Names -/

/-- Members are looked up in the scopes where they were looked up. -/
lemma memberScope_recast (unnoticed : recast.Unnoticed) (owner : Option TypeId) (s : State) :
    memberScope owner (recast.state s) = memberScope owner s := by
  cases owner with
  | none => rfl
  | some type =>
    simp only [memberScope]
    rw [recast.types_state, unnoticed.userNode?]
    rfl

/-- A recast name was declared as what the name was declared as. -/
lemma findMember_recast {σ : Type} [Symbol σ] [Recastable σ] (unnoticed : recast.Unnoticed)
    (owner : Option TypeId) (key : String) (s : State) :
    (findMember owner (recast.key key) (recast.state s) : Except Fault (Option σ)) =
      (findMember owner key s).map (Option.map (Recastable.recast recast)) := by
  unfold findMember
  rw [memberScope_recast unnoticed]
  cases memberScope owner s with
  | error fault => rfl
  | ok place =>
    cases place with
    | none => rfl
    | some place =>
      exact congrArg Except.ok (s.scopes.find?_recast unnoticed.injective place.1 key place.2)

/-- A missing name is reported alike. -/
lemma reportMissing_carries (unnoticed : recast.Unnoticed) (what : Declared) (identifier : Identifier)
    (owner : Option TypeId) :
    StepsCarry recast.state id (reportMissing what identifier owner)
      (reportMissing what (identifier.respan recast.name) owner) := by
  unfold reportMissing
  rw [unnoticed.name]
  cases owner <;> exact report_carries rfl

/-- The type of a variable is found alike. -/
lemma variableType_carries (unnoticed : recast.Unnoticed) (symbol : VariableSymbol) :
    StepsCarry recast.state id (variableType symbol) (variableType (recast.variableSymbol symbol)) := by
  obtain ⟨node, span, scope, written⟩ := symbol
  cases written with
  | none => exact .bind .get fun s => .pure rfl
  | some written => exact declaredType_carries unnoticed node written

/-- The name of a variable is bound alike. -/
lemma bindVariable_carries (unnoticed : recast.Unnoticed) (owner : Option TypeId) (identifier : Identifier) :
    VisitsCarry recast.state (Identifier.respan recast.name) (Prod.map (Identifier.respan recast.name) id)
      (bindVariable owner identifier) (bindVariable owner (identifier.respan recast.name)) := by
  unfold bindVariable
  rw [unnoticed.name]
  refine RunsCarry.bind (VisitsCarry.askFor rfl (findMember_recast unnoticed owner identifier.name))
    fun symbol? => ?_
  cases symbol? with
  | some symbol => exact (RunsCarry.lift (variableType_carries unnoticed symbol)).bind fun type => .pure rfl
  | none => exact (RunsCarry.lift (reportMissing_carries unnoticed .variable identifier owner)).bind fun _ => .pure rfl

/-- The arguments of a call are checked alike. -/
lemma checkArgumentsFrom_carries (unnoticed : recast.Unnoticed) (function : String) (scope : ScopeId)
    (parameters : List (NodeId × TypeRef)) :
    ∀ (position : Nat) (arguments : List (Option TypeId × Span)),
      StepsCarry recast.state id (checkArgumentsFrom function scope position parameters arguments)
        (checkArgumentsFrom (recast.key function) scope position
          (parameters.map (Prod.map id (TypeRef.respan recast.name))) (arguments.map (Prod.map id recast.mark))) := by
  induction parameters with
  | nil => exact fun position arguments => .pure rfl
  | cons parameter rest ih =>
    intro position arguments
    obtain ⟨node, written⟩ := parameter
    cases arguments with
    | nil => exact .pure rfl
    | cons argument others =>
      obtain ⟨found?, span⟩ := argument
      refine (declaredType_carries unnoticed node written).bind fun expected? => ?_
      have others := ih (position + 1) others
      cases expected? with
      | none => exact others
      | some expected =>
        cases found? with
        | none => exact others
        | some found =>
          refine .bind .get fun s => ?_
          rw [recast.types_state, unnoticed.compatible]
          dsimp only
          split
          · exact others
          · exact (report_carries rfl).bind fun _ => others

/-- The number of arguments of a call and their types are checked alike. -/
lemma checkArguments_carries (unnoticed : recast.Unnoticed) (identifier : Identifier) (symbol : FunctionSymbol)
    (arguments : List (Option TypeId × Span)) :
    StepsCarry recast.state id (checkArguments identifier symbol arguments)
      (checkArguments (identifier.respan recast.name) (recast.functionSymbol symbol)
        (arguments.map (Prod.map id recast.mark))) := by
  have types := checkArgumentsFrom_carries unnoticed identifier.name symbol.scope symbol.parameters 1 arguments
  have count : (recast.functionSymbol symbol).parameters.length = symbol.parameters.length := List.length_map _
  unfold checkArguments
  rw [count, List.length_map, unnoticed.name]
  dsimp only
  split
  · exact (report_carries rfl).bind fun _ => types
  · exact types

/-- The type that a function returns is found alike. -/
lemma returnedType_carries (unnoticed : recast.Unnoticed) (symbol : FunctionSymbol) :
    StepsCarry recast.state id (returnedType symbol) (returnedType (recast.functionSymbol symbol)) := by
  obtain ⟨node, span, scope, parameters, returns⟩ := symbol
  cases returns with
  | none => exact .pure rfl
  | some written => exact declaredType_carries unnoticed node written

/-- The name of a called function is bound alike. -/
lemma bindFunction_carries (unnoticed : recast.Unnoticed) (owner : Option TypeId) (arity : Nat)
    (arguments : List (Option TypeId × Span)) (identifier : Identifier) :
    VisitsCarry recast.state (Identifier.respan recast.name) (Prod.map (Identifier.respan recast.name) id)
      (bindFunction owner arity arguments identifier)
      (bindFunction owner arity (arguments.map (Prod.map id recast.mark)) (identifier.respan recast.name)) := by
  have found (s : State) := findMember_recast (σ := FunctionSymbol) unnoticed owner (mangle identifier.name arity) s
  -- Functions are looked up by name and number of arguments, and the key goes along with the name.
  simp only [unnoticed.mangle] at found
  unfold bindFunction
  rw [unnoticed.name]
  refine RunsCarry.bind (VisitsCarry.askFor rfl found) fun symbol? => ?_
  cases symbol? with
  | some symbol =>
    refine (RunsCarry.lift (checkArguments_carries unnoticed identifier symbol arguments)).bind fun _ => ?_
    exact (RunsCarry.lift (returnedType_carries unnoticed symbol)).bind fun type => .pure rfl
  | none => exact (RunsCarry.lift (reportMissing_carries unnoticed .function identifier owner)).bind fun _ => .pure rfl

/-- The type arguments of a call that may have some are filled in alike. -/
lemma bindTypeArguments_carries (unnoticed : recast.Unnoticed) (written : Option (List TypeRef)) :
    VisitsCarry recast.state (Option.map (typesRespan recast.name)) (Prod.map (Option.map (typesRespan recast.name)) id)
      (bindTypeArguments written) (bindTypeArguments (written.map (typesRespan recast.name))) := by
  cases written with
  | none => exact .pure rfl
  | some written =>
    refine RunsCarry.bind (VisitsCarry.askFor rfl scope_recast) fun scope => ?_
    refine (RunsCarry.lift (bindTypeArgumentList_carries unnoticed written)).bind fun bound => .pure ?_
    have length : (typesRespan recast.name bound).length = bound.length := by
      rw [typesRespan_eq_map, List.length_map]
    exact congrArg (Prod.mk _) length

/-- A name behind `new` stands for the type that it stood for. -/
lemma constructedType?_recast (unnoticed : recast.Unnoticed) (s : State) (scope : ScopeId) (name : String)
    (arity : Nat) : constructedType? (recast.state s) scope (recast.key name) arity =
      constructedType? s scope name arity := by
  have found := s.scopes.find?_recast (σ := TypeSymbol) unnoticed.injective scope (mangle name arity) .outward
  rw [unnoticed.mangle] at found
  unfold constructedType?
  rw [unnoticed.builtin?, show (recast.state s).scopes = recast.scopes s.scopes from rfl, found, Option.map_map]
  rfl

/-- The name of a type behind `new` is bound alike. -/
lemma bindConstructed_carries (unnoticed : recast.Unnoticed) (arity : Nat) (identifier : Identifier) :
    VisitsCarry recast.state (Identifier.respan recast.name) (Prod.map (Identifier.respan recast.name) id)
      (bindConstructed arity identifier) (bindConstructed arity (identifier.respan recast.name)) := by
  refine RunsCarry.bind (VisitsCarry.askFor rfl scope_recast) fun scope => RunsCarry.get.bind fun s => ?_
  rw [unnoticed.name, id, constructedType?_recast unnoticed]
  cases constructedType? s scope identifier.name arity with
  | some type => exact .pure rfl
  | none => exact (RunsCarry.lift (report_carries rfl)).bind fun _ => .pure rfl

end ArrowScript.Analysis
