import ArrowScript.Proofs.Analysis.Confined

/-!
# Names that are found and reported

What a name is found to be declared as has names of the program only, and so has what is reported of it.
-/

namespace ArrowScript

variable {P : String → Prop}

/-! ## Symbols -/

/-- What is declared in a scope has names that may be of a kind. -/
class NamedSymbol (σ : Type) [Symbol σ] where
  Spelled : (String → Prop) → σ → Prop
  span P symbol : Spelled P symbol → P (Symbol.span symbol).content
  table P scope : scope.Spelled P → ∀ entry ∈ (Symbol.table scope : List (String × σ)), Spelled P entry.2
  insert P key symbol scope : Spelled P symbol → scope.Spelled P → (Symbol.insert key symbol scope).Spelled P

instance : NamedSymbol TypeSymbol where
  Spelled := TypeSymbol.Spelled
  span _ _ spelled := spelled
  table _ _ spelled := spelled.typeTable
  insert _ _ _ _ symbol scope :=
    ⟨List.forall_mem_cons.mpr ⟨symbol, scope.typeTable⟩, scope.functionTable, scope.variableTable⟩

instance : NamedSymbol FunctionSymbol where
  Spelled := FunctionSymbol.Spelled
  span _ _ spelled := spelled.span
  table _ _ spelled := spelled.functionTable
  insert _ _ _ _ symbol scope :=
    ⟨scope.typeTable, List.forall_mem_cons.mpr ⟨symbol, scope.functionTable⟩, scope.variableTable⟩

instance : NamedSymbol VariableSymbol where
  Spelled := VariableSymbol.Spelled
  span _ _ spelled := spelled.span
  table _ _ spelled := spelled.variableTable
  insert _ _ _ _ symbol scope :=
    ⟨scope.typeTable, scope.functionTable, List.forall_mem_cons.mpr ⟨symbol, scope.variableTable⟩⟩

namespace ScopeTable

/-- A scope without declarations has no names. -/
lemma Spelled.openUnder {table : ScopeTable} (spelled : table.Spelled P) (parent : Option ScopeId) :
    (table.openUnder parent).2.Spelled P := by
  intro scope mem
  rcases Array.mem_push.mp mem with mem | rfl
  · exact spelled scope mem
  · exact ⟨List.forall_mem_nil _, List.forall_mem_nil _, List.forall_mem_nil _⟩

/-- A scope with a handle is one of all scopes. -/
lemma Spelled.get? {table : ScopeTable} (spelled : table.Spelled P) {id : ScopeId} {scope : Scope}
    (there : table.get? id = some scope) : scope.Spelled P :=
  spelled scope (Array.mem_of_getElem? there)

variable {σ : Type} [Symbol σ] [NamedSymbol σ]

/-- The names of what a scope declares are of the kind. -/
lemma spelled_of_lookup {scope : Scope} (spelled : scope.Spelled P) {key : String} {symbol : σ}
    (found : (Symbol.table scope).lookup key = some symbol) : NamedSymbol.Spelled P symbol := by
  have each := NamedSymbol.table (σ := σ) P scope spelled
  obtain ⟨before, after, e, -⟩ := List.lookup_eq_some_iff.mp found
  exact each (key, symbol) (e ▸ List.mem_append_right _ List.mem_cons_self)

/-- The names of what a scope is found to declare are of the kind. -/
lemma Spelled.declared? {table : ScopeTable} (spelled : table.Spelled P) {scope : ScopeId} {key : String}
    {symbol : σ} (found : table.declared? scope key = some symbol) : NamedSymbol.Spelled P symbol := by
  obtain ⟨there, get, found⟩ := Option.bind_eq_some_iff.mp found
  exact spelled_of_lookup (spelled.get? get) found

/-- The names of what is found from a scope outward are of the kind. -/
lemma Spelled.findWithin {table : ScopeTable} (spelled : table.Spelled P) {key : String} {symbol : σ} :
    ∀ {steps : Nat} {scope : ScopeId}, table.findWithin key steps scope = some symbol →
      NamedSymbol.Spelled P symbol
  | 0, _, found => by cases found
  | steps + 1, id, found => by
    rw [ScopeTable.findWithin] at found
    cases get : table.get? id with
    | none =>
      rw [get] at found
      cases found
    | some scope =>
      simp only [get] at found
      split at found
      · next first => exact spelled_of_lookup (spelled.get? get) (first.trans found)
      · exact spelled.findWithin found
      · cases found

/-- The names of what is found are of the kind. -/
lemma Spelled.find? {table : ScopeTable} (spelled : table.Spelled P) {scope : ScopeId} {key : String}
    {reach : Reach} {symbol : σ} (found : table.find? scope key reach = some symbol) :
    NamedSymbol.Spelled P symbol := by
  cases reach with
  | here => exact spelled.declared? found
  | outward => exact spelled.findWithin found

/-- A declared symbol adds its own names, and a name that is taken was declared before. -/
lemma Spelled.declare {table : ScopeTable} (spelled : table.Spelled P) (scope : ScopeId) (key : String) {symbol : σ}
    (new : NamedSymbol.Spelled P symbol) :
    (∀ first ∈ (table.declare scope key symbol).1, P first.content) ∧
      (table.declare scope key symbol).2.Spelled P := by
  unfold ScopeTable.declare
  cases taken : (table.declared? scope key : Option σ) with
  | some first =>
    refine ⟨?_, spelled⟩
    rintro _ ⟨⟩
    exact NamedSymbol.span P first (spelled.declared? taken)
  | none =>
    refine ⟨fun _ mem => (by cases mem), fun other mem => ?_⟩
    obtain ⟨position, there⟩ := Array.getElem?_of_mem mem
    rw [Array.getElem?_modify] at there
    split at there
    · obtain ⟨before, old, rfl⟩ := Option.map_eq_some_iff.mp there
      exact NamedSymbol.insert P key symbol before new (spelled before (Array.mem_of_getElem? old))
    · exact spelled other (Array.mem_of_getElem? there)

end ScopeTable

namespace Analysis

variable {scope : ScopeId}

/-! ## Small steps -/

/-- A reported problem adds its own names. -/
lemma report_confined {problem : SemanticProblem} {span : Span} (spelled : FindingSpelled P ⟨problem, span⟩) :
    StepConfined P (fun _ => True) (report problem span) := by
  refine .changed fun s before => ⟨before.arrays, before.types, before.scopes, fun finding mem => ?_⟩
  rcases Array.mem_push.mp mem with mem | rfl
  · exact before.findings finding mem
  · exact spelled

/-- A problem without names may be reported anywhere. -/
lemma FindingSpelled.nameless {problem : SemanticProblem} {span : Span} (spelled : problem.Spelled P)
    (elsewhere : problem.atName = false) : FindingSpelled P ⟨problem, span⟩ :=
  ⟨spelled, fun atName => by rw [elsewhere] at atName; cases atName⟩

/-- Entering a scope adds no names. -/
lemma enter_confined (scope : ScopeId) : StepConfined P (fun _ => True) (enter scope) :=
  .changed fun _ spelled => RunConfined.framed spelled rfl rfl rfl

/-- Leaving a scope adds no names. -/
lemma leave_confined : StepConfined P (fun _ => True) leave :=
  .changed fun _ spelled => RunConfined.framed spelled rfl rfl rfl

/-- A registered type adds its own name. -/
lemma spelled_of_register {registry : TypeRegistry} (spelled : ∀ info ∈ registry.entries, info.Spelled P)
    {info : TypeInfo} (new : info.Spelled P) : ∀ other ∈ (registry.register info).2.entries, other.Spelled P := by
  intro other mem
  rcases Array.mem_push.mp mem with mem | rfl
  · exact spelled other mem
  · exact new

/-- An array type adds no name. -/
lemma State.Spelled.arrayOf {s : State} (spelled : s.Spelled P) (element : TypeId) :
    State.Spelled P { s with types := (s.types.arrayOf element).2 } where
  arrays := by
    have same : (s.types.respell id).arrayOf element = _ := s.types.arrayOf_respell element
    rw [spelled.arrays] at same
    exact (congrArg Prod.snd same).symm
  types := by
    show ∀ info ∈ (s.types.arrayOf element).2.entries, _
    unfold TypeRegistry.arrayOf
    cases s.types.array? element with
    | some array => exact spelled.types
    | none => exact spelled_of_register spelled.types trivial
  scopes := spelled.scopes
  findings := spelled.findings

/-- An array type adds no name. -/
lemma arrayOf_confined (element : TypeId) : StepConfined P (fun _ => True) (arrayOf element) :=
  .modifyGet fun _ spelled => ⟨trivial, spelled.arrayOf element⟩

/-! ## Written types -/

/-- Looking up a written type adds no names. -/
lemma lookUp_confined (written : TypeRef) : StepConfined P (fun _ => True) (lookUp scope written) := by
  refine .bind .get fun s _ => ?_
  split
  · exact .pure trivial
  · split
    · exact (arrayOf_confined _).bind fun type _ => .pure trivial
    · exact .pure trivial

mutual

/-- Unknown types are reported under their names. -/
lemma resolve_confined : ∀ {written : TypeRef}, written.Spelled P →
    StepConfined P (fun _ => True) (resolve scope written)
  | ⟨name, builtin, arguments, array, binding⟩, spelled => by
    rw [TypeRef.Spelled] at spelled
    rw [resolve]
    refine (lookUp_confined _).bind fun type _ => ?_
    have others := resolveAll_confined spelled.2
    cases type with
    | none =>
      have reported : StepConfined P (fun _ => True) (report (.unknownType name.content) name) :=
        report_confined ⟨spelled.1, fun _ => spelled.1⟩
      exact reported.bind fun _ _ => others.bind fun _ _ => .pure trivial
    | some type => exact others.bind fun _ _ => .pure trivial

lemma resolveAll_confined : ∀ {list : List TypeRef}, typesSpelled P list →
    StepConfined P (fun _ => True) (resolveAll scope list)
  | [], _ => by
    rw [resolveAll]
    exact .pure trivial
  | written :: rest, spelled => by
    rw [typesSpelled] at spelled
    rw [resolveAll]
    exact (resolve_confined spelled.1).discard.bind fun _ _ => resolveAll_confined spelled.2

end

mutual

/-- Type arguments are filled in without adding names. -/
lemma bindArguments_confined : ∀ {written : TypeRef}, written.Spelled P →
    StepConfined P (TypeRef.Spelled P) (bindArguments scope written)
  | ⟨name, builtin, arguments, array, binding⟩, spelled => by
    rw [TypeRef.Spelled] at spelled
    rw [bindArguments]
    refine (bindAll_confined spelled.2).bind fun filled others => .pure ?_
    rw [TypeRef.Spelled]
    exact ⟨spelled.1, others⟩

lemma bindAll_confined : ∀ {list : List TypeRef}, typesSpelled P list →
    StepConfined P (typesSpelled P) (bindAll scope list)
  | [], _ => by
    rw [bindAll]
    exact .pure trivial
  | written :: rest, spelled => by
    rw [typesSpelled] at spelled
    rw [bindAll]
    refine (lookUp_confined written).bind fun binding _ => ?_
    refine (bindArguments_confined spelled.1).bind fun filled first => ?_
    refine (bindAll_confined spelled.2).bind fun others rest => .pure ?_
    rw [typesSpelled]
    obtain ⟨name, builtin, arguments, array, _⟩ := filled
    rw [TypeRef.Spelled] at first ⊢
    exact ⟨first, rest⟩

end

/-- The type that a node is declared with is kept without a name. -/
lemma declaredType_confined (node : NodeId) {written : TypeRef} (spelled : written.Spelled P) :
    StepConfined P (fun _ => True) (declaredType node scope written) := by
  refine .bind .get fun s _ => ?_
  split
  · exact .pure trivial
  · refine (resolve_confined spelled).bind fun type _ => ?_
    refine (StepConfined.changed fun _ spelled => ?_).bind fun _ _ => .pure trivial
    exact RunConfined.framed spelled rfl rfl rfl

/-- A written type has the names that it had, whatever it is found to stand for. -/
lemma TypeRef.Spelled.binding {written : TypeRef} (spelled : written.Spelled P) (type : Option TypeId) :
    TypeRef.Spelled P { written with binding := type } := by
  obtain ⟨name, builtin, arguments, array, binding⟩ := written
  rwa [TypeRef.Spelled] at spelled ⊢

/-- A written type of a declaration is filled in without adding names. -/
lemma bindDeclared_confined (node : NodeId) {written : TypeRef} (spelled : written.Spelled P) :
    StepConfined P (fun bound => bound.1.Spelled P) (bindDeclared node scope written) := by
  refine (declaredType_confined node spelled).bind fun type _ => ?_
  exact (bindArguments_confined (TypeRef.Spelled.binding spelled type)).bind fun filled given => .pure given

/-- A type argument of a call is filled in without adding names. -/
lemma bindTypeArgument_confined {written : TypeRef} (spelled : written.Spelled P) :
    StepConfined P (TypeRef.Spelled P) (bindTypeArgument scope written) :=
  (resolve_confined spelled).bind fun type _ => bindArguments_confined (TypeRef.Spelled.binding spelled type)

/-- The names in some written types are of a kind if those in each of them are. -/
lemma typesSpelled_iff {list : List TypeRef} : typesSpelled P list ↔ ∀ written ∈ list, written.Spelled P := by
  induction list with
  | nil => simp [typesSpelled]
  | cons written rest ih => rw [typesSpelled, ih, List.forall_mem_cons]

/-- The type arguments of a call are filled in without adding names. -/
lemma bindTypeArgumentList_confined {written : List TypeRef} (spelled : typesSpelled P written) :
    StepConfined P (typesSpelled P) (bindTypeArgumentList scope written) := by
  rw [typesSpelled_iff] at spelled
  have each : StepConfined P _ (bindTypeArgumentList scope written) :=
    .mapM fun type mem => bindTypeArgument_confined (spelled type mem)
  exact each.mono fun bound => typesSpelled_iff.mpr

/-! ## Names -/

/-- What a name was declared as has names of the program. -/
lemma findMember_spelled {σ : Type} [Symbol σ] [NamedSymbol σ] (owner : Option TypeId) (key : String) (s : State)
    (symbol? : Option σ) (spelled : s.Spelled P) (found : findMember owner key s = .ok symbol?) :
    ∀ symbol ∈ symbol?, NamedSymbol.Spelled P symbol := by
  unfold findMember at found
  cases place : memberScope owner s with
  | error fault =>
    rw [place] at found
    cases found
  | ok place? =>
    rw [place] at found
    obtain rfl := Except.ok.inj found
    intro symbol there
    obtain ⟨place, -, there⟩ := Option.bind_eq_some_iff.mp there
    exact spelled.scopes.find? there

/-- A missing name is reported under its own name. -/
lemma reportMissing_confined (what : Declared) {identifier : Identifier} (spelled : identifier.Spelled P)
    (owner : Option TypeId) : StepConfined P (fun _ => True) (reportMissing what identifier owner) := by
  cases owner <;> exact report_confined ⟨spelled, fun _ => spelled⟩

/-- The type of a variable is found without adding names. -/
lemma variableType_confined {symbol : VariableSymbol} (spelled : symbol.Spelled P) :
    StepConfined P (fun _ => True) (variableType symbol) := by
  obtain ⟨node, span, scope, written⟩ := symbol
  cases written with
  | none => exact .bind .get fun s _ => .pure trivial
  | some written => exact declaredType_confined node (spelled.written written rfl)

/-- The name of a variable stays. -/
lemma bindVariable_confined (owner : Option TypeId) {identifier : Identifier} (spelled : identifier.Spelled P) :
    VisitConfined P (Identifier.Spelled P) (fun visited => visited.1.Spelled P)
      (bindVariable owner identifier) := by
  refine RunConfined.bind (VisitConfined.askFor spelled (findMember_spelled owner identifier.name))
    fun symbol? found => ?_
  cases symbol? with
  | some symbol =>
    exact (RunConfined.lift (variableType_confined (found symbol rfl))).bind fun type _ => .pure spelled
  | none => exact (RunConfined.lift (reportMissing_confined .variable spelled owner)).bind fun _ _ => .pure spelled

/-- The arguments of a call are checked under the name of the function. -/
lemma checkArgumentsFrom_confined {function : String} (spelled : P function) (scope : ScopeId)
    {parameters : List (NodeId × TypeRef)} (names : ∀ parameter ∈ parameters, parameter.2.Spelled P) :
    ∀ (position : Nat) (arguments : List (Option TypeId × Span)),
      StepConfined P (fun _ => True) (checkArgumentsFrom function scope position parameters arguments) := by
  induction parameters with
  | nil => exact fun position arguments => .pure trivial
  | cons parameter rest ih =>
    intro position arguments
    obtain ⟨node, written⟩ := parameter
    cases arguments with
    | nil => exact .pure trivial
    | cons argument others =>
      obtain ⟨found?, span⟩ := argument
      have written : written.Spelled P := names _ List.mem_cons_self
      have others := ih (fun other mem => names other (List.mem_cons_of_mem _ mem)) (position + 1) others
      refine (declaredType_confined node written).bind fun expected? _ => ?_
      cases expected? with
      | none => exact others
      | some expected =>
        cases found? with
        | none => exact others
        | some found =>
          refine .bind .get fun s _ => ?_
          dsimp only
          split
          · exact others
          · have reported : StepConfined P (fun _ => True)
                (report (.argumentDiffers position function expected found) span) :=
              report_confined (.nameless spelled rfl)
            exact reported.bind fun _ _ => others

/-- The number of arguments of a call and their types are checked under the name of the function. -/
lemma checkArguments_confined {identifier : Identifier} (spelled : identifier.Spelled P) {symbol : FunctionSymbol}
    (names : symbol.Spelled P) (arguments : List (Option TypeId × Span)) :
    StepConfined P (fun _ => True) (checkArguments identifier symbol arguments) := by
  have types := checkArgumentsFrom_confined spelled symbol.scope names.parameters 1 arguments
  unfold checkArguments
  dsimp only
  split
  · have reported : StepConfined P (fun _ => True) (report
        (.argumentCount identifier.name symbol.parameters.length arguments.length) identifier.span) :=
      report_confined ⟨spelled, fun _ => spelled⟩
    exact reported.bind fun _ _ => types
  · exact types

/-- The type that a function returns is found without adding names. -/
lemma returnedType_confined {symbol : FunctionSymbol} (spelled : symbol.Spelled P) :
    StepConfined P (fun _ => True) (returnedType symbol) := by
  obtain ⟨node, span, scope, parameters, returns⟩ := symbol
  cases returns with
  | none => exact .pure trivial
  | some written => exact declaredType_confined node (spelled.returns written rfl)

/-- The name of a called function stays. -/
lemma bindFunction_confined (owner : Option TypeId) (arity : Nat) (arguments : List (Option TypeId × Span))
    {identifier : Identifier} (spelled : identifier.Spelled P) :
    VisitConfined P (Identifier.Spelled P) (fun visited => visited.1.Spelled P)
      (bindFunction owner arity arguments identifier) := by
  refine RunConfined.bind (VisitConfined.askFor spelled (findMember_spelled owner (mangle identifier.name arity)))
    fun symbol? found => ?_
  cases symbol? with
  | some symbol =>
    refine (RunConfined.lift (checkArguments_confined spelled (found symbol rfl) arguments)).bind fun _ _ => ?_
    exact (RunConfined.lift (returnedType_confined (found symbol rfl))).bind fun type _ => .pure spelled
  | none => exact (RunConfined.lift (reportMissing_confined .function spelled owner)).bind fun _ _ => .pure spelled

/-- The type arguments of a call that may have some are filled in without adding names. -/
lemma bindTypeArguments_confined {written : Option (List TypeRef)}
    (spelled : ∀ types ∈ written, typesSpelled P types) :
    VisitConfined P (fun written => ∀ types ∈ written, typesSpelled P types)
      (fun visited => ∀ types ∈ visited.1, typesSpelled P types) (bindTypeArguments written) := by
  cases written with
  | none => exact .pure spelled
  | some written =>
    refine RunConfined.bind (Q := fun _ => True) (.ask (fun _ => spelled) fun _ _ _ _ => trivial) fun scope _ => ?_
    refine (RunConfined.lift (bindTypeArgumentList_confined (spelled written rfl))).bind fun bound given => .pure ?_
    rintro _ ⟨⟩
    exact given

/-- The name of a type behind `new` stays. -/
lemma bindConstructed_confined (arity : Nat) {identifier : Identifier} (spelled : identifier.Spelled P) :
    VisitConfined P (Identifier.Spelled P) (fun visited => visited.1.Spelled P)
      (bindConstructed arity identifier) := by
  refine RunConfined.bind (Q := fun _ => True) (VisitConfined.askFor spelled fun _ _ _ _ => trivial) fun scope _ =>
    RunConfined.get.bind fun s _ => ?_
  split
  · exact .pure spelled
  · have reported : StepConfined P (fun _ => True) (report (.unknownType identifier.name) identifier.span) :=
      report_confined ⟨spelled, fun _ => spelled⟩
    exact (RunConfined.lift reported).bind fun _ _ => .pure spelled

end Analysis

end ArrowScript
