import ArrowScript.Proofs.Analysis.Changes

/-!
# Changes made by visiting expressions

Every routine that visits written types, names and expressions follows a path of changes and ends in the frame that it
began in; with the handles in what it is given known, all handles in what it gives are known.
-/

namespace ArrowScript.Analysis
open TypeRegistry

variable {s t : State} {scope : ScopeId} {types : List TypeId} {registry : TypeRegistry}

/-! ## Known handles -/

/-- A state whose handles are known is sound. -/
lemma AllKnown.sound (known : AllKnown s) : Sound s where
  builtins := known.builtins
  scopes := by
    refine ⟨fun scope found there key symbol looked => ?_, known.elements⟩
    obtain ⟨first, rest, e, -⟩ := List.lookup_eq_some_iff.mp looked
    refine known.symbols scope found there symbol.type ?_
    simp [Scope.handles, e]
  declared node type looked found mem := by
    obtain ⟨first, rest, e, -⟩ := List.lookup_eq_some_iff.mp looked
    exact known.declared (node, type) (by simp [e]) found (by simpa using mem)
  inferred node type looked := by
    obtain ⟨first, rest, e, -⟩ := List.lookup_eq_some_iff.mp looked
    exact known.inferred (node, type) (by simp [e])

/-- A type is known if there is one. -/
lemma knowsAll_toList {type : Option TypeId} (known : Known s type) : s.types.KnowsAll type.toList :=
  fun found mem => known found (Option.mem_toList.mp mem)

/-- Built-in types are known. -/
lemma AllKnown.knows_builtin (known : AllKnown s) {type : TypeId} (small : type.index < 6) : s.types.Knows type :=
  Nat.lt_of_lt_of_le small known.builtins

/-! ## Steps -/

/-- A problem with known types is reported. -/
lemma report_reads (problem : SemanticProblem) (known : s.types.KnowsAll problem.types) (span : Span) :
    StepReads (fun _ => []) (report problem span) s :=
  .changed (.finding ⟨problem, span⟩ known) ⟨rfl, rfl, rfl⟩

lemma arrayOf_reads {element : TypeId} (known : s.types.Knows element) :
    StepReads (fun array => [array]) (arrayOf element) s :=
  ⟨.single (.array element known) ⟨rfl, rfl, rfl⟩, by
    rw [knowsAll_cons]
    exact ⟨knows_answer s.types (.array element), knowsAll_nil⟩⟩

/-! ## Written types -/

lemma lookUp_reads (known : AllKnown s) (scope : ScopeId) (written : TypeRef) :
    StepReads Option.toList (lookUp scope written) s := by
  refine .get ?_
  have named := known_namedType? known.sound scope written
  cases e : namedType? s scope written with
  | none => exact .pure knowsAll_nil
  | some type =>
    rw [e] at named
    have there : s.types.Knows type := named type rfl
    show StepReads Option.toList (if written.array then do return some (← arrayOf type) else return some type) s
    split
    · exact (arrayOf_reads there).bind fun array t _ given => .pure given
    · exact .pure (knowsAll_toList named)

mutual

lemma resolve_reads (scope : ScopeId) : ∀ (written : TypeRef) {s : State}, AllKnown s →
    StepReads Option.toList (resolve scope written) s
  | ⟨name, builtin, arguments, array, binding⟩, s, known => by
    rw [resolve]
    refine (lookUp_reads known scope _).bind fun type t reads given => ?_
    have known := reads.allKnown known
    cases type with
    | none =>
      refine (report_reads (.unknownType name.content) knowsAll_nil name).bind
        fun _ u reads' _ => ?_
      exact (resolveAll_reads scope arguments (reads'.allKnown known)).bind fun _ _ _ _ => .pure knowsAll_nil
    | some type =>
      exact (resolveAll_reads scope arguments known).bind fun _ v reads' _ => .pure (reads'.knowsAll given)

lemma resolveAll_reads (scope : ScopeId) : ∀ (list : List TypeRef) {s : State}, AllKnown s →
    StepReads (fun _ => []) (resolveAll scope list) s
  | [], _, _ => by
    rw [resolveAll]
    exact .pure knowsAll_nil
  | written :: rest, s, known => by
    rw [resolveAll]
    exact (resolve_reads scope written known).discard.bind fun _ t reads _ =>
      resolveAll_reads scope rest (reads.allKnown known)

end

mutual

/-- Type arguments are filled in with known types. -/
lemma bindArguments_reads (scope : ScopeId) : ∀ (written : TypeRef) {s : State}, AllKnown s →
    s.types.KnowsAll written.handles → StepReads TypeRef.handles (bindArguments scope written) s
  | ⟨name, builtin, arguments, array, binding⟩, s, known, there => by
    rw [TypeRef.handles, knowsAll_append] at there
    rw [bindArguments]
    refine (bindAll_reads scope arguments known there.2).bind fun filled t reads given => .pure ?_
    rw [TypeRef.handles, knowsAll_append]
    exact ⟨reads.knowsAll there.1, given⟩

lemma bindAll_reads (scope : ScopeId) : ∀ (list : List TypeRef) {s : State}, AllKnown s →
    s.types.KnowsAll (typesHandles list) → StepReads typesHandles (bindAll scope list) s
  | [], _, _, _ => by
    rw [bindAll]
    exact .pure knowsAll_nil
  | written :: rest, s, known, there => by
    rw [typesHandles, knowsAll_append] at there
    rw [bindAll]
    refine (lookUp_reads known scope written).bind fun binding t first found => ?_
    refine (bindArguments_reads scope written (first.allKnown known) (first.knowsAll there.1)).bind
      fun filled u second given => ?_
    have reads := first.trans second
    refine (bindAll_reads scope rest (reads.allKnown known) (reads.knowsAll there.2)).bind fun others v third all =>
      .pure ?_
    obtain ⟨name, builtin, arguments, array, before⟩ := filled
    rw [TypeRef.handles, knowsAll_append] at given
    simp only [typesHandles, TypeRef.handles, knowsAll_append]
    exact ⟨⟨(second.trans third).knowsAll found, third.knowsAll given.2⟩, all⟩

end

/-- The handles of a written type that stands for another type. -/
lemma knowsAll_bound {written : TypeRef} {type : Option TypeId} (there : registry.KnowsAll written.handles)
    (known : registry.KnowsAll type.toList) : registry.KnowsAll { written with binding := type }.handles := by
  obtain ⟨name, builtin, arguments, array, before⟩ := written
  rw [TypeRef.handles, knowsAll_append] at there ⊢
  exact ⟨known, there.2⟩

lemma declaredType_reads (known : AllKnown s) (node : NodeId) (scope : ScopeId) (written : TypeRef) :
    StepReads Option.toList (declaredType node scope written) s := by
  refine .get ?_
  split
  · next type found =>
    obtain ⟨first, rest, e, -⟩ := List.lookup_eq_some_iff.mp found
    exact .pure (known.declared (node, type) (by simp [e]))
  · refine (resolve_reads scope written known).bind fun type t reads given => ?_
    have kept : StepReads (fun _ => []) (modify fun state : State =>
        { state with declaredTypes := (node, type) :: state.declaredTypes } : Step PUnit) t :=
      .changed (.declared node type given) ⟨rfl, rfl, rfl⟩
    exact kept.bind fun _ u reads' _ => .pure (reads'.knowsAll given)

/-- The written type of a declaration is filled in with known types. -/
lemma bindDeclared_reads (known : AllKnown s) (node : NodeId) (scope : ScopeId) {written : TypeRef}
    (there : s.types.KnowsAll written.handles) :
    StepReads (fun bound => bound.1.handles ++ bound.2.toList) (bindDeclared node scope written) s := by
  refine (declaredType_reads known node scope written).bind fun type t first given => ?_
  refine (bindArguments_reads scope _ (first.allKnown known) (knowsAll_bound (first.knowsAll there) given)).bind
    fun filled u second filled_known => .pure ?_
  rw [knowsAll_append]
  exact ⟨filled_known, second.knowsAll given⟩

/-- Type arguments of a call are filled in with known types. -/
lemma bindTypeArgumentList_reads (scope : ScopeId) (written : List TypeRef) {s : State} (known : AllKnown s)
    (there : s.types.KnowsAll (typesHandles written)) :
    StepReads typesHandles (bindTypeArgumentList scope written) s := by
  unfold bindTypeArgumentList
  induction written generalizing s with
  | nil => exact .pure knowsAll_nil
  | cons first rest ih =>
    rw [typesHandles, knowsAll_append] at there
    rw [List.mapM_cons]
    have bound : StepReads TypeRef.handles (bindTypeArgument scope first) s := by
      refine (resolve_reads scope first known).bind fun type t reads given => ?_
      exact bindArguments_reads scope _ (reads.allKnown known) (knowsAll_bound (reads.knowsAll there.1) given)
    refine bound.bind fun filled t reads given => ?_
    refine (ih (reads.allKnown known) (reads.knowsAll there.2)).bind fun others u reads' all => .pure ?_
    rw [typesHandles, knowsAll_append]
    exact ⟨reads'.knowsAll given, all⟩

/-! ## Names -/

lemma reportMissing_reads (what : Declared) (identifier : Identifier) {owner : Option TypeId}
    (known : s.types.KnowsAll owner.toList) : StepReads (fun _ => []) (reportMissing what identifier owner) s := by
  cases owner with
  | none => exact report_reads _ knowsAll_nil _
  | some owner => exact report_reads _ known _

lemma variableType_reads (known : AllKnown s) (symbol : VariableSymbol) :
    StepReads Option.toList (variableType symbol) s := by
  obtain ⟨node, span, scope, written⟩ := symbol
  cases written with
  | some written => exact declaredType_reads known node scope written
  | none =>
    exact .get (.pure (knowsAll_toList (known.sound.inferred node)))

/-- The name of a variable is filled in. -/
lemma bindVariable_reads (known : AllKnown s) {owner : Option TypeId} (owner_known : s.types.KnowsAll owner.toList)
    {identifier : Identifier} (there : s.types.KnowsAll identifier.handles) :
    TypedReads Identifier.handles (bindVariable owner identifier) s := by
  refine VisitReads.bind (.askFor there) fun symbol? t asked _ => ?_
  cases symbol? with
  | some symbol =>
    refine (VisitReads.lift (variableType_reads (asked.allKnown known) symbol)).bind fun type u _ given => .pure ?_
    rw [knowsAll_append]
    exact ⟨knowsAll_nil, given⟩
  | none =>
    refine (VisitReads.lift (reportMissing_reads .variable identifier (asked.knowsAll owner_known))).bind
      fun _ u reads _ => .pure ?_
    rw [knowsAll_append]
    exact ⟨(asked.trans reads).knowsAll there, knowsAll_nil⟩

/-- The types of arguments. -/
abbrev argumentTypes (arguments : List (Option TypeId × Span)) : List TypeId :=
  arguments.flatMap fun argument => argument.1.toList

lemma checkArgumentsFrom_reads (function : String) (scope : ScopeId) (parameters : List (NodeId × TypeRef)) :
    ∀ (position : Nat) (arguments : List (Option TypeId × Span)) {s : State}, AllKnown s →
      s.types.KnowsAll (argumentTypes arguments) →
      StepReads (fun _ => []) (checkArgumentsFrom function scope position parameters arguments) s := by
  induction parameters with
  | nil => exact fun position arguments s _ _ => .pure knowsAll_nil
  | cons parameter rest ih =>
    intro position arguments s known there
    obtain ⟨node, written⟩ := parameter
    cases arguments with
    | nil => exact .pure knowsAll_nil
    | cons argument others =>
      obtain ⟨found?, span⟩ := argument
      rw [argumentTypes, List.flatMap_cons, knowsAll_append] at there
      refine (declaredType_reads known node scope written).bind fun expected? t first expected_known => ?_
      have others : ∀ {u : State}, Reads t u →
          StepReads (fun _ => []) (checkArgumentsFrom function scope (position + 1) rest others) u :=
        fun reads => ih (position + 1) others ((first.trans reads).allKnown known)
          ((first.trans reads).knowsAll there.2)
      cases expected? with
      | none => exact others (.refl t)
      | some expected =>
        cases found? with
        | none => exact others (.refl t)
        | some found =>
          refine .get ?_
          dsimp only
          split
          · exact others (.refl t)
          · have both : t.types.KnowsAll [expected, found] :=
              knowsAll_cons.mpr ⟨expected_known expected (by simp), first.knowsAll there.1⟩
            exact (report_reads (.argumentDiffers position function expected found) both span).bind
              fun _ u reads _ => others reads

lemma checkArguments_reads (known : AllKnown s) (identifier : Identifier) (symbol : FunctionSymbol)
    {arguments : List (Option TypeId × Span)} (there : s.types.KnowsAll (argumentTypes arguments)) :
    StepReads (fun _ => []) (checkArguments identifier symbol arguments) s := by
  have types : ∀ {t : State}, Reads s t → StepReads (fun _ => [])
      (checkArgumentsFrom identifier.name symbol.scope 1 symbol.parameters arguments) t := fun reads =>
    checkArgumentsFrom_reads _ _ _ 1 arguments (reads.allKnown known) (reads.knowsAll there)
  unfold checkArguments
  dsimp only
  split
  · exact (report_reads (.argumentCount ..) knowsAll_nil _).bind fun _ t reads _ => types reads
  · exact types (.refl s)

lemma returnedType_reads (known : AllKnown s) (symbol : FunctionSymbol) :
    StepReads Option.toList (returnedType symbol) s := by
  obtain ⟨node, span, scope, parameters, returns⟩ := symbol
  cases returns with
  | none => exact .pure (knowsAll_cons.mpr ⟨known.knows_builtin (by decide), knowsAll_nil⟩)
  | some written => exact declaredType_reads known node scope written

/-- The name of a called function is filled in. -/
lemma bindFunction_reads (known : AllKnown s) {owner : Option TypeId} (owner_known : s.types.KnowsAll owner.toList)
    (arity : Nat) {arguments : List (Option TypeId × Span)}
    (arguments_known : s.types.KnowsAll (argumentTypes arguments)) {identifier : Identifier}
    (there : s.types.KnowsAll identifier.handles) :
    TypedReads Identifier.handles (bindFunction owner arity arguments identifier) s := by
  refine VisitReads.bind (.askFor there) fun symbol? t asked _ => ?_
  have known := asked.allKnown known
  cases symbol? with
  | some symbol =>
    refine (VisitReads.lift (checkArguments_reads known identifier symbol (asked.knowsAll arguments_known))).bind
      fun _ u checked _ => ?_
    refine (VisitReads.lift (returnedType_reads (checked.allKnown known) symbol)).bind fun type v _ given => .pure ?_
    rw [knowsAll_append]
    exact ⟨knowsAll_nil, given⟩
  | none =>
    refine (VisitReads.lift (reportMissing_reads .function identifier (asked.knowsAll owner_known))).bind
      fun _ u reads _ => .pure ?_
    rw [knowsAll_append]
    exact ⟨(asked.trans reads).knowsAll there, knowsAll_nil⟩

/-- The handles in type arguments that may be absent. -/
abbrev optionalHandles (written : Option (List TypeRef)) : List TypeId :=
  written.elim [] typesHandles

/-- The type arguments of a call that may have some are filled in. -/
lemma bindTypeArguments_reads (known : AllKnown s) {written : Option (List TypeRef)}
    (there : s.types.KnowsAll (optionalHandles written)) :
    VisitReads optionalHandles (fun bound => optionalHandles bound.1) (bindTypeArguments written) s := by
  cases written with
  | none => exact .pure knowsAll_nil
  | some written =>
    refine VisitReads.bind (.askFor there) fun scope t asked _ => ?_
    exact (VisitReads.lift (bindTypeArgumentList_reads scope written (asked.allKnown known)
      (asked.knowsAll there))).bind fun bound u _ given => .pure given

/-- The name of a type behind `new` is filled in. -/
lemma bindConstructed_reads (known : AllKnown s) (arity : Nat) {identifier : Identifier}
    (there : s.types.KnowsAll identifier.handles) :
    TypedReads Identifier.handles (bindConstructed arity identifier) s := by
  refine VisitReads.bind (.askFor there) fun scope t asked _ => .get ?_
  have sound := (asked.allKnown known).sound
  split
  · next type found =>
    have type_known : t.types.Knows type := by
      unfold constructedType? at found
      rcases Option.or_eq_some_iff.mp found with builtin | ⟨-, declared⟩
      · split at builtin
        · exact known_builtin? sound _ type builtin
        · cases builtin
      · exact known_find? sound _ _ _ type declared
    refine .pure ?_
    rw [knowsAll_append]
    exact ⟨knowsAll_cons.mpr ⟨type_known, knowsAll_nil⟩, knowsAll_cons.mpr ⟨type_known, knowsAll_nil⟩⟩
  · refine (VisitReads.lift (report_reads (.unknownType identifier.name) knowsAll_nil identifier.span)).bind
      fun _ u reads _ => .pure ?_
    rw [knowsAll_append]
    exact ⟨(asked.trans reads).knowsAll there, knowsAll_nil⟩

/-! ## Expressions -/

lemma operationType_reads (known : AllKnown s) (operator : BinaryOperator) (operatorSpan : Span)
    {left right : Option TypeId} (left_known : s.types.KnowsAll left.toList)
    (right_known : s.types.KnowsAll right.toList) :
    StepReads Option.toList (operationType operator operatorSpan left right) s := by
  have bool : s.types.Knows .bool := known.knows_builtin (by decide)
  unfold operationType
  split
  · next left right =>
    split
    · have both : s.types.KnowsAll [left, right] :=
        knowsAll_cons.mpr ⟨left_known left (by simp), right_known⟩
      exact (report_reads (.operandsDiffer left right) both operatorSpan).bind fun _ t reads _ =>
        .pure (reads.knowsAll left_known)
    · refine .pure ?_
      split
      · exact knowsAll_cons.mpr ⟨bool, knowsAll_nil⟩
      · exact left_known
  · refine .pure ?_
    split
    · exact knowsAll_cons.mpr ⟨bool, knowsAll_nil⟩
    · exact knowsAll_nil

lemma checkIndex_reads (index : Expression) {type : Option TypeId} (known : s.types.KnowsAll type.toList) :
    StepReads (fun _ => []) (checkIndex index type) s := by
  unfold checkIndex
  split
  · next found =>
    refine .get ?_
    split
    · exact .pure knowsAll_nil
    · exact report_reads (.indexNotInt found) known _
  · exact .pure knowsAll_nil

/-- A call is filled in from its arguments to its name, whatever the name is bound to. -/
lemma visitCall_reads {identifier : Identifier} {written : Option (List TypeRef)} {arguments : List Expression}
    {close : Span} (bindName : Nat → List (Option TypeId × Span) → Visit Identifier (Identifier × Option TypeId))
    (known : AllKnown s) (there : s.types.KnowsAll (Link.call identifier written arguments close).handles)
    (visits : s.types.KnowsAll (argumentsHandles arguments) → VisitReads argumentsHandles
      (fun visited => argumentsHandles visited.1 ++ argumentTypes visited.2) (visitArguments arguments) s)
    (binds : ∀ {t} arity found, Reads s t → t.types.KnowsAll (argumentTypes found) →
      t.types.KnowsAll identifier.handles → TypedReads Identifier.handles (bindName arity found) t) :
    TypedReads Link.handles (do
      let visited ← within (.call identifier written · close) (visitArguments arguments)
      let bound ← within (.call identifier · visited.1 close) (bindTypeArguments written)
      let named ← within (.call · bound.1 visited.1 close) (bindName bound.2 visited.2)
      return (Link.call named.1 bound.1 visited.1 close, named.2)) s := by
  simp only [Link.handles, knowsAll_append] at there
  obtain ⟨⟨identifier_there, written_there⟩, arguments_there⟩ := there
  refine VisitReads.bind ((visits arguments_there).within fun node t path given => ?_) fun visited t first given => ?_
  · simp only [Link.handles, knowsAll_append]
    exact ⟨⟨path.knowsAll identifier_there, path.knowsAll written_there⟩, given⟩
  rw [knowsAll_append] at given
  refine VisitReads.bind ((bindTypeArguments_reads (first.allKnown known) (first.knowsAll written_there)).within
    fun node u path types => ?_) fun bound u second types => ?_
  · simp only [Link.handles, knowsAll_append]
    exact ⟨⟨path.knowsAll (first.knowsAll identifier_there), types⟩, path.knowsAll given.1⟩
  have reads := first.trans second
  refine VisitReads.bind ((binds bound.2 visited.2 reads (second.knowsAll given.2)
    (reads.knowsAll identifier_there)).within fun node v path name => ?_) fun named v third name => .pure ?_
  · simp only [Link.handles, knowsAll_append]
    exact ⟨⟨name, path.knowsAll types⟩, path.knowsAll (second.knowsAll given.1)⟩
  · simp only [Link.handles, knowsAll_append] at name ⊢
    exact ⟨⟨⟨name.1, third.knowsAll types⟩, (second.trans third).knowsAll given.1⟩, name.2⟩

mutual

/-- An expression is filled in with known types. -/
lemma visitExpr_reads : ∀ (x : Expr) {s : State}, AllKnown s → s.types.KnowsAll x.handles →
    TypedReads Expr.handles (visitExpr x) s
  | .binary operator operatorSpan left right type, s, known, there => by
    simp only [Expr.handles, knowsAll_append] at there
    obtain ⟨⟨left_there, right_there⟩, type_there⟩ := there
    rw [visitExpr]
    refine VisitReads.bind ((visitExpr_reads left known left_there).within fun node t path given => ?_)
      fun visited t first left_given => ?_
    · simp only [Expr.handles, knowsAll_append]
      exact ⟨⟨given, path.knowsAll right_there⟩, path.knowsAll type_there⟩
    obtain ⟨left', leftType⟩ := visited
    rw [knowsAll_append] at left_given
    have placed : ∀ {u : State} {node : Expr}, Path t u → u.types.KnowsAll node.handles →
        u.types.KnowsAll (Expr.binary operator operatorSpan left' node type).handles := by
      intro u node path given
      simp only [Expr.handles, knowsAll_append]
      exact ⟨⟨path.knowsAll left_given.1, given⟩, path.knowsAll (first.knowsAll type_there)⟩
    refine VisitReads.bind (.askFor (placed .refl (first.knowsAll right_there))) fun call? u asked _ => ?_
    have rest : ∀ {v : State}, Reads t v → TypedReads Expr.handles (do
        let (right, rightType) ← within (.binary operator operatorSpan left' · type) (visitExpr right)
        let type ← operationType operator operatorSpan leftType rightType
        return (.binary operator operatorSpan left' right type, type)) v := by
      intro v reads
      have known := (first.trans reads).allKnown known
      refine VisitReads.bind ((visitExpr_reads right known ((first.trans reads).knowsAll right_there)).within
        fun node w path given => placed (reads.path.trans path) given) fun visited w second right_given => ?_
      obtain ⟨right', rightType⟩ := visited
      rw [knowsAll_append] at right_given
      refine (VisitReads.lift (operationType_reads (second.allKnown known) operator operatorSpan
        ((reads.trans second).knowsAll left_given.2) right_given.2)).bind fun type x third given => .pure ?_
      simp only [Expr.handles, knowsAll_append]
      exact ⟨⟨⟨(reads.trans (second.trans third)).knowsAll left_given.1, third.knowsAll right_given.1⟩, given⟩, given⟩
    cases call? with
    | none => exact rest asked
    | some call =>
      exact (VisitReads.lift (report_reads .assignsToCall knowsAll_nil call)).bind fun _ v reads _ =>
        rest (asked.trans reads)
  | .unary operator operatorSpan operand type, s, known, there => by
    simp only [Expr.handles, knowsAll_append] at there
    rw [visitExpr]
    refine VisitReads.bind ((visitExpr_reads operand known there.1).within fun node t path given => ?_)
      fun visited t first given => .pure ?_
    · simp only [Expr.handles, knowsAll_append]
      exact ⟨given, path.knowsAll there.2⟩
    · simp only [Expr.handles, knowsAll_append] at given ⊢
      exact ⟨given, given.2⟩
  | .chain path, s, known, there => by
    rw [Expr.handles] at there
    rw [visitExpr]
    exact VisitReads.bind ((visitChain_reads path known there).within fun node t _ given => given)
      fun visited t _ given => .pure given
  | .literal kind span type, s, known, there => by
    have builtin : s.types.Knows kind.type := known.knows_builtin (by cases kind <;> decide)
    rw [visitExpr]
    exact .pure (knowsAll_cons.mpr ⟨builtin, knowsAll_cons.mpr ⟨builtin, knowsAll_nil⟩⟩)
  | .new keyword path, s, known, there => by
    rw [Expr.handles] at there
    rw [visitExpr]
    exact VisitReads.bind ((visitNew_reads path known there).within fun node t _ given => given)
      fun visited t _ given => .pure given
  | .newArray keyword element, s, known, there => by
    rw [Expr.handles] at there
    rw [visitExpr]
    refine VisitReads.bind ((visitExpression_reads element known there).within fun node t _ given => given)
      fun visited t first given => ?_
    obtain ⟨filled, type⟩ := visited
    rw [knowsAll_append] at given
    cases type with
    | none => exact .pure (knowsAll_append.mpr ⟨given.1, knowsAll_nil⟩)
    | some type =>
      refine (VisitReads.lift (arrayOf_reads (given.2 type (by simp)))).bind fun array u reads array_known => .pure ?_
      exact knowsAll_append.mpr ⟨reads.knowsAll given.1, array_known⟩
  | .nothing span, s, known, there => by
    rw [visitExpr]
    exact .pure (knowsAll_cons.mpr ⟨known.knows_builtin (by decide), knowsAll_nil⟩)
  | .missing span, s, known, there => by
    rw [visitExpr]
    exact .pure knowsAll_nil

lemma visitExpression_reads : ∀ (x : Expression) {s : State}, AllKnown s → s.types.KnowsAll x.handles →
    TypedReads Expression.handles (visitExpression x) s
  | ⟨root, type⟩, s, known, there => by
    rw [Expression.handles, knowsAll_append] at there
    rw [visitExpression]
    refine VisitReads.bind ((visitExpr_reads root known there.1).within fun node t path given => ?_)
      fun visited t first given => .pure ?_
    · rw [Expression.handles, knowsAll_append]
      exact ⟨given, path.knowsAll there.2⟩
    · simp only [Expression.handles, knowsAll_append] at given ⊢
      exact ⟨given, given.2⟩

lemma visitChain_reads : ∀ (x : Chain) {s : State}, AllKnown s → s.types.KnowsAll x.handles →
    TypedReads Chain.handles (visitChain x) s
  | ⟨links, span, type⟩, s, known, there => by
    rw [Chain.handles, knowsAll_append] at there
    rw [visitChain]
    refine VisitReads.bind ((visitLinks_reads links known knowsAll_nil there.1).within fun node t path given => ?_)
      fun visited t first given => .pure ?_
    · rw [Chain.handles, knowsAll_append]
      exact ⟨given, path.knowsAll there.2⟩
    · simp only [Chain.handles, knowsAll_append] at given ⊢
      exact ⟨given, given.2⟩

lemma visitNew_reads : ∀ (x : Chain) {s : State}, AllKnown s → s.types.KnowsAll x.handles →
    TypedReads Chain.handles (visitNew x) s
  | ⟨[], span, type⟩, s, known, there => by
    rw [visitNew]
    exact .pure (knowsAll_append.mpr ⟨there, knowsAll_nil⟩)
  | ⟨first :: rest, span, type⟩, s, known, there => by
    simp only [Chain.handles, linksHandles, knowsAll_append] at there
    obtain ⟨⟨first_there, rest_there⟩, type_there⟩ := there
    rw [visitNew]
    refine VisitReads.bind ((visitMade_reads first known first_there).within fun node t path given => ?_)
      fun visited t made given => ?_
    · simp only [Chain.handles, linksHandles, knowsAll_append]
      exact ⟨⟨given, path.knowsAll rest_there⟩, path.knowsAll type_there⟩
    obtain ⟨first', type'⟩ := visited
    rw [knowsAll_append] at given
    cases type' with
    | none =>
      refine .pure ?_
      simp only [Chain.handles, linksHandles, knowsAll_append]
      exact ⟨⟨⟨given.1, made.knowsAll rest_there⟩, knowsAll_nil⟩, knowsAll_nil⟩
    | some owner =>
      refine VisitReads.bind ((visitLinks_reads rest (made.allKnown known) given.2
        (made.knowsAll rest_there)).within fun node u path others => ?_) fun visited u reads others => .pure ?_
      · simp only [Chain.handles, linksHandles, knowsAll_append]
        exact ⟨⟨path.knowsAll given.1, others⟩, path.knowsAll (made.knowsAll type_there)⟩
      · simp only [Chain.handles, linksHandles, knowsAll_append] at others ⊢
        exact ⟨⟨⟨reads.knowsAll given.1, others.1⟩, others.2⟩, others.2⟩

lemma visitLinks_reads : ∀ (links : List Link) {owner : Option TypeId} {s : State}, AllKnown s →
    s.types.KnowsAll owner.toList → s.types.KnowsAll (linksHandles links) →
    TypedReads linksHandles (visitLinks owner links) s
  | [], owner, s, known, owner_known, there => by
    rw [visitLinks]
    exact .pure (knowsAll_append.mpr ⟨there, owner_known⟩)
  | link :: rest, owner, s, known, owner_known, there => by
    rw [linksHandles, knowsAll_append] at there
    rw [visitLinks]
    refine VisitReads.bind ((visitLink_reads link known owner_known there.1).within fun node t path given => ?_)
      fun visited t first given => ?_
    · rw [linksHandles, knowsAll_append]
      exact ⟨given, path.knowsAll there.2⟩
    obtain ⟨link', type⟩ := visited
    rw [knowsAll_append] at given
    cases type with
    | none =>
      refine .pure ?_
      simp only [linksHandles, knowsAll_append]
      exact ⟨⟨given.1, first.knowsAll there.2⟩, knowsAll_nil⟩
    | some owner =>
      refine VisitReads.bind ((visitLinks_reads rest (first.allKnown known) given.2
        (first.knowsAll there.2)).within fun node u path others => ?_) fun visited u reads others => .pure ?_
      · rw [linksHandles, knowsAll_append]
        exact ⟨path.knowsAll given.1, others⟩
      · simp only [linksHandles, knowsAll_append] at others ⊢
        exact ⟨⟨reads.knowsAll given.1, others.1⟩, others.2⟩

lemma visitLink_reads : ∀ (x : Link) {owner : Option TypeId} {s : State}, AllKnown s →
    s.types.KnowsAll owner.toList → s.types.KnowsAll x.handles → TypedReads Link.handles (visitLink owner x) s
  | .name identifier, owner, s, known, owner_known, there => by
    rw [visitLink]
    exact VisitReads.bind ((bindVariable_reads known owner_known there).within fun node t _ given => given)
      fun visited t _ given => .pure given
  | .index identifier index close, owner, s, known, owner_known, there => by
    rw [Link.handles, knowsAll_append] at there
    rw [visitLink]
    refine VisitReads.bind ((visitExpression_reads index known there.2).within fun node t path given => ?_)
      fun visited t first inner => ?_
    · rw [Link.handles, knowsAll_append]
      exact ⟨path.knowsAll there.1, given⟩
    obtain ⟨index', indexType⟩ := visited
    rw [knowsAll_append] at inner
    refine (VisitReads.lift (checkIndex_reads index' inner.2)).bind fun _ u checked _ => ?_
    have reads := first.trans checked
    have index_known := checked.knowsAll inner.1
    refine VisitReads.bind ((bindVariable_reads (reads.allKnown known) (reads.knowsAll owner_known)
      (reads.knowsAll there.1)).within fun node v path given => ?_) fun visited v bound name => .get (.pure ?_)
    · rw [Link.handles, knowsAll_append]
      exact ⟨given, path.knowsAll index_known⟩
    obtain ⟨identifier', type⟩ := visited
    rw [knowsAll_append] at name
    simp only [Link.handles, knowsAll_append]
    refine ⟨⟨name.1, bound.knowsAll index_known⟩, fun found mem => ?_⟩
    -- The type is that of the elements of an array, or else the type that was found.
    obtain ⟨type, rfl, rfl⟩ := Option.map_eq_some_iff.mp (Option.mem_toList.mp mem)
    cases e : v.types.element? type with
    | none => exact name.2 type (by simp)
    | some element => exact ((reads.trans bound).allKnown known).elements type element e
  | .call identifier written arguments close, owner, s, known, owner_known, there => by
    rw [visitLink]
    exact visitCall_reads (fun arity found => bindFunction owner arity found identifier) known there
      (visitArguments_reads arguments known) fun arity _ reads found name =>
        bindFunction_reads (reads.allKnown known) (reads.knowsAll owner_known) arity found name

lemma visitMade_reads : ∀ (x : Link) {s : State}, AllKnown s → s.types.KnowsAll x.handles →
    TypedReads Link.handles (visitMade x) s
  | .name identifier, s, known, there => by
    rw [visitMade]
    exact .pure (knowsAll_append.mpr ⟨there, knowsAll_nil⟩)
  | .index identifier index close, s, known, there => by
    rw [Link.handles, knowsAll_append] at there
    rw [visitMade]
    refine VisitReads.bind ((visitExpression_reads index known there.2).within fun node t path given => ?_)
      fun visited t first inner => ?_
    · rw [Link.handles, knowsAll_append]
      exact ⟨path.knowsAll there.1, given⟩
    obtain ⟨index', indexType⟩ := visited
    rw [knowsAll_append] at inner
    refine (VisitReads.lift (checkIndex_reads index' inner.2)).bind fun _ u checked _ => ?_
    have reads := first.trans checked
    have index_known := checked.knowsAll inner.1
    refine VisitReads.bind ((bindConstructed_reads (reads.allKnown known) 0 (reads.knowsAll there.1)).within
      fun node v path given => ?_) fun visited v bound name => ?_
    · rw [Link.handles, knowsAll_append]
      exact ⟨given, path.knowsAll index_known⟩
    obtain ⟨identifier', element⟩ := visited
    rw [knowsAll_append] at name
    have filled : ∀ {w : State}, Reads v w → w.types.KnowsAll (Link.index identifier' index' close).handles := by
      intro w reads
      rw [Link.handles, knowsAll_append]
      exact ⟨reads.knowsAll name.1, (bound.trans reads).knowsAll index_known⟩
    cases element with
    | none => exact .pure (knowsAll_append.mpr ⟨filled (.refl v), knowsAll_nil⟩)
    | some element =>
      refine (VisitReads.lift (arrayOf_reads (name.2 element (by simp)))).bind fun array w reads array_known => .pure ?_
      exact knowsAll_append.mpr ⟨filled reads, array_known⟩
  | .call identifier written arguments close, s, known, there => by
    rw [visitMade]
    exact visitCall_reads (fun arity _ => bindConstructed arity identifier) known there
      (visitArguments_reads arguments known) fun arity _ reads _ name =>
        bindConstructed_reads (reads.allKnown known) arity name

lemma visitArguments_reads : ∀ (arguments : List Expression) {s : State}, AllKnown s →
    s.types.KnowsAll (argumentsHandles arguments) →
    VisitReads argumentsHandles (fun visited => argumentsHandles visited.1 ++ argumentTypes visited.2)
      (visitArguments arguments) s
  | [], s, known, there => by
    rw [visitArguments]
    exact .pure knowsAll_nil
  | argument :: rest, s, known, there => by
    rw [argumentsHandles, knowsAll_append] at there
    rw [visitArguments]
    refine VisitReads.bind ((visitExpression_reads argument known there.1).within fun node t path given => ?_)
      fun visited t first given => ?_
    · rw [argumentsHandles, knowsAll_append]
      exact ⟨given, path.knowsAll there.2⟩
    rw [knowsAll_append] at given
    refine VisitReads.bind ((visitArguments_reads rest (first.allKnown known) (first.knowsAll there.2)).within
      fun node u path others => ?_) fun visited u second others => .pure ?_
    · rw [argumentsHandles, knowsAll_append]
      exact ⟨path.knowsAll given.1, others⟩
    · simp only [argumentsHandles, argumentTypes, List.flatMap_cons, knowsAll_append] at others ⊢
      exact ⟨⟨second.knowsAll given.1, others.1⟩, second.knowsAll given.2, others.2⟩

end

end ArrowScript.Analysis
