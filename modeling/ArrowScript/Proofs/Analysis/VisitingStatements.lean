import ArrowScript.Proofs.Analysis.Declaring
import ArrowScript.Proofs.Analysis.VisitingExpressions

/-!
# Visiting statements

In a state that a program was laid in, the program is visited without a fault. Every name in it is bound to
what the rule of lexical scoping says (`Fills`), and what the program declares is the same as before, so the
rule may be read on the visited tree.
-/

namespace ArrowScript.Analysis
open Token

variable {P : Piece → Prop} {members : List (Option Owner)} {table : ScopeTable} {s t u : State}
  {outer : Option ScopeId} {scope : ScopeId} {around : List Owner} {file : String}

/-! ## What a visit of statements gives -/

/-- What a visit of part of a program gives: types of variables, and names that mean what the rule says. -/
structure Fills (P : Piece → Prop) (members : List (Option Owner)) (around : List Owner) (s t : State)
    (inferred : List (NodeId × TypeId)) (meaning : Surroundings → Prop) : Prop where
  visits : Visits inferred s t
  means : Exact P → ∀ w, Later t w → meaning ⟨w, members, around, s.inferredTypes⟩

/-- A visit of an expression finds no types of variables. -/
lemma Sees.fills {type : Option TypeId} {meaning : Surroundings → Prop}
    (h : Sees P members around s t type meaning) : Fills P members around s t [] meaning :=
  ⟨h.visits, h.means⟩

namespace Fills

variable {inferred more : List (NodeId × TypeId)} {meaning meaning' : Surroundings → Prop}

/-- Nothing is named. -/
lemma nothing (holds : ∀ around, meaning around) : Fills P members around s s [] meaning :=
  ⟨.refl s, fun _ _ _ => holds _⟩

/-- The same in other words. -/
lemma cast {inferred' : List (NodeId × TypeId)} (h : Fills P members around s t inferred meaning)
    (same : inferred = inferred') (implies : ∀ around, meaning around → meaning' around) :
    Fills P members around s t inferred' meaning' :=
  ⟨h.visits.cast same, fun exact w later => implies _ (h.means exact w later)⟩

/-- Two things were filled in one after the other. -/
lemma trans (h : Fills P members around s t inferred meaning)
    (g : Fills P members around t u more meaning') :
    Fills P members around s u (more ++ inferred) fun around =>
      meaning around ∧ meaning' (around.after inferred) where
  visits := h.visits.trans g.visits
  means := fun exact w later => by
    refine ⟨h.means exact w (g.visits.later.trans later), ?_⟩
    have means := g.means exact w later
    rw [h.visits.inferredTypes] at means
    exact means

/-- What was filled in after some visit was filled in from its start on. -/
lemma since (h : Fills P members around t u inferred meaning) (visits : Visits [] s t) :
    Fills P members around s u inferred meaning where
  visits := (visits.trans h.visits).cast (List.append_nil _)
  means := by
    rw [show s.inferredTypes = t.inferredTypes from visits.inferredTypes.symm]
    exact h.means

/-- Something was filled in inside a scope. -/
lemma inside {owner : Owner} (h : Fills P members (owner :: around)
    { s with active := scope :: s.active } t inferred meaning) :
    Fills P members around s { t with active := t.active.tail } inferred fun around =>
      meaning (around.inside owner) :=
  ⟨h.visits.inside, fun exact w later => h.means exact w (later.same rfl rfl)⟩

/-- Something was filled in inside a function body. -/
lemma insideFunction
    (h : Fills P members around { s with functionDepth := s.functionDepth + 1 } t inferred meaning) :
    Fills P members around s { t with functionDepth := t.functionDepth - 1 } inferred meaning :=
  ⟨h.visits.insideFunction, fun exact w later => h.means exact w (later.same rfl rfl)⟩

/-- Something was filled in where a type is to be returned. -/
lemma returningType {type : Option TypeId}
    (h : Fills P members around { s with returnTypes := type :: s.returnTypes } t inferred meaning) :
    Fills P members around s { t with returnTypes := t.returnTypes.tail } inferred meaning :=
  ⟨h.visits.returningType, fun exact w later => h.means exact w (later.same rfl rfl)⟩

end Fills

/-- A visit goes on in a scope of its own. -/
lemma Visiting.enter {node : NodeId} {owner : Owner}
    (h : Visiting P members table s outer around) (stands : Stands P table outer node owner scope) :
    Visiting P members table { s with active := scope :: s.active } (some scope) (owner :: around) where
  sound := h.sound.same rfl rfl rfl rfl
  table := h.table
  homes := h.homes
  active := rfl
  around := by
    obtain ⟨found, get, parent, agreed⟩ := stands.found
    have owners := h.around
    have below := stands.below
    rw [← h.table] at get
    rw [← parent] at owners below
    exact .inside get agreed below owners

/-- A visit goes on where a type is to be returned. -/
lemma Visiting.returning (h : Visiting P members table s outer around) (type : Option TypeId) :
    Visiting P members table { s with returnTypes := type :: s.returnTypes } outer around :=
  ⟨h.sound.same rfl rfl rfl rfl, h.table, h.homes, h.active, h.around⟩

/-- A visit goes on inside a function body. -/
lemma Visiting.insideFunction (h : Visiting P members table s outer around) :
    Visiting P members table { s with functionDepth := s.functionDepth + 1 } outer around :=
  ⟨h.sound.same rfl rfl rfl rfl, h.table, h.homes, h.active, h.around⟩

/-- The scope of a node is there. -/
lemma reopen_of_stands {node : NodeId} {owner : Owner} (same : s.scopes = table)
    (stands : Stands P table outer node owner scope) : s.scopes.reopen node = .ok scope := by
  rw [same, ScopeTable.reopen, stands.closed]

/-! ## Declarations -/

/-- An optional expression is visited without a fault. -/
lemma visitOptional_succeeds (sameFile : ∀ piece, P piece → piece.span.file = file)
    (visiting : Visiting P members table s (some scope) around) (value : Option Expression)
    (pieces : ∀ piece ∈ value.elim [] Expression.pieces, P piece) :
    Succeeds (visitOptional visitExpression value) s fun r t =>
      Sees P members around s t r.2 fun around => ∀ value ∈ r.1, value.Scoped around := by
  cases value with
  | none => exact .pure (.nothing nofun fun _ => nofun)
  | some value =>
    refine .bind (.within ((visitExpression_succeeds sameFile value visiting pieces).mono
      fun r t sees => .pure (sees.cast sees.known fun around means => ?_)))
    rintro _ ⟨⟩
    exact means

/-- Comparing a type with the expected one changes nothing that is known. -/
lemma checkExpected_resolves (problem : TypeId → TypeId → SemanticProblem)
    (expected found : Option TypeId) (span : Span) :
    Leads (checkExpected problem expected found span) s fun _ t => Resolves s t := by
  unfold checkExpected
  split
  · refine Leads.bind (Leads.get ?_)
    split
    · exact .pure (.refl s)
    · exact report_resolves _ _
  · exact .pure (.refl s)

/-- A variable has the type that was found for it from then on. -/
lemma visits_inferred {node : NodeId} {type : TypeId} (known : Known s (some type)) :
    Visits [(node, type)] s { s with inferredTypes := (node, type) :: s.inferredTypes } where
  frame := ⟨rfl, rfl, rfl⟩
  scopes := rfl
  later := (Later.refl _).same rfl rfl
  inferredTypes := rfl
  sound := fun sound => by
    refine ⟨sound.builtins, sound.scopes.same rfl rfl, sound.declared, fun other => ?_⟩
    show Known s (((node, type) :: s.inferredTypes).lookup other)
    rw [List.lookup_cons]
    split
    · exact known
    · exact sound.inferred other

/-- A declaration is visited without a fault, and declares the same as before. -/
lemma visitDeclaration_succeeds (sameFile : ∀ piece, P piece → piece.span.file = file)
    (visiting : Visiting P members table s (some scope) around) (declaration : Declaration)
    (pieces : ∀ piece ∈ declaration.pieces, P piece) :
    Succeeds (visitDeclaration declaration) s fun r t =>
      Fills P members around s t r.inferred (fun around => r.Scoped around) ∧
        r.declares = declaration.declares := by
  obtain ⟨id, name, written, initial, type⟩ := declaration
  have inner : ∀ piece ∈ initial.elim [] Expression.pieces, P piece :=
    fun piece mem => pieces piece (List.mem_cons_of_mem _ (List.mem_append_right _ mem))
  refine .bind (.askFor visiting.innermost ?_)
  cases written with
  | some written =>
    refine .bind (.lift ((bindDeclared_visits id scope written).mono fun r t first => ?_))
    refine .bind (.within ((visitOptional_succeeds sameFile (visiting.after first.1) initial
      inner).mono fun r u second => ?_))
    have both := second.since first.1
    obtain ⟨initial', found⟩ := r
    cases initial' with
    | none => exact .pure ⟨both.fills, rfl⟩
    | some value =>
      refine .bind (.lift ((checkExpected_resolves _ _ _ _).mono fun _ v checked => .pure ?_))
      exact ⟨(both.upto checked.toVisits).fills, rfl⟩
  | none =>
    refine .bind (.within ((visitOptional_succeeds sameFile visiting initial inner).mono
      fun r t first => ?_))
    obtain ⟨initial', found⟩ := r
    cases found with
    | none => exact .pure ⟨first.fills, rfl⟩
    | some type =>
      refine .bind (.changed (.pure ⟨⟨first.visits.trans (visits_inferred first.known), ?_⟩, rfl⟩))
      exact fun exact w later => first.means exact w (later.same rfl rfl)

/-- Declarations are visited without a fault, and declare the same as before. -/
lemma visitDeclarations_succeeds (sameFile : ∀ piece, P piece → piece.span.file = file)
    (visiting : Visiting P members table s (some scope) around) (fields : List Declaration)
    (pieces : ∀ piece ∈ fields.flatMap Declaration.pieces, P piece) :
    Succeeds (visitDeclarations fields) s fun r t =>
      Fills P members around s t (fieldsInferred r) (fun around => fieldsScoped around r) ∧
        fieldOwner r = fieldOwner fields := by
  induction fields generalizing s with
  | nil => exact .pure ⟨.nothing fun _ => trivial, rfl⟩
  | cons field rest ih =>
    rw [List.flatMap_cons] at pieces
    refine .bind (.within ((visitDeclaration_succeeds sameFile visiting field
      fun piece mem => pieces piece (List.mem_append_left _ mem)).mono fun field' t head => ?_))
    refine .bind (.within ((ih (visiting.after head.1.visits)
      fun piece mem => pieces piece (List.mem_append_right _ mem)).mono fun rest' u tail => ?_))
    refine .pure ⟨head.1.trans tail.1, ?_⟩
    rw [fieldOwner, fieldOwner, head.2, tail.2]

/-! ## Functions -/

/-- Parameters are visited without a fault, and declare the same as before. -/
lemma visitParameters_visits (parameters : List Parameter) :
    Leads (visitParameters scope parameters) s fun r t =>
      Visits [] s t ∧ parameterOwner r = parameterOwner parameters := by
  unfold visitParameters
  induction parameters generalizing s with
  | nil => exact ⟨.refl s, rfl⟩
  | cons parameter rest ih =>
    rw [List.mapM_cons]
    refine Leads.bind (Leads.bind ((bindDeclared_visits parameter.id scope parameter.written).mono
      fun r t first => Leads.pure (Leads.bind (ih.mono fun others u second => ?_))))
    exact ⟨first.1.trans second.1, congrArg (Owner.ofVariable _ _ _ ++ ·) second.2⟩

/-- The type that a function returns stays written or not. -/
lemma visitReturns_visits (node : NodeId) (returns : Option TypeRef) :
    Leads (visitReturns node scope returns) s fun r t =>
      Visits [] s t ∧ r.1.isSome = returns.isSome := by
  cases returns with
  | none => exact ⟨.refl s, rfl⟩
  | some written =>
    exact Leads.bind ((bindDeclared_visits node scope written).mono fun r t first => ⟨first.1, rfl⟩)

/-- A returned value is visited without a fault. -/
lemma visitReturning_succeeds (sameFile : ∀ piece, P piece → piece.span.file = file)
    (visiting : Visiting P members table s (some scope) around) (keyword : Span)
    (value : Option Expression) (pieces : ∀ piece ∈ value.elim [] Expression.pieces, P piece) :
    Succeeds (visitReturning keyword value) s fun r t =>
      Fills P members around s t [] fun around => ∀ value ∈ r, value.Scoped around := by
  refine .bind ((visitOptional_succeeds sameFile visiting value pieces).mono fun r t first => ?_)
  refine .bind (.get (.bind (.lift ((checkExpected_resolves _ _ _ _).mono fun _ u second => ?_))))
  exact .pure (first.upto second.toVisits).fills

/-! ## Trees -/

mutual

/-- A block is visited without a fault. -/
lemma visitBlock_succeeds (sameFile : ∀ piece, P piece → piece.span.file = file) :
    ∀ (block : Block) {s : State} {outer : Option ScopeId} {around : List Owner} {nested : Bool}
      {base : Nat}, Visiting P members table s outer around → decide (0 < s.functionDepth) = nested →
    block.Laid P table nested base outer → (∀ piece ∈ block.pieces, P piece) →
    Succeeds (visitBlock block) s fun r t =>
      Fills P members around s t (r.inferred nested) (fun around => r.Scoped nested base around) ∧
        ∀ base, r.registrations nested base = block.registrations nested base
  | ⟨id, kind, statements, span⟩, s, outer, around, nested, base, visiting, depth, laid, pieces => by
    rw [Block.pieces] at pieces
    rw [Block.Laid] at laid
    obtain ⟨own, stands, laid⟩ := laid
    rw [visitBlock]
    refine .bind (.askFor (reopen_of_stands visiting.table stands) (.bind (.lift (.changed ?_))))
    refine .bind (.within ((visitStatements_succeeds sameFile statements (visiting.enter stands)
      depth laid fun piece mem => pieces piece (List.mem_cons_of_mem _ mem)).mono
      fun r t inner => .bind (.lift (.changed (.pure ?_)))))
    obtain ⟨fills, same⟩ := inner
    rw [← (same base).1] at fills
    refine ⟨fills.inside.cast (by rw [Block.inferred]) fun around means => ?_, fun base => ?_⟩
    · rw [Block.Scoped]
      exact means
    · rw [Block.registrations, Block.registrations, (same base).2]

lemma visitStatements_succeeds (sameFile : ∀ piece, P piece → piece.span.file = file) :
    ∀ (list : List Statement) {s : State} {scope : ScopeId} {around : List Owner} {nested : Bool}
      {base : Nat}, Visiting P members table s (some scope) around →
    decide (0 < s.functionDepth) = nested → statementsLaid P table nested base scope list →
    (∀ piece ∈ statementPieces list, P piece) →
    Succeeds (visitStatements list) s fun r t =>
      Fills P members around s t (statementsInferred nested r)
          (fun around => statementsScoped nested base around r) ∧
        ∀ base, statementOwner nested base r = statementOwner nested base list ∧
          statementRegistrations nested base r = statementRegistrations nested base list
  | [], s, scope, around, nested, base, visiting, depth, laid, pieces => by
    rw [visitStatements]
    refine .pure ⟨?_, fun base => ⟨rfl, rfl⟩⟩
    rw [statementsInferred]
    refine .nothing fun around => ?_
    rw [statementsScoped]
    trivial
  | statement :: rest, s, scope, around, nested, base, visiting, depth, laid, pieces => by
    rw [statementPieces] at pieces
    rw [statementsLaid] at laid
    rw [visitStatements]
    refine .bind (.within ((visitStatement_succeeds sameFile statement visiting depth laid.1
      fun piece mem => pieces piece (List.mem_append_left _ mem)).mono fun statement' t head => ?_))
    obtain ⟨head, same⟩ := head
    have depth : decide (0 < t.functionDepth) = nested := by rw [head.visits.frame.functionDepth, depth]
    refine .bind (.within ((visitStatements_succeeds sameFile rest (visiting.after head.visits) depth
      laid.2 fun piece mem => pieces piece (List.mem_append_right _ mem)).mono
      fun rest' u tail => .pure ?_))
    obtain ⟨tail, same'⟩ := tail
    rw [← (same base).2] at tail
    refine ⟨(head.trans tail).cast ?_ fun around means => ?_, fun base => ⟨?_, ?_⟩⟩
    · rw [statementsInferred]
    · rw [statementsScoped]
      exact means
    · rw [statementOwner, statementOwner, (same base).1, (same base).2, (same' _).1]
    · rw [statementRegistrations, statementRegistrations, (same base).2, (same' _).2]

lemma visitStatement_succeeds (sameFile : ∀ piece, P piece → piece.span.file = file) :
    ∀ (statement : Statement) {s : State} {scope : ScopeId} {around : List Owner} {nested : Bool}
      {base : Nat}, Visiting P members table s (some scope) around →
    decide (0 < s.functionDepth) = nested → statement.Laid P table nested base scope →
    (∀ piece ∈ statement.pieces, P piece) →
    Succeeds (visitStatement statement) s fun r t =>
      Fills P members around s t (r.inferred nested)
          (fun around => r.Scoped nested base around) ∧
        ∀ base, r.declares nested base = statement.declares nested base ∧
          r.registrations nested base = statement.registrations nested base
  | .type definition, s, scope, around, nested, base, visiting, depth, laid, pieces => by
    rw [Statement.pieces] at pieces
    rw [Statement.Laid] at laid
    rw [visitStatement]
    refine .bind (.get ?_)
    cases nested with
    | true =>
      -- A definition inside a function was reported when it was declared and is left as it is.
      rw [if_pos (of_decide_eq_true depth)]
      refine .pure ⟨(Fills.nothing fun _ => ?_).cast ?_ fun _ means => means, fun base => ⟨rfl, rfl⟩⟩
      · rw [Statement.Scoped]
        exact .inl rfl
      · rw [Statement.inferred, if_pos rfl]
    | false =>
      rw [if_neg (of_decide_eq_false depth)]
      have laid := laid.resolve_left Bool.false_ne_true
      refine .bind (.within ((visitTypeDef_succeeds sameFile definition visiting laid pieces).mono
        fun r t filled => .pure ?_))
      obtain ⟨fills, declares, registrations⟩ := filled
      refine ⟨fills.cast ?_ fun around means => ?_, fun base => ⟨declares base, ?_⟩⟩
      · simp [Statement.inferred]
      · rw [Statement.Scoped]
        exact .inr means
      · simp [Statement.registrations, registrations base]
  | .function definition, s, scope, around, nested, base, visiting, depth, laid, pieces => by
    rw [Statement.pieces] at pieces
    rw [Statement.Laid] at laid
    rw [visitStatement]
    refine .bind (.get ?_)
    cases nested with
    | true =>
      rw [if_pos (of_decide_eq_true depth)]
      refine .pure ⟨(Fills.nothing fun _ => ?_).cast ?_ fun _ means => means, fun base => ⟨rfl, rfl⟩⟩
      · rw [Statement.Scoped]
        exact .inl rfl
      · rw [Statement.inferred, if_pos rfl]
    | false =>
      rw [if_neg (of_decide_eq_false depth)]
      have laid := laid.resolve_left Bool.false_ne_true
      refine .bind (.within ((visitFunctionDef_succeeds sameFile definition visiting laid
        pieces).mono fun r t filled => .pure ?_))
      obtain ⟨fills, declares, registrations⟩ := filled
      refine ⟨fills.cast ?_ fun around means => ?_, fun base => ⟨declares, ?_⟩⟩
      · simp [Statement.inferred]
      · rw [Statement.Scoped]
        exact .inr means
      · simp [Statement.registrations, registrations]
  | .variable declaration, s, scope, around, nested, base, visiting, depth, laid, pieces => by
    rw [Statement.pieces] at pieces
    rw [visitStatement]
    refine .bind (.within ((visitDeclaration_succeeds sameFile visiting declaration pieces).mono
      fun r t filled => .pure ?_))
    obtain ⟨fills, declares⟩ := filled
    refine ⟨fills.cast ?_ fun around means => ?_, fun base => ⟨declares, ?_⟩⟩
    · rw [Statement.inferred]
    · rw [Statement.Scoped]
      exact means
    · rw [Statement.registrations, Statement.registrations]
  | .returning keyword value, s, scope, around, nested, base, visiting, depth, laid, pieces => by
    rw [Statement.pieces] at pieces
    rw [visitStatement]
    refine .bind (.within ((visitReturning_succeeds sameFile visiting keyword value
      fun piece mem => pieces piece (List.mem_cons_of_mem _ mem)).mono fun r t fills => .pure ?_))
    refine ⟨fills.cast ?_ fun around means => ?_, fun base => ⟨rfl, ?_⟩⟩
    · rw [Statement.inferred]
    · rw [Statement.Scoped]
      exact means
    · rw [Statement.registrations, Statement.registrations]
  | .whileLoop keyword condition body, s, scope, around, nested, base, visiting, depth, laid,
      pieces => by
    rw [Statement.pieces] at pieces
    rw [Statement.Laid] at laid
    rw [visitStatement]
    refine .bind (.within ((visitExpression_succeeds sameFile condition visiting fun piece mem =>
      pieces piece (List.mem_cons_of_mem _ (List.mem_append_left _ mem))).mono
      fun r t first => ?_))
    have depth : decide (0 < t.functionDepth) = nested := by
      rw [first.visits.frame.functionDepth, depth]
    refine .bind (.within ((visitBlock_succeeds sameFile body (visiting.after first.visits) depth laid
      fun piece mem => pieces piece (List.mem_cons_of_mem _ (List.mem_append_right _ mem))).mono
      fun body' u second => .pure ?_))
    refine ⟨(first.fills.trans second.1).cast ?_ fun around means => ?_, fun base => ⟨rfl, ?_⟩⟩
    · rw [Statement.inferred, List.append_nil]
    · rw [Statement.Scoped]
      exact means
    · rw [Statement.registrations, Statement.registrations, second.2]
  | .conditional conditional, s, scope, around, nested, base, visiting, depth, laid, pieces => by
    rw [Statement.pieces] at pieces
    rw [Statement.Laid] at laid
    rw [visitStatement]
    refine .bind (.within ((visitConditional_succeeds sameFile conditional visiting depth laid
      pieces).mono fun r t filled => .pure ?_))
    refine ⟨filled.1.cast ?_ fun around means => ?_, fun base => ⟨rfl, ?_⟩⟩
    · rw [Statement.inferred]
    · rw [Statement.Scoped]
      exact means
    · rw [Statement.registrations, Statement.registrations, filled.2]
  | .expression expression, s, scope, around, nested, base, visiting, depth, laid, pieces => by
    rw [Statement.pieces] at pieces
    rw [visitStatement]
    refine .bind (.within ((visitExpression_succeeds sameFile expression visiting pieces).mono
      fun r t sees => .pure ?_))
    refine ⟨sees.fills.cast ?_ fun around means => ?_, fun base => ⟨rfl, ?_⟩⟩
    · rw [Statement.inferred]
    · rw [Statement.Scoped]
      exact means
    · rw [Statement.registrations, Statement.registrations]
  | .breaking _, s, scope, around, nested, base, visiting, depth, laid, pieces
  | .continuing _, s, scope, around, nested, base, visiting, depth, laid, pieces
  | .importing .., s, scope, around, nested, base, visiting, depth, laid, pieces
  | .path .., s, scope, around, nested, base, visiting, depth, laid, pieces => by
    rw [visitStatement]
    refine .pure ⟨(Fills.nothing fun _ => ?_).cast ?_ fun _ means => means, fun base => ⟨rfl, rfl⟩⟩
    · rw [Statement.Scoped]
      trivial
    · rw [Statement.inferred]

lemma visitConditional_succeeds (sameFile : ∀ piece, P piece → piece.span.file = file) :
    ∀ (conditional : Conditional) {s : State} {scope : ScopeId} {around : List Owner} {nested : Bool}
      {base : Nat}, Visiting P members table s (some scope) around →
    decide (0 < s.functionDepth) = nested → conditional.Laid P table nested base scope →
    (∀ piece ∈ conditional.pieces, P piece) →
    Succeeds (visitConditional conditional) s fun r t =>
      Fills P members around s t (r.inferred nested)
          (fun around => r.Scoped nested base around) ∧
        ∀ base, r.registrations nested base = conditional.registrations nested base
  | ⟨condition, body, otherwise, keyword⟩, s, scope, around, nested, base, visiting, depth, laid,
      pieces => by
    rw [Conditional.pieces] at pieces
    rw [Conditional.Laid] at laid
    rw [visitConditional]
    refine .bind (.within ((visitExpression_succeeds sameFile condition visiting fun piece mem =>
      pieces piece (List.mem_cons_of_mem _ (List.mem_append_left _ mem))).mono
      fun r t first => ?_))
    have depth : decide (0 < t.functionDepth) = nested := by
      rw [first.visits.frame.functionDepth, depth]
    refine .bind (.within ((visitBlock_succeeds sameFile body (visiting.after first.visits) depth laid.1
      fun piece mem => pieces piece (List.mem_cons_of_mem _ (List.mem_append_right _
        (List.mem_append_left _ mem)))).mono fun body' u second => ?_))
    obtain ⟨second, same⟩ := second
    have visits := first.visits.trans second.visits
    have depth : decide (0 < u.functionDepth) = nested := by
      rw [second.visits.frame.functionDepth, depth]
    refine .bind (.within ((visitOtherwise_succeeds sameFile otherwise (visiting.after visits) depth
      laid.2 fun piece mem => pieces piece (List.mem_cons_of_mem _ (List.mem_append_right _
        (List.mem_append_right _ mem)))).mono fun otherwise' v third => .pure ?_))
    obtain ⟨third, same'⟩ := third
    rw [← same base] at third
    refine ⟨((first.fills.trans second).trans third).cast ?_ fun around means => ?_, fun base => ?_⟩
    · rw [Conditional.inferred, List.append_nil]
    · rw [Conditional.Scoped]
      obtain ⟨⟨first, second⟩, third⟩ := means
      rw [List.append_nil] at third
      exact ⟨first, second, third⟩
    · rw [Conditional.registrations, Conditional.registrations, same, same']

lemma visitOtherwise_succeeds (sameFile : ∀ piece, P piece → piece.span.file = file) :
    ∀ (otherwise : Otherwise) {s : State} {scope : ScopeId} {around : List Owner} {nested : Bool}
      {base : Nat}, Visiting P members table s (some scope) around →
    decide (0 < s.functionDepth) = nested → otherwise.Laid P table nested base scope →
    (∀ piece ∈ otherwise.pieces, P piece) →
    Succeeds (visitOtherwise otherwise) s fun r t =>
      Fills P members around s t (r.inferred nested)
          (fun around => r.Scoped nested base around) ∧
        ∀ base, r.registrations nested base = otherwise.registrations nested base
  | .nothing, s, scope, around, nested, base, visiting, depth, laid, pieces => by
    rw [visitOtherwise]
    refine .pure ⟨(Fills.nothing fun _ => ?_).cast ?_ fun _ means => means, fun base => rfl⟩
    · rw [Otherwise.Scoped]
      trivial
    · rw [Otherwise.inferred]
  | .conditional conditional, s, scope, around, nested, base, visiting, depth, laid, pieces => by
    rw [Otherwise.pieces] at pieces
    rw [Otherwise.Laid] at laid
    rw [visitOtherwise]
    refine .bind (.within ((visitConditional_succeeds sameFile conditional visiting depth laid
      pieces).mono fun r t filled => .pure ?_))
    refine ⟨filled.1.cast ?_ fun around means => ?_, fun base => ?_⟩
    · rw [Otherwise.inferred]
    · rw [Otherwise.Scoped]
      exact means
    · rw [Otherwise.registrations, Otherwise.registrations, filled.2]
  | .block block, s, scope, around, nested, base, visiting, depth, laid, pieces => by
    rw [Otherwise.pieces] at pieces
    rw [Otherwise.Laid] at laid
    rw [visitOtherwise]
    refine .bind (.within ((visitBlock_succeeds sameFile block visiting depth laid pieces).mono
      fun r t filled => .pure ?_))
    refine ⟨filled.1.cast ?_ fun around means => ?_, fun base => ?_⟩
    · rw [Otherwise.inferred]
    · rw [Otherwise.Scoped]
      exact means
    · rw [Otherwise.registrations, Otherwise.registrations, filled.2]

lemma visitFunctionDef_succeeds (sameFile : ∀ piece, P piece → piece.span.file = file) :
    ∀ (definition : FunctionDef) {s : State} {scope : ScopeId} {around : List Owner} {base : Nat},
    Visiting P members table s (some scope) around → definition.Laid P table base scope →
    (∀ piece ∈ definition.pieces, P piece) →
    Succeeds (visitFunctionDef definition) s fun r t =>
      Fills P members around s t r.inferred (fun around => r.Scoped base around) ∧
        r.declares = definition.declares ∧ r.registrations = definition.registrations
  | ⟨id, name, typeParameters, parameters, returns, body, keyword⟩, s, scope, around, base, visiting,
      laid, pieces => by
    rw [FunctionDef.pieces] at pieces
    have pieces : ∀ piece ∈ body.pieces, P piece := fun piece mem => pieces piece (by simp [mem])
    rw [FunctionDef.Laid] at laid
    obtain ⟨own, stands, laid⟩ := laid
    have inside := visiting.enter stands
    rw [visitFunctionDef]
    refine .bind (.askFor (reopen_of_stands visiting.table stands) (.bind (.lift (.changed ?_))))
    refine .bind (.lift ((visitParameters_visits parameters).mono fun parameters' t first => ?_))
    refine .bind (.lift ((visitReturns_visits id returns).mono fun r u second => ?_))
    obtain ⟨first, owner⟩ := first
    obtain ⟨second, written⟩ := second
    have visits := first.trans second
    have body_visiting := ((inside.after visits).returning r.2).insideFunction
    refine .bind (.within (.returningType (.insideFunction ((visitBlock_succeeds sameFile body
      body_visiting (decide_eq_true (Nat.succ_pos _)) laid pieces).mono
      fun body' v inner => .bind (.lift (.changed (.pure ?_)))))))
    refine ⟨(inner.1.insideFunction.returningType.since visits).inside.cast ?_
      fun around means => ?_, ?_, ?_⟩
    · rw [FunctionDef.inferred]
    · rw [FunctionDef.Scoped, FunctionDef.owner, owner]
      exact means
    · rw [FunctionDef.declares, FunctionDef.declares, written]
    · rw [FunctionDef.registrations, FunctionDef.registrations]

lemma visitFunctionDefs_succeeds (sameFile : ∀ piece, P piece → piece.span.file = file) :
    ∀ (definitions : List FunctionDef) {s : State} {scope : ScopeId} {around : List Owner}
      {base : Nat}, Visiting P members table s (some scope) around →
    functionsLaid P table base scope definitions → (∀ piece ∈ functionPieces definitions, P piece) →
    Succeeds (visitFunctionDefs definitions) s fun r t =>
      Fills P members around s t (functionsInferred r) (fun around => functionsScoped base around r) ∧
        functionOwner r = functionOwner definitions ∧
        functionRegistrations r = functionRegistrations definitions
  | [], s, scope, around, base, visiting, laid, pieces => by
    rw [visitFunctionDefs]
    refine .pure ⟨?_, rfl, rfl⟩
    rw [functionsInferred]
    refine .nothing fun around => ?_
    rw [functionsScoped]
    trivial
  | definition :: rest, s, scope, around, base, visiting, laid, pieces => by
    rw [functionPieces] at pieces
    rw [functionsLaid] at laid
    rw [visitFunctionDefs]
    refine .bind (.within ((visitFunctionDef_succeeds sameFile definition visiting laid.1
      fun piece mem => pieces piece (List.mem_append_left _ mem)).mono fun definition' t head => ?_))
    obtain ⟨head, declares, registrations⟩ := head
    refine .bind (.within ((visitFunctionDefs_succeeds sameFile rest (visiting.after head.visits)
      laid.2 fun piece mem => pieces piece (List.mem_append_right _ mem)).mono
      fun rest' u tail => .pure ?_))
    obtain ⟨tail, owner, others⟩ := tail
    rw [← registrations] at tail
    refine ⟨(head.trans tail).cast ?_ fun around means => ?_, ?_, ?_⟩
    · rw [functionsInferred]
    · rw [functionsScoped]
      exact means
    · rw [functionOwner, functionOwner, declares, owner]
    · rw [functionRegistrations, functionRegistrations, registrations, others]

lemma visitTypeDef_succeeds (sameFile : ∀ piece, P piece → piece.span.file = file) :
    ∀ (definition : TypeDef) {s : State} {scope : ScopeId} {around : List Owner} {base : Nat},
    Visiting P members table s (some scope) around → definition.Laid P table base scope →
    (∀ piece ∈ definition.pieces, P piece) →
    Succeeds (visitTypeDef definition) s fun r t =>
      Fills P members around s t r.inferred (fun around => r.Scoped base around) ∧
        (∀ base, (Statement.type r).declares false base =
          (Statement.type definition).declares false base) ∧
        ∀ base, r.registrations base = definition.registrations base
  | ⟨id, name, typeParameters, fields, methods, keyword, binding⟩, s, scope, around, base, visiting,
      laid, pieces => by
    rw [TypeDef.pieces] at pieces
    rw [TypeDef.Laid] at laid
    obtain ⟨own, stands, laid⟩ := laid
    rw [visitTypeDef]
    refine .bind (.get (.bind (.askFor (reopen_of_stands visiting.table stands)
      (.bind (.lift (.changed ?_))))))
    have inside := visiting.enter stands
    refine .bind (.within ((visitDeclarations_succeeds sameFile inside fields
      fun piece mem => pieces piece (by simp [mem])).mono fun fields' t first => ?_))
    obtain ⟨first, sameFields⟩ := first
    refine .bind (.within ((visitFunctionDefs_succeeds sameFile methods (inside.after first.visits)
      laid fun piece mem => pieces piece (by simp [mem])).mono
      fun methods' u second => .bind (.lift (.changed (.pure ?_)))))
    obtain ⟨second, sameMethods, registrations⟩ := second
    refine ⟨(first.trans second).inside.cast ?_ fun around means => ?_, fun base => ?_, fun base => ?_⟩
    · rw [TypeDef.inferred]
    · rw [TypeDef.Scoped, TypeDef.owner, sameFields, sameMethods]
      exact means
    · rw [Statement.declares, Statement.declares]
    · rw [TypeDef.registrations, TypeDef.registrations, TypeDef.owner, TypeDef.owner, sameFields,
        sameMethods, registrations]

end

end ArrowScript.Analysis
