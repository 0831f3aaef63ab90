import ArrowScript.Proofs.Analysis.Declarations
import ArrowScript.Analysis.Declare
import Mathlib.Data.List.Nodup

/-!
# Declaring a program

`Laid` says that every owner in a tree has a scope of its own, recorded for its node, which stands under
the scope of the owner around it and agrees with what the owner declares. Declaring a tree with handles
that are all different and not in use ends without a fault and lays the tree (`declareBlock_succeeds`);
every routine does what `Declares` says of its node.
-/

namespace ArrowScript
open Analysis

/-! ## Laid trees -/

section
variable (P : Piece → Prop) (table : ScopeTable)

mutual

/-- A block and what is in it have their scopes. -/
def Block.Laid (nested : Bool) (base : Nat) (outer : Option ScopeId) : Block → Prop
  | ⟨id, _, statements, _⟩ =>
    ∃ own, Stands P table outer id (statementOwner nested base statements) own ∧
      statementsLaid nested base own statements

/-- What is in some statements has its scopes. -/
def statementsLaid (nested : Bool) (base : Nat) (scope : ScopeId) : List Statement → Prop
  | [] => True
  | statement :: rest =>
    statement.Laid nested base scope ∧
      statementsLaid nested (base + (statement.registrations nested base).length) scope rest

/-- What is in a statement has its scopes. -/
def Statement.Laid (nested : Bool) (base : Nat) (scope : ScopeId) : Statement → Prop
  | .type definition => nested ∨ definition.Laid base scope
  | .function definition => nested ∨ definition.Laid base scope
  | .whileLoop _ _ body => body.Laid nested base (some scope)
  | .conditional conditional => conditional.Laid nested base scope
  | .variable _ | .returning .. | .breaking _ | .continuing _ | .importing .. | .path ..
  | .expression _ => True

/-- The blocks of a conditional have their scopes. -/
def Conditional.Laid (nested : Bool) (base : Nat) (scope : ScopeId) : Conditional → Prop
  | ⟨_, body, otherwise, _⟩ =>
    body.Laid nested base (some scope) ∧
      otherwise.Laid nested (base + (body.registrations nested base).length) scope

/-- The blocks that stand for a failed condition have their scopes. -/
def Otherwise.Laid (nested : Bool) (base : Nat) (scope : ScopeId) : Otherwise → Prop
  | .nothing => True
  | .conditional conditional => conditional.Laid nested base scope
  | .block block => block.Laid nested base (some scope)

/-- A function and what is in it have their scopes. -/
def FunctionDef.Laid (base : Nat) (scope : ScopeId) : FunctionDef → Prop
  | ⟨id, name, typeParameters, parameters, returns, body, keyword⟩ =>
    ∃ own, Stands P table (some scope) id
        (FunctionDef.owner base ⟨id, name, typeParameters, parameters, returns, body, keyword⟩) own ∧
      body.Laid true (base + typeArity typeParameters) (some own)

/-- Functions and what is in them have their scopes. -/
def functionsLaid (base : Nat) (scope : ScopeId) : List FunctionDef → Prop
  | [] => True
  | definition :: rest =>
    definition.Laid base scope ∧ functionsLaid (base + definition.registrations.length) scope rest

/-- A type and its methods have their scopes. -/
def TypeDef.Laid (base : Nat) (scope : ScopeId) : TypeDef → Prop
  | ⟨id, name, typeParameters, fields, methods, keyword, binding⟩ =>
    ∃ own, Stands P table (some scope) id
        (TypeDef.owner base ⟨id, name, typeParameters, fields, methods, keyword, binding⟩) own ∧
      functionsLaid (base + (1 + typeArity typeParameters)) own methods

end

end

/-! ## Registrations inside functions -/

mutual

/-- Blocks inside functions register nothing. -/
lemma Block.registrations_nested : ∀ (block : Block) (base : Nat),
    block.registrations true base = []
  | ⟨_, _, statements, _⟩, base => by
    rw [Block.registrations, statementRegistrations_nested statements base]

lemma statementRegistrations_nested : ∀ (statements : List Statement) (base : Nat),
    statementRegistrations true base statements = []
  | [], base => by rw [statementRegistrations]
  | statement :: rest, base => by
    rw [statementRegistrations, Statement.registrations_nested statement base,
      statementRegistrations_nested rest, List.append_nil]

lemma Statement.registrations_nested : ∀ (statement : Statement) (base : Nat),
    statement.registrations true base = []
  | .type definition, base => by rw [Statement.registrations, if_pos rfl]
  | .function definition, base => by rw [Statement.registrations, if_pos rfl]
  | .whileLoop _ _ body, base => by
    rw [Statement.registrations, Block.registrations_nested body base]
  | .conditional conditional, base => by
    rw [Statement.registrations, Conditional.registrations_nested conditional base]
  | .variable _, base | .returning .., base | .breaking _, base | .continuing _, base
  | .importing .., base | .path .., base | .expression _, base => by rw [Statement.registrations]

lemma Conditional.registrations_nested : ∀ (conditional : Conditional) (base : Nat),
    conditional.registrations true base = []
  | ⟨_, body, otherwise, _⟩, base => by
    rw [Conditional.registrations, Block.registrations_nested body base,
      Otherwise.registrations_nested otherwise, List.append_nil]

lemma Otherwise.registrations_nested : ∀ (otherwise : Otherwise) (base : Nat),
    otherwise.registrations true base = []
  | .nothing, base => by rw [Otherwise.registrations]
  | .conditional conditional, base => by
    rw [Otherwise.registrations, Conditional.registrations_nested conditional base]
  | .block block, base => by rw [Otherwise.registrations, Block.registrations_nested block base]

end

namespace Analysis

variable {P : Piece → Prop} {s t : State} {outer : Option ScopeId} {scope : ScopeId} {nested : Bool}

/-! ## Single declarations -/

/-- Declaring a variable in the innermost scope. -/
lemma declareVariable_succeeds (around : s.active.head? = some scope) (node : NodeId) (name : Span)
    (written : Option TypeRef) :
    Succeeds (declareVariable node name written) s fun _ t =>
      Touches (some scope) s t (.ofVariable name node written.isSome) 0 := by
  unfold declareVariable currentScope
  refine .bind (.ask (scope_of_head? around) (.lift ?_))
  exact touches_declare (fun before => adds_variable before name ⟨node, name, scope, written⟩)
    (by simp [Owner.ofVariable])

/-- Declaring variables of some kind one after the other. -/
lemma declareAll_succeeds {α : Type} {action : α → Attempt Unit} {owner : α → Owner}
    (owners : List α → Owner) (nil : owners [] = .empty)
    (cons : ∀ first rest, owners (first :: rest) = owner first ++ owners rest)
    (each : ∀ {s : State} (one : α), s.active.head? = some scope →
      Succeeds (action one) s fun _ t => Touches (some scope) s t (owner one) 0)
    (around : s.active.head? = some scope) (below : scope.index < s.scopes.size) (list : List α) :
    Succeeds (list.forM action) s fun _ t =>
      Declares P (some scope) s t [] (owners list) [] fun _ => True := by
  induction list generalizing s with
  | nil =>
    rw [nil]
    exact .pure (.refl s)
  | cons first rest ih =>
    rw [List.forM, cons]
    refine .bind ((each first around).mono fun _ t touches => ?_)
    have head := touches.declares (P := P) [] (by simp)
    refine (ih (by rw [head.frame.active, around]) (Nat.lt_of_lt_of_le below head.scopes)).mono
      fun _ u tail => ?_
    exact (head.trans tail (by simpa using below) (by simp)).cast (by simp) rfl rfl (by simp)

/-- Declaring the parameters of a function. -/
lemma declareParameters_succeed (around : s.active.head? = some scope)
    (below : scope.index < s.scopes.size) (parameters : List Parameter) :
    Succeeds (parameters.forM declareParameter) s fun _ t =>
      Declares P (some scope) s t [] (parameterOwner parameters) [] fun _ => True :=
  declareAll_succeeds parameterOwner rfl (fun _ _ => rfl)
    (fun parameter around => declareVariable_succeeds around parameter.id parameter.name _)
    around below parameters

/-- Declaring the fields of a type. -/
lemma declareFields_succeed (around : s.active.head? = some scope)
    (below : scope.index < s.scopes.size) (fields : List Declaration) :
    Succeeds (fields.forM declareField) s fun _ t =>
      Declares P (some scope) s t [] (fieldOwner fields) [] fun _ => True :=
  declareAll_succeeds fieldOwner rfl (fun _ _ => rfl)
    (fun field around => declareVariable_succeeds around field.id field.name field.written)
    around below fields

/-- Declaring type parameters one after the other, each with a type of its own. -/
lemma declareTypeParameters_lead (below : scope.index < s.scopes.size) (names : List Span) :
    Leads (names.forM (declareTypeParameter scope)) s fun _ t =>
      Declares P (some scope) s t [] (typeParameterOwner s.types.size names)
        (List.replicate names.length none) fun _ => True := by
  induction names generalizing s with
  | nil => exact .pure (.refl s)
  | cons name rest ih =>
    rw [List.forM]
    have first : Leads (declareTypeParameter scope name) s fun _ t =>
        Declares P (some scope) s t [] (.ofType name 0 ⟨s.types.size⟩) [none] fun _ => True := by
      refine Leads.bind ?_
      show Leads (declare .type scope name.content name (⟨⟨s.types.size⟩, name⟩ : TypeSymbol))
        { s with types := (s.types.registerParameter name.content).2 }
        fun _ t => Declares P (some scope) s t [] (.ofType name 0 ⟨s.types.size⟩) [none] fun _ => True
      refine (touches_declare (fun before => adds_type before name 0 ⟨⟨s.types.size⟩, name⟩)
        (by simp [Owner.ofType, TypeRegistry.registerParameter])).mono fun _ t touches => ?_
      obtain ⟨touches, info⟩ := touches.registered fun _ kind => by cases kind
      refine touches.declares [none] fun later lasts position members found => ?_
      cases position with
      | zero =>
        obtain rfl : none = members := Option.some.inj found
        have same := lasts.types ⟨s.types.size⟩ (Nat.le_refl _)
          (touches.types ▸ Nat.lt_succ_self s.types.size)
        rw [info] at same
        show later.types.userNode? ⟨s.types.size + 0⟩ = none
        simp [TypeRegistry.userNode?, TypeRegistry.kind?, same]
      | succ position => cases found
    refine Leads.bind (first.mono fun _ t head => ?_)
    refine (ih (Nat.lt_of_lt_of_le below head.scopes)).mono fun _ u tail => ?_
    rw [head.types] at tail
    exact (head.trans tail (by simpa using below) (by simp)).cast (by simp) rfl rfl (by simp)

/-- Declaring a type registers it for its node. -/
lemma declareType_leads (node : NodeId) (name : Span) (arity : Nat) :
    Leads (declareType scope node name arity) s fun _ t =>
      Touches (some scope) s t (.ofType name arity ⟨s.types.size⟩) 1 ∧
        t.types.info? ⟨s.types.size⟩ = some ⟨name.content, .user node⟩ := by
  refine Leads.bind ?_
  show Leads (declare .type scope (mangle name.content arity) name
    (⟨⟨s.types.size⟩, name⟩ : TypeSymbol))
    { s with
      types := (s.types.registerUser name.content node).2
      definedTypes := (node, ⟨s.types.size⟩) :: s.definedTypes }
    fun _ t => Touches (some scope) s t (.ofType name arity ⟨s.types.size⟩) 1 ∧
      t.types.info? ⟨s.types.size⟩ = some ⟨name.content, .user node⟩
  exact (touches_declare (fun before => adds_type before name arity ⟨⟨s.types.size⟩, name⟩)
    (by simp [Owner.ofType, TypeRegistry.registerUser])).mono fun _ t touches =>
      touches.registered nofun

/-- Reporting declares nothing. -/
lemma report_declares (outer : Option ScopeId) (problem : SemanticProblem) (span : Span) :
    Leads (report problem span) s fun _ t => Declares P outer s t [] .empty [] fun _ => True :=
  Touches.declares []
    ⟨⟨rfl, rfl, rfl⟩, rfl, fun _ _ => rfl, rfl, rfl, fun _ _ => rfl,
      fun _ _ before found => ⟨before, found, .refl before⟩, fun _ => rfl,
      fun known => known.same rfl rfl⟩ (by simp)

/-! ## Owners -/

/-- The state and the nodes that are about to be declared in it: the nodes are different and have no scopes
yet. -/
structure Ready (outer : Option ScopeId) (nested : Bool) (s : State) (nodes : List NodeId) : Prop where
  around : s.active.head? = outer
  below : ∀ scope ∈ outer, scope.index < s.scopes.size
  depth : decide (0 < s.functionDepth) = nested
  nodup : nodes.Nodup
  unclosed : ∀ node ∈ nodes, s.scopes.scopeOf? node = none

namespace Ready

variable {nodes first rest : List NodeId} {owner : Owner} {registered : List (Option Owner)}
  {laid : State → Prop}

/-- Some of the nodes may be declared. -/
lemma sublist (ready : Ready outer nested s nodes) (h : first.Sublist nodes) :
    Ready outer nested s first :=
  { ready with
    nodup := ready.nodup.sublist h
    unclosed := fun node mem => ready.unclosed node (h.subset mem) }

/-- When the first nodes are declared, so may the others be. -/
lemma after (ready : Ready outer nested s (first ++ rest))
    (h : Declares P outer s t first owner registered laid) : Ready outer nested t rest where
  around := by rw [h.frame.active, ready.around]
  below := fun scope mem => Nat.lt_of_lt_of_le (ready.below scope mem) h.scopes
  depth := by rw [h.frame.functionDepth, ready.depth]
  nodup := ready.nodup.sublist (List.sublist_append_right _ _)
  unclosed := fun node mem => by
    rw [h.closed node fun mem' => List.disjoint_of_nodup_append ready.nodup mem' mem]
    exact ready.unclosed node (List.mem_append_right _ mem)

/-- Declaring what comes first and then the rest. -/
lemma trans (ready : Ready outer nested s (first ++ rest)) {u : State} {other : Owner}
    {more : List (Option Owner)} {laid' : State → Prop}
    (h : Declares P outer s t first owner registered laid)
    (g : Declares P outer t u rest other more laid') :
    Declares P outer s u (first ++ rest) (owner ++ other) (registered ++ more)
      fun later => laid later ∧ laid' later :=
  h.trans g ready.below (List.disjoint_of_nodup_append ready.nodup)

/-- A scope of its own, in which the contents of a node are about to be declared. -/
lemma inside {node : NodeId} {count : Nat} (ready : Ready outer nested s (node :: nodes))
    (prepares : Prepares outer s t owner count) :
    Ready (some ⟨s.scopes.size⟩) nested { t with active := ⟨s.scopes.size⟩ :: t.active } nodes where
  around := rfl
  below := fun scope mem => by
    obtain rfl := Option.some.inj mem
    exact prepares.scopes ▸ Nat.lt_succ_self s.scopes.size
  depth := by rw [← ready.depth, ← prepares.frame.functionDepth]
  nodup := (List.nodup_cons.mp ready.nodup).2
  unclosed := fun other mem => by
    refine (prepares.closed other).trans (ready.unclosed other (List.mem_cons_of_mem _ mem))

end Ready

/-- Leaving the scope of a node and recording it, when the contents of the node are declared. -/
lemma close_succeeds {node : NodeId} {nodes : List NodeId} {declared inside : Owner}
    {first registered : List (Option Owner)} {laid : State → Prop} {u : State}
    (ready : Ready outer nested s (node :: nodes))
    (prepares : Prepares outer s t declared first.length)
    (h : Declares P (some ⟨s.scopes.size⟩) { t with active := ⟨s.scopes.size⟩ :: t.active } u nodes
      inside registered laid)
    (named : inside.Named P)
    (housed : ∀ later, Stands P later.scopes outer node inside ⟨s.scopes.size⟩ →
      (∀ type, s.types.size ≤ type.index → type.index < t.types.size →
        later.types.info? type = t.types.info? type) →
      ∀ position members, first[position]? = some members →
        Housed P later ⟨s.types.size + position⟩ members) :
    Succeeds (do leave; close node ⟨s.scopes.size⟩) u fun _ w =>
      Declares P outer s w (node :: nodes) declared (first ++ registered)
        fun later => Stands P later.scopes outer node inside ⟨s.scopes.size⟩ ∧ laid later := by
  obtain ⟨fresh, -⟩ := List.nodup_cons.mp ready.nodup
  have unclosed : u.scopes.scopeOf? node = none :=
    (h.closed node fresh).trans
      ((prepares.closed node).trans (ready.unclosed node List.mem_cons_self))
  have closed : u.scopes.close node ⟨s.scopes.size⟩ =
      .ok { u.scopes with closed := (node, ⟨s.scopes.size⟩) :: u.scopes.closed } := by
    rw [ScopeTable.close, unclosed]
  refine .bind (.lift ?_)
  show Succeeds (close node ⟨s.scopes.size⟩) { u with active := u.active.tail } _
  unfold close
  refine .bind (.ask closed (.changed ?_))
  exact Declares.owned prepares h closed fresh named ready.below housed

/-- The number of type parameters of a definition. -/
lemma length_getD (names : Option (List Span)) : (names.getD []).length = typeArity names := by
  cases names <;> rfl

/-! ## Trees -/

mutual

/-- Declaring a block lays it. -/
lemma declareBlock_succeeds : ∀ (block : Block) {s : State} {outer : Option ScopeId} {nested : Bool},
    Ready outer nested s block.ids → (∀ piece ∈ block.pieces, P piece) →
    Succeeds (declareBlock block) s fun _ t =>
      Declares P outer s t block.ids .empty (block.registrations nested s.types.size)
        fun later => block.Laid P later.scopes nested s.types.size outer
  | ⟨id, kind, statements, span⟩, s, outer, nested, ready, pieces => by
    rw [Block.ids] at ready
    rw [Block.pieces] at pieces
    have pieces : ∀ piece ∈ statementPieces statements, P piece :=
      fun piece mem => pieces piece (List.mem_cons_of_mem _ mem)
    have prepares : Prepares outer s (s.opened outer) .empty ([] : List (Option Owner)).length :=
      .ofDeclaredFirst (.refl s) ready.below
    rw [declareBlock]
    refine .bind (.get (.bind (.lift ?_)))
    show Succeeds _ (s.opened s.active.head?) _
    rw [ready.around]
    refine .bind (.lift (.changed ?_))
    refine .bind ((declareStatements_succeeds statements (ready.inside prepares) pieces).mono
      fun _ u inner => ?_)
    refine (close_succeeds ready prepares inner (.statements pieces _ _) (by simp)).mono
      fun _ w declared => ?_
    refine declared.cast (by rw [Block.ids]; exact List.Subset.refl _) rfl ?_ fun later laid => ?_
    · rw [Block.registrations]
      rfl
    · rw [Block.Laid]
      exact ⟨_, laid⟩

lemma declareStatements_succeeds : ∀ (list : List Statement) {s : State} {scope : ScopeId}
    {nested : Bool}, Ready (some scope) nested s (statementIds list) →
    (∀ piece ∈ statementPieces list, P piece) →
    Succeeds (declareStatements list) s fun _ t =>
      Declares P (some scope) s t (statementIds list) (statementOwner nested s.types.size list)
        (statementRegistrations nested s.types.size list)
        fun later => statementsLaid P later.scopes nested s.types.size scope list
  | [], s, scope, nested, ready, pieces => by
    rw [declareStatements, statementIds, statementOwner, statementRegistrations]
    refine .pure ((Declares.refl s).cast (List.Subset.refl _) rfl rfl fun _ _ => ?_)
    rw [statementsLaid]
    trivial
  | statement :: rest, s, scope, nested, ready, pieces => by
    rw [statementIds] at ready
    rw [statementPieces] at pieces
    rw [declareStatements, statementIds, statementOwner, statementRegistrations]
    refine .bind ((declareStatement_succeeds statement
      (ready.sublist (List.sublist_append_left _ _))
      fun piece mem => pieces piece (List.mem_append_left _ mem)).mono fun _ t head => ?_)
    refine (declareStatements_succeeds rest (ready.after head)
      fun piece mem => pieces piece (List.mem_append_right _ mem)).mono fun _ u tail => ?_
    rw [head.types] at tail
    refine (ready.trans head tail).cast (List.Subset.refl _) rfl rfl fun later laid => ?_
    rw [statementsLaid]
    exact laid

lemma declareStatement_succeeds : ∀ (statement : Statement) {s : State} {scope : ScopeId}
    {nested : Bool}, Ready (some scope) nested s statement.ids →
    (∀ piece ∈ statement.pieces, P piece) →
    Succeeds (declareStatement statement) s fun _ t =>
      Declares P (some scope) s t statement.ids (statement.declares nested s.types.size)
        (statement.registrations nested s.types.size)
        fun later => statement.Laid P later.scopes nested s.types.size scope
  | .type definition, s, scope, nested, ready, pieces => by
    rw [Statement.ids] at ready
    rw [Statement.pieces] at pieces
    rw [declareStatement, Statement.ids, Statement.registrations]
    obtain ⟨id, name, typeParameters, fields, methods, keyword, binding⟩ := definition
    have depth := ready.depth
    refine .bind (.get ?_)
    cases nested with
    | true =>
      rw [if_pos (of_decide_eq_true depth)]
      refine .lift ((report_declares (P := P) (some scope) _ _).mono
        fun _ t declared => ?_)
      refine declared.cast (by simp) (by rfl) rfl fun later _ => ?_
      rw [Statement.Laid]
      exact .inl rfl
    | false =>
      rw [if_neg (of_decide_eq_false depth)]
      refine (declareTypeDef_succeeds _ ready pieces).mono fun _ t declared => ?_
      refine declared.cast (List.Subset.refl _) (by rfl) (by simp) fun later laid => ?_
      rw [Statement.Laid]
      exact .inr laid
  | .function definition, s, scope, nested, ready, pieces => by
    rw [Statement.ids] at ready
    rw [Statement.pieces] at pieces
    rw [declareStatement, Statement.ids, Statement.registrations]
    have depth := ready.depth
    refine .bind (.get ?_)
    cases nested with
    | true =>
      rw [if_pos (of_decide_eq_true depth)]
      refine .lift ((report_declares (P := P) (some scope) _ _).mono
        fun _ t declared => ?_)
      refine declared.cast (by simp) (by rfl) rfl fun later _ => ?_
      rw [Statement.Laid]
      exact .inl rfl
    | false =>
      rw [if_neg (of_decide_eq_false depth)]
      refine (declareFunctionDef_succeeds _ ready pieces).mono fun _ t declared => ?_
      refine declared.cast (List.Subset.refl _) (by rfl) (by simp) fun later laid => ?_
      rw [Statement.Laid]
      exact .inr laid
  | .variable declaration, s, scope, nested, ready, pieces => by
    rw [declareStatement, Statement.ids, Statement.registrations]
    refine (declareVariable_succeeds ready.around _ _ _).mono fun _ t touches => ?_
    have declared := touches.declares (P := P) [] (by simp)
    refine declared.cast (by simp) rfl rfl fun later _ => ?_
    rw [Statement.Laid]
    trivial
  | .whileLoop keyword condition body, s, scope, nested, ready, pieces => by
    rw [Statement.ids] at ready
    rw [Statement.pieces] at pieces
    rw [declareStatement, Statement.ids, Statement.registrations]
    refine (declareBlock_succeeds body ready fun piece mem => pieces piece (by simp [mem])).mono
      fun _ t declared => ?_
    refine declared.cast (List.Subset.refl _) rfl rfl fun later laid => ?_
    rwa [Statement.Laid]
  | .conditional conditional, s, scope, nested, ready, pieces => by
    rw [Statement.ids] at ready
    rw [Statement.pieces] at pieces
    rw [declareStatement, Statement.ids, Statement.registrations]
    refine (declareConditional_succeeds conditional ready pieces).mono fun _ t declared => ?_
    refine declared.cast (List.Subset.refl _) rfl rfl fun later laid => ?_
    rwa [Statement.Laid]
  | .returning .., s, scope, nested, ready, pieces
  | .breaking _, s, scope, nested, ready, pieces
  | .continuing _, s, scope, nested, ready, pieces
  | .importing .., s, scope, nested, ready, pieces
  | .path .., s, scope, nested, ready, pieces
  | .expression _, s, scope, nested, ready, pieces => by
    rw [declareStatement, Statement.ids, Statement.registrations]
    refine .pure ((Declares.refl s).cast (List.Subset.refl _) rfl rfl fun _ _ => ?_)
    rw [Statement.Laid]
    trivial

lemma declareConditional_succeeds : ∀ (conditional : Conditional) {s : State} {scope : ScopeId}
    {nested : Bool}, Ready (some scope) nested s conditional.ids →
    (∀ piece ∈ conditional.pieces, P piece) →
    Succeeds (declareConditional conditional) s fun _ t =>
      Declares P (some scope) s t conditional.ids .empty
        (conditional.registrations nested s.types.size)
        fun later => conditional.Laid P later.scopes nested s.types.size scope
  | ⟨condition, body, otherwise, keyword⟩, s, scope, nested, ready, pieces => by
    rw [Conditional.ids] at ready
    rw [Conditional.pieces] at pieces
    rw [declareConditional, Conditional.ids, Conditional.registrations]
    refine .bind ((declareBlock_succeeds body (ready.sublist (List.sublist_append_left _ _))
      fun piece mem => pieces piece (by simp [mem])).mono fun _ t head => ?_)
    refine (declareOtherwise_succeeds otherwise (ready.after head)
      fun piece mem => pieces piece (by simp [mem])).mono fun _ u tail => ?_
    rw [head.types] at tail
    refine (ready.trans head tail).cast (List.Subset.refl _) rfl rfl fun later laid => ?_
    rw [Conditional.Laid]
    exact laid

lemma declareOtherwise_succeeds : ∀ (otherwise : Otherwise) {s : State} {scope : ScopeId}
    {nested : Bool}, Ready (some scope) nested s otherwise.ids →
    (∀ piece ∈ otherwise.pieces, P piece) →
    Succeeds (declareOtherwise otherwise) s fun _ t =>
      Declares P (some scope) s t otherwise.ids .empty (otherwise.registrations nested s.types.size)
        fun later => otherwise.Laid P later.scopes nested s.types.size scope
  | .nothing, s, scope, nested, ready, pieces => by
    rw [declareOtherwise, Otherwise.ids, Otherwise.registrations]
    refine .pure ((Declares.refl s).cast (List.Subset.refl _) rfl rfl fun _ _ => ?_)
    rw [Otherwise.Laid]
    trivial
  | .conditional conditional, s, scope, nested, ready, pieces => by
    rw [Otherwise.ids] at ready
    rw [Otherwise.pieces] at pieces
    rw [declareOtherwise, Otherwise.ids, Otherwise.registrations]
    refine (declareConditional_succeeds conditional ready pieces).mono fun _ t declared => ?_
    refine declared.cast (List.Subset.refl _) rfl rfl fun later laid => ?_
    rwa [Otherwise.Laid]
  | .block block, s, scope, nested, ready, pieces => by
    rw [Otherwise.ids] at ready
    rw [Otherwise.pieces] at pieces
    rw [declareOtherwise, Otherwise.ids, Otherwise.registrations]
    refine (declareBlock_succeeds block ready pieces).mono fun _ t declared => ?_
    refine declared.cast (List.Subset.refl _) rfl rfl fun later laid => ?_
    rwa [Otherwise.Laid]

lemma declareFunctionDef_succeeds : ∀ (definition : FunctionDef) {s : State} {scope : ScopeId}
    {nested : Bool}, Ready (some scope) nested s definition.ids →
    (∀ piece ∈ definition.pieces, P piece) →
    Succeeds (declareFunctionDef definition) s fun _ t =>
      Declares P (some scope) s t definition.ids definition.declares definition.registrations
        fun later => definition.Laid P later.scopes s.types.size scope
  | ⟨id, name, typeParameters, parameters, returns, body, keyword⟩, s, scope, nested, ready,
      pieces => by
    have named := Owner.Named.functionDef pieces s.types.size
    rw [FunctionDef.pieces] at pieces
    rw [FunctionDef.ids] at ready
    have ready : Ready (some scope) nested s (id :: body.ids) :=
      ready.sublist ((List.sublist_append_right _ _).cons_cons _)
    rw [declareFunctionDef]
    refine .bind (.ask (scope_of_head? ready.around) (.bind (.lift ?_)))
    show Succeeds _ (s.opened (some scope)) _
    refine .bind (.lift ((touches_declare (fun before => adds_function before name _ _)
      (by simp [Owner.ofFunction])).mono fun _ t touches => ?_))
    have prepares : Prepares (some scope) s t
        (.ofFunction name (typeArity typeParameters) id returns.isSome)
        ([] : List (Option Owner)).length :=
      .ofOpenedFirst touches ready.below
    have inside := ready.inside prepares
    refine .bind (.lift (.changed ?_))
    refine .bind (.lift ((declareTypeParameters_lead (P := P) (inside.below _ rfl) _).mono
      fun _ v types => ?_))
    refine .bind ((declareParameters_succeed (P := P)
      (by rw [types.frame.active, inside.around])
      (Nat.lt_of_lt_of_le (inside.below _ rfl) types.scopes) _).mono fun _ w list => ?_)
    have head := types.trans list inside.below (by simp)
    have contents : Ready (some ⟨s.scopes.size⟩) nested _ ([] ++ body.ids) := inside
    -- The body is at least one level deep, whatever is around the function.
    have ready' : Ready (some ⟨s.scopes.size⟩) true { w with functionDepth := w.functionDepth + 1 }
        body.ids :=
      { contents.after head with depth := by simp }
    refine .bind (.insideFunction ((declareBlock_succeeds body ready'
      fun piece mem => pieces piece (by simp [mem])).mono fun _ x block => ?_))
    have size : w.types.size = s.types.size + typeArity typeParameters := by
      rw [list.types, types.types, List.length_replicate, length_getD]
      show t.types.size + _ + 0 = _
      rw [touches.types]
      rfl
    have whole := head.trans block.insideFunction inside.below (by simp)
    simp only [size] at whole
    have own : typeParameterOwner t.types.size (typeParameters.getD []) ++
        parameterOwner parameters ++ Owner.empty = FunctionDef.owner s.types.size
          ⟨id, name, typeParameters, parameters, returns, body, keyword⟩ := by
      rw [Owner.append_empty, show t.types.size = s.types.size from touches.types]
      rfl
    -- Definitions in the body register nothing, so the type parameters are all.
    have numbers : List.replicate (typeParameters.getD []).length none ++ [] ++
        body.registrations true (s.types.size + typeArity typeParameters) =
          List.replicate (typeArity typeParameters) none := by
      rw [Block.registrations_nested, length_getD, List.append_nil, List.append_nil]
    have whole := whole.cast (show _ ⊆ body.ids by simp) own numbers fun later laid => laid
    refine (close_succeeds ready prepares whole named (by simp)).mono fun _ y declared => ?_
    refine declared.cast ?_ rfl (by rfl) fun later laid => ?_
    · rw [FunctionDef.ids]
      exact List.cons_subset_cons _ (List.subset_append_right _ _)
    · rw [FunctionDef.Laid]
      exact ⟨_, laid.1, laid.2.2⟩

lemma declareFunctionDefs_succeed : ∀ (list : List FunctionDef) {s : State} {scope : ScopeId}
    {nested : Bool}, Ready (some scope) nested s (functionIds list) →
    (∀ piece ∈ functionPieces list, P piece) →
    Succeeds (declareFunctionDefs list) s fun _ t =>
      Declares P (some scope) s t (functionIds list) (functionOwner list)
        (functionRegistrations list)
        fun later => functionsLaid P later.scopes s.types.size scope list
  | [], s, scope, nested, ready, pieces => by
    rw [declareFunctionDefs, functionIds, functionOwner, functionRegistrations]
    refine .pure ((Declares.refl s).cast (List.Subset.refl _) rfl rfl fun _ _ => ?_)
    rw [functionsLaid]
    trivial
  | definition :: rest, s, scope, nested, ready, pieces => by
    rw [functionIds] at ready
    rw [functionPieces] at pieces
    rw [declareFunctionDefs, functionIds, functionOwner, functionRegistrations]
    refine .bind ((declareFunctionDef_succeeds definition
      (ready.sublist (List.sublist_append_left _ _))
      fun piece mem => pieces piece (List.mem_append_left _ mem)).mono fun _ t head => ?_)
    refine (declareFunctionDefs_succeed rest (ready.after head)
      fun piece mem => pieces piece (List.mem_append_right _ mem)).mono fun _ u tail => ?_
    rw [head.types] at tail
    refine (ready.trans head tail).cast (List.Subset.refl _) rfl rfl fun later laid => ?_
    rw [functionsLaid]
    exact laid

lemma declareTypeDef_succeeds : ∀ (definition : TypeDef) {s : State} {scope : ScopeId}
    {nested : Bool}, Ready (some scope) nested s definition.ids →
    (∀ piece ∈ definition.pieces, P piece) →
    Succeeds (declareTypeDef definition) s fun _ t =>
      Declares P (some scope) s t definition.ids
        (.ofType definition.name (typeArity definition.typeParameters) ⟨s.types.size⟩)
        (definition.registrations s.types.size)
        fun later => definition.Laid P later.scopes s.types.size scope
  | ⟨id, name, typeParameters, fields, methods, keyword, binding⟩, s, scope, nested, ready,
      pieces => by
    have named := Owner.Named.typeDef pieces s.types.size
    rw [TypeDef.pieces] at pieces
    rw [TypeDef.ids] at ready
    have ready : Ready (some scope) nested s (id :: functionIds methods) :=
      ready.sublist ((List.sublist_append_right _ _).cons_cons _)
    rw [declareTypeDef]
    refine .bind (.ask (scope_of_head? ready.around) (.bind (.lift
      ((declareType_leads id name (typeArity typeParameters)).mono fun _ t touches => ?_))))
    obtain ⟨touches, info⟩ := touches
    have prepares := Prepares.ofDeclaredFirst touches ready.below
    have inside := ready.inside prepares
    refine .bind (.lift ?_)
    show Succeeds _ (t.opened (some scope)) _
    refine .bind (.lift (.changed ?_))
    rw [show (openUnder (some scope) t).1 = ⟨s.scopes.size⟩ from
      congrArg ScopeId.mk touches.scopes]
    refine .bind (.lift ((declareTypeParameters_lead (P := P) (inside.below _ rfl) _).mono
      fun _ v types => ?_))
    have around : v.active.head? = some ⟨s.scopes.size⟩ := by
      rw [types.frame.active, inside.around]
    refine .bind ((declareFields_succeed (P := P) around
      (Nat.lt_of_lt_of_le (inside.below _ rfl) types.scopes) _).mono fun _ w list => ?_)
    have head := types.trans list inside.below (by simp)
    have contents : Ready (some ⟨s.scopes.size⟩) nested _ ([] ++ functionIds methods) := inside
    refine .bind ((declareFunctionDefs_succeed methods (contents.after head)
      fun piece mem => pieces piece (by simp [mem])).mono fun _ x functions => ?_)
    -- The methods get the numbers behind those of the type and its parameters.
    have size : w.types.size = s.types.size + (1 + typeArity typeParameters) := by
      rw [list.types, types.types, List.length_replicate, length_getD]
      show t.types.size + _ + 0 = _
      rw [touches.types]
      omega
    rw [size] at functions
    -- Parameters, fields and methods are what the type owns, in this order.
    have own : typeParameterOwner (t.opened (some scope)).types.size (typeParameters.getD []) ++
        fieldOwner fields ++ functionOwner methods = TypeDef.owner s.types.size
          ⟨id, name, typeParameters, fields, methods, keyword, binding⟩ := by
      rw [Owner.append_assoc, prepares.types]
      rfl
    have numbers : List.replicate (typeParameters.getD []).length none ++ [] ++
        functionRegistrations methods =
          List.replicate (typeArity typeParameters) none ++ functionRegistrations methods := by
      rw [length_getD, List.append_nil]
    have whole := (head.trans functions inside.below (by simp)).cast
      (show _ ⊆ functionIds methods by simp) own numbers fun later laid => laid
    have prepares : Prepares (some scope) s _ _ [some (TypeDef.owner s.types.size
      ⟨id, name, typeParameters, fields, methods, keyword, binding⟩)].length := prepares
    refine (close_succeeds ready prepares whole named ?_).mono fun _ y declared => ?_
    · intro later stands same position members found
      cases position with
      | zero =>
        obtain rfl := Option.some.inj found
        refine ⟨id, _, _, ?_, stands⟩
        have same := (same ⟨s.types.size⟩ (Nat.le_refl _)
          (prepares.types ▸ Nat.lt_succ_self s.types.size)).trans info
        simp [TypeRegistry.userNode?, TypeRegistry.kind?, same]
      | succ position => cases found
    · refine declared.cast ?_ rfl (by rfl) fun later laid => ?_
      · rw [TypeDef.ids]
        exact List.cons_subset_cons _ (List.subset_append_right _ _)
      · rw [TypeDef.Laid]
        exact ⟨_, laid.1, laid.2.2⟩

end

end Analysis

end ArrowScript
