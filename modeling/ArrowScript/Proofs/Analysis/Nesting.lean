import ArrowScript.Proofs.Analysis.Programs
import ArrowScript.Proofs.Analysis.Surveying
import Mathlib.Data.List.Enum
import Mathlib.Data.Set.Function

/-!
# Scopes mirror the tree

Blocks, functions and types own scopes, apart from the definitions inside functions and everything in them.
Declaring opens a scope for each owner when it comes to the owner and records it when it leaves the owner, so
scopes are numbered in the order in which their owners begin (`Opens`). Together with where each of them
stands (`Block.Laid`) this makes the table of scopes a picture of the tree (`ScopeTable.Mirrors`): owners and
scopes correspond to each other, and the parent of a scope belongs to the owner right around its own.
-/

namespace ArrowScript
open Analysis Token Grammar

/-! ## Owners in a tree -/

mutual

/-- A block and the owners inside it, each with the owner right around it. -/
def Block.enclosed (nested : Bool) (around : NodeId) : Block → List (NodeId × NodeId)
  | ⟨id, _, statements, _⟩ => (id, around) :: statementsEnclosed nested id statements

/-- The owners in some statements. -/
def statementsEnclosed (nested : Bool) (around : NodeId) : List Statement → List (NodeId × NodeId)
  | [] => []
  | statement :: rest => statement.enclosed nested around ++ statementsEnclosed nested around rest

/-- The owners in a statement; definitions inside functions are none. -/
def Statement.enclosed (nested : Bool) (around : NodeId) : Statement → List (NodeId × NodeId)
  | .type definition => if nested then [] else definition.enclosed around
  | .function definition => if nested then [] else definition.enclosed around
  | .whileLoop _ _ body => body.enclosed nested around
  | .conditional conditional => conditional.enclosed nested around
  | .variable _ | .returning .. | .breaking _ | .continuing _ | .importing .. | .path ..
  | .expression _ => []

/-- The owners in a conditional, which is no owner itself: all its blocks stand in what is around it. -/
def Conditional.enclosed (nested : Bool) (around : NodeId) : Conditional → List (NodeId × NodeId)
  | ⟨_, body, otherwise, _⟩ => body.enclosed nested around ++ otherwise.enclosed nested around

/-- The owners in what is done when a condition fails. -/
def Otherwise.enclosed (nested : Bool) (around : NodeId) : Otherwise → List (NodeId × NodeId)
  | .nothing => []
  | .conditional conditional => conditional.enclosed nested around
  | .block block => block.enclosed nested around

/-- A function and the owners in its body. -/
def FunctionDef.enclosed (around : NodeId) : FunctionDef → List (NodeId × NodeId)
  | ⟨id, _, _, _, _, body, _⟩ => (id, around) :: body.enclosed true id

/-- The owners in some functions. -/
def functionsEnclosed (around : NodeId) : List FunctionDef → List (NodeId × NodeId)
  | [] => []
  | definition :: rest => definition.enclosed around ++ functionsEnclosed around rest

/-- A type and the owners in its methods. -/
def TypeDef.enclosed (around : NodeId) : TypeDef → List (NodeId × NodeId)
  | ⟨id, _, _, _, methods, _, _⟩ => (id, around) :: functionsEnclosed id methods

end

namespace Block

/-- The owners inside the root of a program, each with the owner right around it. -/
def enclosures (root : Block) : List (NodeId × NodeId) :=
  statementsEnclosed false root.id root.statements

/-- The nodes of a program that own scopes, in the order in which they begin. -/
def scopeOwners (root : Block) : List NodeId :=
  root.id :: root.enclosures.map Prod.fst

lemma scopeOwners_eq (root : Block) (around : NodeId) :
    root.scopeOwners = (root.enclosed false around).map Prod.fst := by
  obtain ⟨id, kind, statements, span⟩ := root
  rw [enclosed, List.map_cons]
  rfl

end Block

/-! ## Mirroring tables -/

namespace ScopeTable

/-- The scope of one node is under that of another, which was opened before. -/
structure Nests (table : ScopeTable) (inner outer : NodeId) (own around : ScopeId) : Prop where
  inner : table.scopeOf? inner = some own
  outer : table.scopeOf? outer = some around
  parent : (table.get? own).map Scope.parent = some (some around)
  before : around.index < own.index

/-- The scopes of a table correspond to the owners in a tree, and stand in each other as these do. -/
structure Mirrors (table : ScopeTable) (root : Block) : Prop where
  distinct : root.scopeOwners.Nodup
  size : table.size = root.scopeOwners.length
  closed : table.closed.length = root.scopeOwners.length
  bijective : Set.BijOn table.scopeOf? {node | node ∈ root.scopeOwners}
    (some '' {scope | scope.index < table.size})
  others : ∀ node, node ∉ root.scopeOwners → table.scopeOf? node = none
  outermost : ∃ own, table.scopeOf? root.id = some own ∧ (table.get? own).map Scope.parent = some none
  nested : ∀ inner outer, (inner, outer) ∈ root.enclosures → ∃ own around, table.Nests inner outer own around

end ScopeTable

namespace Analysis

/-! ## Numbering -/

/-- Nodes with the scopes from a number on. -/
def numbered (base : Nat) (nodes : List NodeId) : List (NodeId × ScopeId) :=
  (nodes.zipIdx base).map fun entry => (entry.1, ⟨entry.2⟩)

lemma numbered_append (base : Nat) (first second : List NodeId) :
    numbered base (first ++ second) = numbered base first ++ numbered (base + first.length) second := by
  unfold numbered
  rw [List.zipIdx_append, List.map_append]

@[simp] lemma length_numbered (base : Nat) (nodes : List NodeId) :
    (numbered base nodes).length = nodes.length := by
  simp [numbered]

@[simp] lemma map_fst_numbered (base : Nat) (nodes : List NodeId) :
    (numbered base nodes).map Prod.fst = nodes := by
  simp [numbered, Function.comp_def]

/-- A scope is that of the node at its place. -/
lemma mem_numbered {nodes : List NodeId} {node : NodeId} {scope : ScopeId} :
    (node, scope) ∈ numbered 0 nodes ↔ nodes[scope.index]? = some node := by
  obtain ⟨index⟩ := scope
  simp [numbered, List.mem_zipIdx_iff_getElem?]

/-- Between two states a scope was opened and recorded for each of some nodes, in their order. -/
structure Opens (s t : State) (nodes : List NodeId) : Prop where
  depth : t.functionDepth = s.functionDepth
  size : t.scopes.size = s.scopes.size + nodes.length
  closed : t.scopes.closed.Perm (numbered s.scopes.size nodes ++ s.scopes.closed)
  once : (s.scopes.closed.map Prod.fst).Nodup → (t.scopes.closed.map Prod.fst).Nodup

variable {P : Piece → Prop} {s t u : State}

namespace Opens

variable {first second nodes : List NodeId}

/-- Nothing is opened. -/
lemma unchanged (depth : t.functionDepth = s.functionDepth) (size : t.scopes.size = s.scopes.size)
    (closed : t.scopes.closed = s.scopes.closed) : Opens s t [] where
  depth := depth
  size := size
  closed := closed ▸ .refl _
  once := closed ▸ id

/-- Scopes are opened for some nodes and then for others. -/
lemma trans (h : Opens s t first) (g : Opens t u second) : Opens s u (first ++ second) where
  depth := g.depth.trans h.depth
  size := by rw [g.size, h.size, List.length_append, Nat.add_assoc]
  closed := by
    have closed := g.closed.trans (h.closed.append_left _)
    rw [h.size, ← List.append_assoc] at closed
    rw [numbered_append]
    exact closed.trans (List.perm_append_comm.append_right _)
  once := g.once ∘ h.once

/-- A node gets the scope that was opened before those of the nodes inside it. -/
lemma owned {node : NodeId} {parent : Option ScopeId} {table : ScopeTable}
    (h : Opens (s.opened parent) t nodes) (closed : t.scopes.close node ⟨s.scopes.size⟩ = .ok table) :
    Opens s { t with active := t.active.tail, scopes := table } (node :: nodes) := by
  have open' := size_opened s parent
  unfold ScopeTable.close at closed
  split at closed
  · cases closed
  next free =>
  obtain rfl := Except.ok.inj closed
  -- Closing a node twice is a fault, so this node is new among those that were closed.
  refine ⟨h.depth, ?_, ?_, fun once => ?_⟩
  · show t.scopes.size = _
    rw [h.size, open', List.length_cons]
    omega
  · have inner := h.closed
    rw [open'] at inner
    exact inner.cons _
  · rw [List.map_cons, List.nodup_cons]
    refine ⟨fun mem => ?_, h.once once⟩
    obtain ⟨entry, listed, e⟩ := List.mem_map.mp mem
    have apart := List.lookup_eq_none_iff.mp free entry listed
    simp [e] at apart

/-- Work inside a function counts as work around it. -/
lemma insideFunction (h : Opens { s with functionDepth := s.functionDepth + 1 } t nodes) :
    Opens s { t with functionDepth := t.functionDepth - 1 } nodes where
  depth := by
    show t.functionDepth - 1 = s.functionDepth
    rw [h.depth]
    rfl
  size := h.size
  closed := h.closed
  once := h.once

/-- The same from a state with the same scopes. -/
lemma same (h : Opens s t nodes) {s' : State} (depth : s.functionDepth = s'.functionDepth)
    (scopes : s.scopes = s'.scopes) : Opens s' t nodes :=
  ⟨depth ▸ h.depth, scopes ▸ h.size, scopes ▸ h.closed, scopes ▸ h.once⟩

end Opens

/-! ## Declaring -/

/-- Making a declaration opens no scope of its own. -/
lemma declare_opens {σ : Type} [Symbol σ] (what : Declared) (scope : ScopeId) (key : String) (name : Span)
    (symbol : σ) : Leads (declare what scope key name symbol) s fun _ t => Opens s t [] := by
  have opens : ∀ findings, Opens s
      { s with scopes := (s.scopes.declare scope key symbol).2, findings } [] :=
    fun findings => .unchanged rfl (size_declare _ _ _ _) (closed_declare _ _ _ _)
  exact declare_leads (fun _ _ => opens _) (fun _ => opens _)

/-- Declaring a variable opens no scope. -/
lemma declareVariable_opens (node : NodeId) (name : Span) (written : Option TypeRef) :
    Yields (declareVariable node name written) s fun _ t => Opens s t [] := by
  unfold declareVariable currentScope
  exact .bind (.ask fun scope _ => .lift (declare_opens ..))

/-- Declaring a field opens no scope. -/
lemma declareField_opens (field : Declaration) : Yields (declareField field) s fun _ t => Opens s t [] :=
  declareVariable_opens _ _ _

/-- Declaring a parameter opens no scope. -/
lemma declareParameter_opens (parameter : Parameter) :
    Yields (declareParameter parameter) s fun _ t => Opens s t [] :=
  declareVariable_opens _ _ _

/-- Declaring a function opens no scope besides the one that was opened for it. -/
lemma declareFunction_opens (scope own : ScopeId) (node : NodeId) (name : Span) (arity : Nat)
    (parameters : List Parameter) (returns : Option TypeRef) :
    Leads (declareFunction scope own node name arity parameters returns) s fun _ t => Opens s t [] :=
  declare_opens ..

/-- Declaring a type opens no scope yet. -/
lemma declareType_opens (scope : ScopeId) (node : NodeId) (name : Span) (arity : Nat) :
    Leads (declareType scope node name arity) s fun _ t => Opens s t [] := by
  refine Leads.bind ?_
  show Leads (declare .type scope (mangle name.content arity) name (⟨⟨s.types.size⟩, name⟩ : TypeSymbol))
    { s with
      types := (s.types.registerUser name.content node).2
      definedTypes := (node, ⟨s.types.size⟩) :: s.definedTypes } fun _ t => Opens s t []
  exact (declare_opens ..).mono fun _ t declared => declared.same rfl rfl

/-- Declaring type parameters opens no scope. -/
lemma declareTypeParameters_open (scope : ScopeId) (names : List Span) :
    Leads (names.forM (declareTypeParameter scope)) s fun _ t => Opens s t [] := by
  induction names generalizing s with
  | nil => exact .unchanged rfl rfl rfl
  | cons name rest ih =>
    have first : Leads (declareTypeParameter scope name) s fun _ t => Opens s t [] := by
      refine Leads.bind ?_
      show Leads (declare .type scope name.content name (⟨⟨s.types.size⟩, name⟩ : TypeSymbol))
        { s with types := (s.types.registerParameter name.content).2 } fun _ t => Opens s t []
      exact (declare_opens ..).mono fun _ t declared => declared.same rfl rfl
    rw [List.forM]
    exact Leads.bind (first.mono fun _ t head => ih.mono fun _ u tail => head.trans tail)

/-- Declaring variables one after the other opens no scope. -/
lemma declareAll_open {α : Type} {action : α → Attempt Unit}
    (each : ∀ {s : State} (one : α), Yields (action one) s fun _ t => Opens s t []) (list : List α) :
    Yields (list.forM action) s fun _ t => Opens s t [] := by
  induction list generalizing s with
  | nil => exact .pure (.unchanged rfl rfl rfl)
  | cons first rest ih =>
    rw [List.forM]
    exact .bind ((each first).mono fun _ t head => ih.mono fun _ u tail => head.trans tail)

mutual

/-- Declaring a block opens scopes for the owners in it. -/
lemma declareBlock_opens : ∀ (block : Block) {s : State} {nested : Bool} (around : NodeId),
    decide (0 < s.functionDepth) = nested →
    Yields (declareBlock block) s fun _ t => Opens s t ((block.enclosed nested around).map Prod.fst)
  | ⟨id, _, statements, _⟩, s, nested, around, depth => by
    rw [declareBlock, Block.enclosed, List.map_cons]
    refine .bind (.get (.bind (.lift ?_)))
    -- The scope of a block is opened first and closed last, so the block is in front of the owners in it.
    show Yields _ (s.opened s.active.head?) _
    refine .bind (.lift (.changed (.bind ?_)))
    refine (declareStatements_open (s := { s.opened s.active.head? with active := ⟨s.scopes.size⟩ :: s.active })
      statements id depth).mono fun _ u inner => ?_
    have inner : Opens (s.opened s.active.head?) u _ := inner.same rfl rfl
    exact close_yields fun table closed => inner.owned closed

lemma declareStatements_open : ∀ (list : List Statement) {s : State} {nested : Bool} (around : NodeId),
    decide (0 < s.functionDepth) = nested →
    Yields (declareStatements list) s fun _ t => Opens s t ((statementsEnclosed nested around list).map Prod.fst)
  | [], s, nested, around, depth => by
    rw [declareStatements, statementsEnclosed]
    exact .pure (.unchanged rfl rfl rfl)
  | statement :: rest, s, nested, around, depth => by
    rw [declareStatements, statementsEnclosed, List.map_append]
    refine .bind ((declareStatement_opens statement around depth).mono fun _ t head => ?_)
    refine (declareStatements_open rest around (head.depth ▸ depth)).mono fun _ u tail => ?_
    exact head.trans tail

lemma declareStatement_opens : ∀ (statement : Statement) {s : State} {nested : Bool} (around : NodeId),
    decide (0 < s.functionDepth) = nested →
    Yields (declareStatement statement) s fun _ t =>
      Opens s t ((statement.enclosed nested around).map Prod.fst)
  | .type definition, s, nested, around, depth => by
    rw [declareStatement, Statement.enclosed]
    refine .bind (.get ?_)
    -- Inside a function a definition is not collected, and then it does not own a scope either.
    cases nested with
    | true =>
      rw [if_pos (of_decide_eq_true depth)]
      exact .lift (.unchanged rfl rfl rfl)
    | false =>
      rw [if_neg (of_decide_eq_false depth)]
      exact declareTypeDef_opens definition around
  | .function definition, s, nested, around, depth => by
    rw [declareStatement, Statement.enclosed]
    refine .bind (.get ?_)
    cases nested with
    | true =>
      rw [if_pos (of_decide_eq_true depth)]
      exact .lift (.unchanged rfl rfl rfl)
    | false =>
      rw [if_neg (of_decide_eq_false depth)]
      exact declareFunctionDef_opens definition around
  | .variable declaration, s, nested, around, depth => by
    rw [declareStatement, Statement.enclosed]
    exact declareField_opens declaration
  | .whileLoop _ _ body, s, nested, around, depth => by
    rw [declareStatement, Statement.enclosed]
    exact declareBlock_opens body around depth
  | .conditional conditional, s, nested, around, depth => by
    rw [declareStatement, Statement.enclosed]
    exact declareConditional_opens conditional around depth
  | .returning .., s, nested, around, depth
  | .breaking _, s, nested, around, depth
  | .continuing _, s, nested, around, depth
  | .importing .., s, nested, around, depth
  | .path .., s, nested, around, depth
  | .expression _, s, nested, around, depth => by
    rw [declareStatement, Statement.enclosed]
    exact .pure (.unchanged rfl rfl rfl)

lemma declareConditional_opens : ∀ (conditional : Conditional) {s : State} {nested : Bool} (around : NodeId),
    decide (0 < s.functionDepth) = nested →
    Yields (declareConditional conditional) s fun _ t =>
      Opens s t ((conditional.enclosed nested around).map Prod.fst)
  | ⟨_, body, otherwise, _⟩, s, nested, around, depth => by
    rw [declareConditional, Conditional.enclosed, List.map_append]
    refine .bind ((declareBlock_opens body around depth).mono fun _ t head => ?_)
    refine (declareOtherwise_opens otherwise around (head.depth ▸ depth)).mono fun _ u tail => ?_
    exact head.trans tail

lemma declareOtherwise_opens : ∀ (otherwise : Otherwise) {s : State} {nested : Bool} (around : NodeId),
    decide (0 < s.functionDepth) = nested →
    Yields (declareOtherwise otherwise) s fun _ t =>
      Opens s t ((otherwise.enclosed nested around).map Prod.fst)
  | .nothing, s, nested, around, depth => by
    rw [declareOtherwise, Otherwise.enclosed]
    exact .pure (.unchanged rfl rfl rfl)
  | .conditional conditional, s, nested, around, depth => by
    rw [declareOtherwise, Otherwise.enclosed]
    exact declareConditional_opens conditional around depth
  | .block block, s, nested, around, depth => by
    rw [declareOtherwise, Otherwise.enclosed]
    exact declareBlock_opens block around depth

/-- Declaring a function opens scopes for it and the owners in its body. -/
lemma declareFunctionDef_opens : ∀ (definition : FunctionDef) {s : State} (around : NodeId),
    Yields (declareFunctionDef definition) s fun _ t =>
      Opens s t ((definition.enclosed around).map Prod.fst)
  | ⟨id, name, typeParameters, parameters, returns, body, _⟩, s, around => by
    rw [declareFunctionDef, FunctionDef.enclosed, List.map_cons]
    refine .bind (.ask fun scope _ => .bind (.lift ?_))
    show Yields _ (s.opened (some scope)) _
    refine .bind (.lift ((declareFunction_opens scope ⟨s.scopes.size⟩ id name _ parameters returns).mono
      fun _ t declared => .bind (.lift (.changed ?_))))
    refine .bind (.lift ((declareTypeParameters_open _ _).mono fun _ v types => ?_))
    refine .bind ((declareAll_open declareParameter_opens parameters).mono fun _ w list => ?_)
    -- The body is declared one level deeper, where definitions own nothing.
    refine .bind (.insideFunction ((declareBlock_opens
      (s := { w with functionDepth := w.functionDepth + 1 }) body id
      (decide_eq_true (Nat.succ_pos _))).mono fun _ x block => ?_))
    refine close_yields fun table closed => ?_
    have inner : Opens t { x with functionDepth := x.functionDepth - 1 } _ :=
      ((types.trans list).trans block.insideFunction).same rfl rfl
    exact (declared.trans inner).owned closed

lemma declareFunctionDefs_open : ∀ (list : List FunctionDef) {s : State} (around : NodeId),
    Yields (declareFunctionDefs list) s fun _ t => Opens s t ((functionsEnclosed around list).map Prod.fst)
  | [], s, around => by
    rw [declareFunctionDefs, functionsEnclosed]
    exact .pure (.unchanged rfl rfl rfl)
  | definition :: rest, s, around => by
    rw [declareFunctionDefs, functionsEnclosed, List.map_append]
    refine .bind ((declareFunctionDef_opens definition around).mono fun _ t head => ?_)
    exact (declareFunctionDefs_open rest around).mono fun _ u tail => head.trans tail

/-- Declaring a type opens scopes for it and the owners in its methods. -/
lemma declareTypeDef_opens : ∀ (definition : TypeDef) {s : State} (around : NodeId),
    Yields (declareTypeDef definition) s fun _ t => Opens s t ((definition.enclosed around).map Prod.fst)
  | ⟨id, name, typeParameters, fields, methods, _, _⟩, s, around => by
    rw [declareTypeDef, TypeDef.enclosed, List.map_cons]
    refine .bind (.ask fun scope _ => .bind (.lift ((declareType_opens ..).mono fun _ t declared => ?_)))
    refine .bind (.lift ?_)
    show Yields _ (t.opened (some scope)) _
    refine .bind (.lift (.changed ?_))
    refine .bind (.lift ((declareTypeParameters_open _ _).mono fun _ v types => ?_))
    refine .bind ((declareAll_open declareField_opens fields).mono fun _ w list => ?_)
    refine .bind ((declareFunctionDefs_open methods id).mono fun _ x functions => ?_)
    refine close_yields fun table closed => ?_
    have inner : Opens (t.opened (some scope)) x _ := ((types.trans list).trans functions).same rfl rfl
    exact declared.trans (inner.owned closed)

end

/-! ## Nesting -/

variable {table : ScopeTable} {outer : Option ScopeId} {scope : ScopeId} {nested : Bool} {around : NodeId}

/-- Some nodes stand in others as scopes do. -/
def AllNest (table : ScopeTable) (pairs : List (NodeId × NodeId)) : Prop :=
  ∀ inner outer, (inner, outer) ∈ pairs → ∃ own around, table.Nests inner outer own around

namespace AllNest

variable {first second : List (NodeId × NodeId)}

lemma append (h : AllNest table first) (g : AllNest table second) : AllNest table (first ++ second) :=
  fun inner outer mem => (List.mem_append.mp mem).elim (h inner outer) (g inner outer)

/-- An owner with the owners inside it. -/
lemma cons {node : NodeId} {owner : Owner} {own : ScopeId} (stands : Stands P table (some scope) node owner own)
    (recorded : table.scopeOf? around = some scope) (h : AllNest table first) :
    AllNest table ((node, around) :: first) := by
  intro inner outer mem
  cases mem with
  | head =>
    obtain ⟨found, get, parent, -⟩ := stands.found
    exact ⟨own, scope, stands.closed, recorded, by rw [get, ← parent]; rfl, stands.below scope rfl⟩
  | tail _ mem => exact h inner outer mem

end AllNest

end Analysis

section
variable {P : Piece → Prop} {table : ScopeTable}

mutual

/-- The owners in a laid block stand in each other as their scopes do. -/
lemma Block.Laid.nests : ∀ {block : Block} {nested : Bool} {base : Nat} {scope : ScopeId} {around : NodeId},
    block.Laid P table nested base (some scope) → table.scopeOf? around = some scope →
    AllNest table (block.enclosed nested around)
  | ⟨_, _, _, _⟩, _, _, _, _, laid, recorded => by
    rw [Block.Laid] at laid
    obtain ⟨own, stands, laid⟩ := laid
    rw [Block.enclosed]
    exact .cons stands recorded (statementsLaid_nest laid stands.closed)

lemma statementsLaid_nest : ∀ {statements : List Statement} {nested : Bool} {base : Nat} {scope : ScopeId}
    {around : NodeId}, statementsLaid P table nested base scope statements →
    table.scopeOf? around = some scope → AllNest table (statementsEnclosed nested around statements)
  | [], _, _, _, _, _, _ => by
    rw [statementsEnclosed]
    exact nofun
  | _ :: _, _, _, _, _, laid, recorded => by
    rw [statementsLaid] at laid
    rw [statementsEnclosed]
    exact (Statement.Laid.nests laid.1 recorded).append (statementsLaid_nest laid.2 recorded)

lemma Statement.Laid.nests : ∀ {statement : Statement} {nested : Bool} {base : Nat} {scope : ScopeId}
    {around : NodeId}, statement.Laid P table nested base scope → table.scopeOf? around = some scope →
    AllNest table (statement.enclosed nested around)
  | .type _, nested, _, _, _, laid, recorded => by
    rw [Statement.Laid] at laid
    rw [Statement.enclosed]
    cases nested with
    | true => exact nofun
    | false => exact TypeDef.Laid.nests (laid.resolve_left Bool.false_ne_true) recorded
  | .function _, nested, _, _, _, laid, recorded => by
    rw [Statement.Laid] at laid
    rw [Statement.enclosed]
    cases nested with
    | true => exact nofun
    | false => exact FunctionDef.Laid.nests (laid.resolve_left Bool.false_ne_true) recorded
  | .whileLoop .., _, _, _, _, laid, recorded => by
    rw [Statement.Laid] at laid
    rw [Statement.enclosed]
    exact Block.Laid.nests laid recorded
  | .conditional _, _, _, _, _, laid, recorded => by
    rw [Statement.Laid] at laid
    rw [Statement.enclosed]
    exact Conditional.Laid.nests laid recorded
  | .variable _, _, _, _, _, _, _ | .returning .., _, _, _, _, _, _ | .breaking _, _, _, _, _, _, _
  | .continuing _, _, _, _, _, _, _ | .importing .., _, _, _, _, _, _ | .path .., _, _, _, _, _, _
  | .expression _, _, _, _, _, _, _ => by
    rw [Statement.enclosed]
    exact nofun

/-- The blocks of a laid conditional stand in what is around it. -/
lemma Conditional.Laid.nests : ∀ {conditional : Conditional} {nested : Bool} {base : Nat} {scope : ScopeId}
    {around : NodeId}, conditional.Laid P table nested base scope → table.scopeOf? around = some scope →
    AllNest table (conditional.enclosed nested around)
  | ⟨_, _, _, _⟩, _, _, _, _, laid, recorded => by
    rw [Conditional.Laid] at laid
    rw [Conditional.enclosed]
    exact (Block.Laid.nests laid.1 recorded).append (Otherwise.Laid.nests laid.2 recorded)

/-- The blocks that are laid for a failed condition stand in what is around them. -/
lemma Otherwise.Laid.nests : ∀ {otherwise : Otherwise} {nested : Bool} {base : Nat} {scope : ScopeId}
    {around : NodeId}, otherwise.Laid P table nested base scope → table.scopeOf? around = some scope →
    AllNest table (otherwise.enclosed nested around)
  | .nothing, _, _, _, _, _, _ => by
    rw [Otherwise.enclosed]
    exact nofun
  | .conditional _, _, _, _, _, laid, recorded => by
    rw [Otherwise.Laid] at laid
    rw [Otherwise.enclosed]
    exact Conditional.Laid.nests laid recorded
  | .block _, _, _, _, _, laid, recorded => by
    rw [Otherwise.Laid] at laid
    rw [Otherwise.enclosed]
    exact Block.Laid.nests laid recorded

/-- A laid function stands in what is around it, and its body in the function. -/
lemma FunctionDef.Laid.nests : ∀ {definition : FunctionDef} {base : Nat} {scope : ScopeId} {around : NodeId},
    definition.Laid P table base scope → table.scopeOf? around = some scope →
    AllNest table (definition.enclosed around)
  | ⟨_, _, _, _, _, _, _⟩, _, _, _, laid, recorded => by
    rw [FunctionDef.Laid] at laid
    obtain ⟨own, stands, laid⟩ := laid
    rw [FunctionDef.enclosed]
    exact .cons stands recorded (Block.Laid.nests laid stands.closed)

lemma functionsLaid_nest : ∀ {definitions : List FunctionDef} {base : Nat} {scope : ScopeId}
    {around : NodeId}, functionsLaid P table base scope definitions → table.scopeOf? around = some scope →
    AllNest table (functionsEnclosed around definitions)
  | [], _, _, _, _, _ => by
    rw [functionsEnclosed]
    exact nofun
  | _ :: _, _, _, _, laid, recorded => by
    rw [functionsLaid] at laid
    rw [functionsEnclosed]
    exact (FunctionDef.Laid.nests laid.1 recorded).append (functionsLaid_nest laid.2 recorded)

/-- A laid type stands in what is around it, and its methods in the type. -/
lemma TypeDef.Laid.nests : ∀ {definition : TypeDef} {base : Nat} {scope : ScopeId} {around : NodeId},
    definition.Laid P table base scope → table.scopeOf? around = some scope →
    AllNest table (definition.enclosed around)
  | ⟨_, _, _, _, _, _, _⟩, _, _, _, laid, recorded => by
    rw [TypeDef.Laid] at laid
    obtain ⟨own, stands, laid⟩ := laid
    rw [TypeDef.enclosed]
    exact .cons stands recorded (functionsLaid_nest laid stands.closed)

end

end

/-! ## Programs -/

namespace Analysis

variable {P : Piece → Prop} {t : State} {file : String} {root : Block}

section
variable (opens : Opens .initial t root.scopeOwners)
include opens

/-- After a root was declared in a fresh state, scopes are recorded for its owners in order, and for nothing
else. -/
lemma scopeOf?_iff (node : NodeId) (scope : ScopeId) :
    t.scopes.scopeOf? node = some scope ↔ root.scopeOwners[scope.index]? = some node := by
  have listed : (node, scope) ∈ t.scopes.closed ↔ (node, scope) ∈ numbered 0 root.scopeOwners := by
    rw [opens.closed.mem_iff]
    exact iff_of_eq (congrArg _ (List.append_nil _))
  -- As no node is recorded twice, looking one up finds each entry.
  rw [← mem_numbered, ← listed]
  exact ⟨mem_of_lookup_eq_some, lookup_eq_some_of_mem (opens.once .nil)⟩

/-- Each owner has a scope of its own, and there are no other scopes. -/
lemma bijOn_scopeOf? : Set.BijOn t.scopes.scopeOf? {node | node ∈ root.scopeOwners}
    (some '' {scope | scope.index < t.scopes.size}) := by
  have owners := scopeOf?_iff opens
  have size : t.scopes.size = root.scopeOwners.length := opens.size.trans (Nat.zero_add _)
  have placed : ∀ node ∈ root.scopeOwners, ∃ place < t.scopes.size, t.scopes.scopeOf? node = some ⟨place⟩ := by
    intro node mem
    obtain ⟨place, below, e⟩ := List.mem_iff_getElem.mp mem
    exact ⟨place, size ▸ below, (owners node ⟨place⟩).mpr (List.getElem?_eq_some_iff.mpr ⟨below, e⟩)⟩
  refine ⟨fun node mem => ?_, fun first mem second _ same => ?_, ?_⟩
  · obtain ⟨place, below, e⟩ := placed node mem
    exact ⟨⟨place⟩, below, e.symm⟩
  · obtain ⟨place, -, e⟩ := placed first mem
    have there := (owners first ⟨place⟩).mp e
    have here := (owners second ⟨place⟩).mp (same.symm.trans e)
    exact Option.some.inj (there.symm.trans here)
  · rintro _ ⟨⟨place⟩, below, rfl⟩
    have below : place < root.scopeOwners.length := size ▸ below
    exact ⟨root.scopeOwners[place], List.getElem_mem below,
      (owners _ ⟨place⟩).mpr (List.getElem?_eq_getElem below)⟩

/-- A root that is declared in a fresh state opens scopes that mirror it. -/
lemma mirrors_of_opens (laid : root.Laid P t.scopes false 6 none) : t.scopes.Mirrors root := by
  have closed : t.scopes.closed.Perm (numbered 0 root.scopeOwners) :=
    opens.closed.trans (.of_eq (List.append_nil _))
  have distinct : root.scopeOwners.Nodup := by
    have keys := closed.map Prod.fst
    rw [map_fst_numbered] at keys
    exact keys.nodup_iff.mp (opens.once .nil)
  have others : ∀ node, node ∉ root.scopeOwners → t.scopes.scopeOf? node = none := by
    intro node absent
    refine Option.eq_none_iff_forall_ne_some.mpr fun scope e => absent ?_
    exact List.mem_of_getElem? ((scopeOf?_iff opens node scope).mp e)
  have count : t.scopes.closed.length = root.scopeOwners.length := by
    rw [closed.length_eq, length_numbered]
  have bijective := bijOn_scopeOf? opens
  -- The root alone has no owner around it; its statements are laid under its scope.
  obtain ⟨id, kind, statements, span⟩ := root
  rw [Block.Laid] at laid
  obtain ⟨own, stands, laid⟩ := laid
  obtain ⟨found, get, parent, -⟩ := stands.found
  have outermost : (t.scopes.get? own).map Scope.parent = some none := by
    rw [get, ← parent]
    rfl
  exact ⟨distinct, opens.size.trans (Nat.zero_add _), count, bijective, others,
    ⟨own, stands.closed, outermost⟩, statementsLaid_nest laid stands.closed⟩

end

/-- A fresh analysis of a block leaves scopes that mirror it. -/
lemma runBlock_mirrors (sameFile : ∀ piece, P piece → piece.span.file = file) (nodup : root.ids.Nodup)
    (pieces : ∀ piece ∈ root.pieces, P piece) :
    Succeeds (runBlock root) .initial fun _ t => t.scopes.Mirrors root := by
  have ready : Ready none false .initial root.ids := ⟨rfl, nofun, rfl, nodup, fun _ _ => rfl⟩
  obtain ⟨_, t, ran, declared⟩ := declareBlock_succeeds root ready pieces
  have opens : Opens .initial t root.scopeOwners := by
    rw [root.scopeOwners_eq root.id]
    exact declareBlock_opens root root.id rfl _ t ran
  have laid : root.Laid P t.scopes false 6 none := declared.laid t (.refl _ _ _)
  refine .bind (.adapt ⟨_, t, ran, ?_⟩)
  have depth : decide (0 < t.functionDepth) = false := by
    rw [declared.frame.functionDepth]
    rfl
  -- Visiting keeps the scopes that declaring has opened.
  refine (visitBlock_succeeds sameFile root (visiting_declared declared) depth laid pieces).mono
    fun _ u visited => ?_
  exact visited.1.visits.scopes ▸ mirrors_of_opens opens laid

/-- A fresh analysis of a program leaves scopes that mirror it. -/
lemma analyze_mirrors (sameFile : ∀ piece, P piece → piece.span.file = file) {program : Program}
    (nodup : program.root.ids.Nodup) (pieces : ∀ piece ∈ program.root.pieces, P piece) :
    (analyze .initial program).state.scopes.Mirrors program.root := by
  obtain ⟨root, t, ran, mirrors⟩ := runBlock_mirrors sameFile nodup pieces
  rw [analyze, ran]
  exact mirrors

/-- Scopes mirror the tree: whatever the tokens of a file are, a fresh analysis of what they parse to records
exactly one scope for each owner in the tree, and each owner's scope stands under that of the nearest owner
around it. -/
theorem scopes_mirror_tree (file : String) (tokens : List Token)
    (same : ∀ token ∈ tokens, token.span.file = file) :
    (analyze .initial (parse tokens).program).state.scopes.Mirrors (parse tokens).program.root := by
  obtain ⟨file, sameFile⟩ := file_of_fromTokens same
  obtain ⟨pieces, nodup⟩ := parse_fit tokens
  exact analyze_mirrors sameFile nodup pieces

/-- A function whose body has a conditional with two blocks; the type inside the function owns no scope. -/
theorem scopes_mirror_tree_conditional :
    let source := "function f() \x7b\n  if a \x7b\n  \x7d else if b \x7b\n  \x7d\n  type T \x7b\n  \x7d\n\x7d\n"
    let tokens := (scan "a" source).tokens
    let root := (parse tokens).program.root
    (∀ token ∈ tokens, token.span.file = "a") ∧
      root.enclosures = [(⟨1⟩, ⟨0⟩), (⟨2⟩, ⟨1⟩), (⟨3⟩, ⟨2⟩), (⟨4⟩, ⟨2⟩)] ∧
      (analyze .initial (parse tokens).program).state.scopes.Mirrors root := by
  intro source tokens root
  have same : ∀ token ∈ tokens, token.span.file = "a" := fun _ => file_of_mem_scan
  exact ⟨same, by decide +kernel, scopes_mirror_tree "a" tokens same⟩

end Analysis

end ArrowScript
