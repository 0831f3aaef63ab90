import ArrowScript.Proofs.Analysis.Nesting
import Mathlib.Data.List.Find

/-!
# Owners that were closed before

A scope is recorded when its owner is left, so the owners inside an owner come before it: `closings` lists them
in this order, each with the owners that are still open around it. Declaring either records scopes for all owners
(`Closes`) or fails at the first of them that has a scope already (`Clashes`). In the second case the scopes of the
owners around that one stay open, and nothing that was recorded before is lost.
-/

namespace ArrowScript
open Analysis

/-! ## The order of closing -/

mutual

/-- The owners in a block and then the block, each with the owners around it, the nearest first. -/
def Block.closings (nested : Bool) (around : List NodeId) : Block → List (NodeId × List NodeId)
  | ⟨id, _, statements, _⟩ => statementsClosings nested (id :: around) statements ++ [(id, around)]

/-- The owners in some statements. -/
def statementsClosings (nested : Bool) (around : List NodeId) : List Statement → List (NodeId × List NodeId)
  | [] => []
  | statement :: rest => statement.closings nested around ++ statementsClosings nested around rest

/-- The owners in a statement; definitions inside functions are none. -/
def Statement.closings (nested : Bool) (around : List NodeId) : Statement → List (NodeId × List NodeId)
  | .type definition => if nested then [] else definition.closings around
  | .function definition => if nested then [] else definition.closings around
  | .whileLoop _ _ body => body.closings nested around
  | .conditional conditional => conditional.closings nested around
  | .variable _ | .returning .. | .breaking _ | .continuing _ | .importing .. | .path ..
  | .expression _ => []

/-- The owners in a conditional. -/
def Conditional.closings (nested : Bool) (around : List NodeId) : Conditional → List (NodeId × List NodeId)
  | ⟨_, body, otherwise, _⟩ => body.closings nested around ++ otherwise.closings nested around

/-- The owners in what is done when a condition fails. -/
def Otherwise.closings (nested : Bool) (around : List NodeId) : Otherwise → List (NodeId × List NodeId)
  | .nothing => []
  | .conditional conditional => conditional.closings nested around
  | .block block => block.closings nested around

/-- The owners in the body of a function and then the function. -/
def FunctionDef.closings (around : List NodeId) : FunctionDef → List (NodeId × List NodeId)
  | ⟨id, _, _, _, _, body, _⟩ => body.closings true (id :: around) ++ [(id, around)]

/-- The owners in some functions. -/
def functionsClosings (around : List NodeId) : List FunctionDef → List (NodeId × List NodeId)
  | [] => []
  | definition :: rest => definition.closings around ++ functionsClosings around rest

/-- The owners in the methods of a type and then the type. -/
def TypeDef.closings (around : List NodeId) : TypeDef → List (NodeId × List NodeId)
  | ⟨id, _, _, _, methods, _, _⟩ => functionsClosings (id :: around) methods ++ [(id, around)]

end

/-- An owner is in front of the owners inside it in one order and behind them in the other. -/
lemma perm_owned {id : NodeId} {around : List NodeId} {begun : List NodeId} {closings : List (NodeId × List NodeId)}
    (h : (closings.map Prod.fst).Perm begun) : ((closings ++ [(id, around)]).map Prod.fst).Perm (id :: begun) := by
  rw [List.map_append]
  exact (List.perm_append_singleton id _).trans (h.cons id)

mutual

/-- The same owners are closed as are opened. -/
lemma Block.closings_perm : ∀ (block : Block) (nested : Bool) (around : List NodeId) (outer : NodeId),
    ((block.closings nested around).map Prod.fst).Perm ((block.enclosed nested outer).map Prod.fst)
  | ⟨id, _, statements, _⟩, nested, around, _ => by
    rw [Block.closings, Block.enclosed]
    exact perm_owned (statementsClosings_perm statements nested _ _)

lemma statementsClosings_perm : ∀ (list : List Statement) (nested : Bool) (around : List NodeId) (outer : NodeId),
    ((statementsClosings nested around list).map Prod.fst).Perm ((statementsEnclosed nested outer list).map Prod.fst)
  | [], _, _, _ => by
    rw [statementsClosings, statementsEnclosed]
    exact .nil
  | statement :: rest, nested, around, outer => by
    rw [statementsClosings, statementsEnclosed, List.map_append, List.map_append]
    exact (statement.closings_perm nested around outer).append (statementsClosings_perm rest nested around outer)

lemma Statement.closings_perm : ∀ (statement : Statement) (nested : Bool) (around : List NodeId) (outer : NodeId),
    ((statement.closings nested around).map Prod.fst).Perm ((statement.enclosed nested outer).map Prod.fst)
  | .type definition, nested, around, outer => by
    rw [Statement.closings, Statement.enclosed]
    cases nested with
    | true => exact .nil
    | false => exact definition.closings_perm around outer
  | .function definition, nested, around, outer => by
    rw [Statement.closings, Statement.enclosed]
    cases nested with
    | true => exact .nil
    | false => exact definition.closings_perm around outer
  | .whileLoop _ _ body, nested, around, outer => by
    rw [Statement.closings, Statement.enclosed]
    exact body.closings_perm nested around outer
  | .conditional conditional, nested, around, outer => by
    rw [Statement.closings, Statement.enclosed]
    exact conditional.closings_perm nested around outer
  | .variable _, _, _, _ | .returning .., _, _, _ | .breaking _, _, _, _ | .continuing _, _, _, _
  | .importing .., _, _, _ | .path .., _, _, _ | .expression _, _, _, _ => by
    rw [Statement.closings, Statement.enclosed]
    exact .nil

lemma Conditional.closings_perm : ∀ (conditional : Conditional) (nested : Bool) (around : List NodeId) (outer : NodeId),
    ((conditional.closings nested around).map Prod.fst).Perm ((conditional.enclosed nested outer).map Prod.fst)
  | ⟨_, body, otherwise, _⟩, nested, around, outer => by
    rw [Conditional.closings, Conditional.enclosed, List.map_append, List.map_append]
    exact (body.closings_perm nested around outer).append (otherwise.closings_perm nested around outer)

lemma Otherwise.closings_perm : ∀ (otherwise : Otherwise) (nested : Bool) (around : List NodeId) (outer : NodeId),
    ((otherwise.closings nested around).map Prod.fst).Perm ((otherwise.enclosed nested outer).map Prod.fst)
  | .nothing, _, _, _ => by
    rw [Otherwise.closings, Otherwise.enclosed]
    exact .nil
  | .conditional conditional, nested, around, outer => by
    rw [Otherwise.closings, Otherwise.enclosed]
    exact conditional.closings_perm nested around outer
  | .block block, nested, around, outer => by
    rw [Otherwise.closings, Otherwise.enclosed]
    exact block.closings_perm nested around outer

lemma FunctionDef.closings_perm : ∀ (definition : FunctionDef) (around : List NodeId) (outer : NodeId),
    ((definition.closings around).map Prod.fst).Perm ((definition.enclosed outer).map Prod.fst)
  | ⟨id, _, _, _, _, body, _⟩, around, _ => by
    rw [FunctionDef.closings, FunctionDef.enclosed]
    exact perm_owned (body.closings_perm true _ _)

lemma functionsClosings_perm : ∀ (list : List FunctionDef) (around : List NodeId) (outer : NodeId),
    ((functionsClosings around list).map Prod.fst).Perm ((functionsEnclosed outer list).map Prod.fst)
  | [], _, _ => by
    rw [functionsClosings, functionsEnclosed]
    exact .nil
  | definition :: rest, around, outer => by
    rw [functionsClosings, functionsEnclosed, List.map_append, List.map_append]
    exact (definition.closings_perm around outer).append (functionsClosings_perm rest around outer)

lemma TypeDef.closings_perm : ∀ (definition : TypeDef) (around : List NodeId) (outer : NodeId),
    ((definition.closings around).map Prod.fst).Perm ((definition.enclosed outer).map Prod.fst)
  | ⟨id, _, _, _, methods, _, _⟩, around, _ => by
    rw [TypeDef.closings, TypeDef.enclosed]
    exact perm_owned (functionsClosings_perm methods _ _)

end

namespace Analysis

variable {α β : Type} {s t u : State}

/-! ## Ends with and without a fault -/

/-- What an attempt ends with is as stated, without a fault and with one. -/
def Ends (action : Attempt α) (s : State) (done : α → State → Prop) (failed : Fault → State → Prop) : Prop :=
  match action s with
  | .ok a t => done a t
  | .error fault t => failed fault t

namespace Ends

variable {action : Attempt α} {done : α → State → Prop} {failed : Fault → State → Prop}

/-- An attempt that ends without a fault. -/
lemma of_succeeds (h : Succeeds action s done) : Ends action s done failed := by
  obtain ⟨a, t, ran, h⟩ := h
  rw [Ends, ran]
  exact h

/-- A sequence fails with its first action, or goes on from where it leads. -/
lemma bind {next : α → Attempt β} {post : β → State → Prop}
    (h : Ends action s (fun a t => Ends (next a) t post failed) failed) :
    Ends (action >>= next) s post failed := by
  rw [Ends] at h
  cases ran : action s with
  | ok a t =>
    rw [ran] at h
    have e : (action >>= next) s = next a t := by
      show EStateM.bind action next s = _
      simp only [EStateM.bind, ran]
    rwa [Ends, e]
  | error fault t =>
    rw [ran] at h
    have e : (action >>= next) s = .error fault t := by
      show EStateM.bind action next s = _
      simp only [EStateM.bind, ran]
    rwa [Ends, e]

/-- What is stated of both ends may be weakened. -/
lemma mono {weaker : α → State → Prop} {fails : Fault → State → Prop} (h : Ends action s done failed)
    (implies : ∀ a t, done a t → weaker a t) (implies' : ∀ fault t, failed fault t → fails fault t) :
    Ends action s weaker fails := by
  rw [Ends] at h ⊢
  split at h
  · exact implies _ _ h
  · exact implies' _ _ h

/-- What comes after an action that ends without a fault. -/
lemma after {next : α → Attempt β} {post : β → State → Prop}
    (h : Succeeds action s fun a t => Ends (next a) t post failed) : Ends (action >>= next) s post failed :=
  .bind (.of_succeeds h)

/-- Work as part of a function body, which is left in either case. -/
lemma insideFunction (h : Ends action { s with functionDepth := s.functionDepth + 1 }
    (fun a t => done a { t with functionDepth := t.functionDepth - 1 })
    (fun fault t => failed fault { t with functionDepth := t.functionDepth - 1 })) :
    Ends (Analysis.insideFunction action) s done failed := by
  unfold Ends Analysis.insideFunction at *
  split at h <;> next ran => simpa only [ran] using h

end Ends

/-- Recording a scope opens none. -/
lemma size_close {table closed : ScopeTable} {node : NodeId} {own : ScopeId} (h : table.close node own = .ok closed) :
    closed.size = table.size := by
  unfold ScopeTable.close at h
  split at h
  · cases h
  · cases h
    rfl

/-- The scope of a node is left, whether or not it can be recorded. -/
lemma close_ends {node : NodeId} {own : ScopeId} {done : Unit → State → Prop} {failed : Fault → State → Prop}
    (free : s.scopes.scopeOf? node = none → ∀ table, s.scopes.close node own = .ok table →
      done () { s with active := s.active.tail, scopes := table })
    (taken : (s.scopes.scopeOf? node).isSome → failed (.closedTwice node) { s with active := s.active.tail }) :
    Ends (do leave; close node own) s done failed := by
  cases found : s.scopes.scopeOf? node with
  | none =>
    have closed : s.scopes.close node own = .ok { s.scopes with closed := (node, own) :: s.scopes.closed } := by
      rw [ScopeTable.close, found]
    refine .of_succeeds (.bind (.lift ?_))
    show Succeeds (close node own) { s with active := s.active.tail } done
    exact .bind (.ask closed (.changed (free found _ closed)))
  | some scope =>
    have refused : s.scopes.close node own = .error (.closedTwice node) := by
      rw [ScopeTable.close, found]
    have ran : (do leave; close node own : Attempt Unit) s =
        .error (.closedTwice node) { s with active := s.active.tail } := by
      show EStateM.bind (ask id (·.scopes.close node own)) _ { s with active := s.active.tail } = _
      simp only [EStateM.bind, ask, refused, id_eq]
    rw [Ends, ran]
    exact taken (found ▸ rfl)

/-! ## Closing or clashing -/

/-- Whether an owner has a scope. -/
def State.hasClosed (s : State) (closing : NodeId × List NodeId) : Bool :=
  (s.scopes.scopeOf? closing.1).isSome

/-- Between two states, scopes were opened for some owners and recorded for the same owners, which had none. -/
structure Closes (s t : State) (begun ended : List NodeId) : Prop where
  active : t.active = s.active
  functionDepth : t.functionDepth = s.functionDepth
  returnTypes : t.returnTypes = s.returnTypes
  size : t.scopes.size = s.scopes.size + begun.length
  fresh : ∀ node ∈ ended, s.scopes.scopeOf? node = none
  others : ∀ node, node ∉ ended → t.scopes.scopeOf? node = s.scopes.scopeOf? node

/-- An attempt has failed at the first owner that had a scope. The scopes of the owners around it, which are related
to them by `Own`, are left open on the others. -/
structure Clashes (Own : NodeId → ScopeId → Prop) (others : List ScopeId) (s : State)
    (closings : List (NodeId × List NodeId)) (fault : Fault) (t : State) : Prop where
  functionDepth : t.functionDepth = s.functionDepth
  returnTypes : t.returnTypes = s.returnTypes
  exist : ∀ scope ∈ t.active, scope.index < t.scopes.size
  kept : ∀ node scope, s.scopes.scopeOf? node = some scope → t.scopes.scopeOf? node = some scope
  first : ∃ node around left, closings.find? s.hasClosed = some (node, around) ∧ fault = .closedTwice node ∧
    t.active = left ++ others ∧ List.Forall₂ Own around left

/-- The state in which some owners are about to be declared: the scopes of the owners around are open, the next
ones will be those of the owners that begin, and each owner is closed once. -/
structure Amid (Own : NodeId → ScopeId → Prop) (others : List ScopeId) (nested : Bool) (around : List NodeId)
    (s : State) (begun : List NodeId) (closings : List (NodeId × List NodeId)) : Prop where
  depth : decide (0 < s.functionDepth) = nested
  exist : ∀ scope ∈ s.active, scope.index < s.scopes.size
  open' : ∃ left, s.active = left ++ others ∧ List.Forall₂ Own around left
  numbers : ∀ entry ∈ numbered s.scopes.size begun, Own entry.1 entry.2
  distinct : (closings.map Prod.fst).Nodup

/-- The second state is the first one with a scope opened and entered. -/
structure Entered (s t : State) : Prop where
  active : t.active = ⟨s.scopes.size⟩ :: s.active
  functionDepth : t.functionDepth = s.functionDepth
  returnTypes : t.returnTypes = s.returnTypes
  size : t.scopes.size = s.scopes.size + 1
  closed : ∀ node, t.scopes.scopeOf? node = s.scopes.scopeOf? node

namespace Closes

variable {first second begun ended : List NodeId}

/-- Nothing is closed. -/
lemma unchanged (active : t.active = s.active) (functionDepth : t.functionDepth = s.functionDepth)
    (returnTypes : t.returnTypes = s.returnTypes) (size : t.scopes.size = s.scopes.size)
    (closed : t.scopes.closed = s.scopes.closed) : Closes s t [] [] where
  active := active
  functionDepth := functionDepth
  returnTypes := returnTypes
  size := size
  fresh := nofun
  others := fun _ _ => by rw [ScopeTable.scopeOf?, ScopeTable.scopeOf?, closed]

/-- What has a scope keeps it. -/
lemma kept (h : Closes s t begun ended) (node : NodeId) (scope : ScopeId)
    (found : s.scopes.scopeOf? node = some scope) : t.scopes.scopeOf? node = some scope := by
  have other : node ∉ ended := fun mem => by simp [h.fresh node mem] at found
  rw [h.others node other, found]

/-- Scopes are recorded for some owners and then for others. -/
lemma trans {more : List NodeId} (h : Closes s t begun first) (g : Closes t u more second)
    (apart : first.Disjoint second) : Closes s u (begun ++ more) (first ++ second) where
  active := g.active.trans h.active
  functionDepth := g.functionDepth.trans h.functionDepth
  returnTypes := g.returnTypes.trans h.returnTypes
  size := by rw [g.size, h.size, List.length_append, Nat.add_assoc]
  fresh := by
    intro node mem
    rcases List.mem_append.mp mem with mem | mem
    · exact h.fresh node mem
    · rw [← h.others node fun before => apart before mem]
      exact g.fresh node mem
  others := by
    intro node other
    rw [List.mem_append, not_or] at other
    rw [g.others node other.2, h.others node other.1]

/-- Owners that are closed next have scopes exactly if they had them before. -/
lemma find?_eq {closings : List (NodeId × List NodeId)} (h : Closes s t begun ended)
    (apart : ended.Disjoint (closings.map Prod.fst)) :
    closings.find? t.hasClosed = closings.find? s.hasClosed := by
  refine List.find?_congr fun closing mem => ?_
  rw [State.hasClosed, State.hasClosed, h.others _ fun before => apart before (List.mem_map_of_mem mem)]

/-- No owner that was closed had a scope. -/
lemma find?_eq_none {closings : List (NodeId × List NodeId)} (h : Closes s t begun (closings.map Prod.fst)) :
    closings.find? s.hasClosed = none := by
  refine List.find?_eq_none.mpr fun closing mem => ?_
  simp [State.hasClosed, h.fresh _ (List.mem_map_of_mem mem)]

end Closes

/-- Going on in a scope that was entered. -/
lemma Entered.goOn (h : Entered s t) (g : Closes t u [] []) : Entered s u where
  active := g.active.trans h.active
  functionDepth := g.functionDepth.trans h.functionDepth
  returnTypes := g.returnTypes.trans h.returnTypes
  size := g.size.trans h.size
  closed := fun node => (g.others node nofun).trans (h.closed node)

lemma Entered.hasClosed (h : Entered s t) : t.hasClosed = s.hasClosed := by
  funext closing
  rw [State.hasClosed, State.hasClosed, h.closed]

/-- Leaving a scope that was entered and recording it, once others were recorded. -/
lemma Entered.closes {id : NodeId} {own : ScopeId} {begun ended : List NodeId} {table : ScopeTable} (h : Entered s t)
    (g : Closes t u begun ended) (free : s.scopes.scopeOf? id = none) (closed : u.scopes.close id own = .ok table) :
    Closes s { u with active := u.active.tail, scopes := table } (id :: begun) (ended ++ [id]) where
  active := by rw [g.active, h.active, List.tail_cons]
  functionDepth := g.functionDepth.trans h.functionDepth
  returnTypes := g.returnTypes.trans h.returnTypes
  size := by
    show table.size = _
    rw [size_close closed, g.size, h.size, List.length_cons]
    omega
  fresh := by
    intro node mem
    rcases List.mem_append.mp mem with mem | mem
    · exact (h.closed node).symm.trans (g.fresh node mem)
    · rw [List.mem_singleton.mp mem, free]
  others := by
    intro node other
    rw [List.mem_append, not_or] at other
    have apart : node ≠ id := fun e => other.2 (List.mem_singleton.mpr e)
    rw [ScopeTable.scopeOf?_of_close closed, if_neg apart, g.others node other.1, h.closed]

/-- Opening a scope after some steps and entering it after others. -/
lemma Closes.entered {parent : Option ScopeId} (h : Closes s t [] []) (g : Closes (t.opened parent) u [] []) :
    Entered s { u with active := ⟨t.scopes.size⟩ :: u.active } where
  active := by
    have size : t.scopes.size = s.scopes.size := h.size
    have active : u.active = t.active := g.active
    rw [size, active, h.active]
  functionDepth := g.functionDepth.trans h.functionDepth
  returnTypes := g.returnTypes.trans h.returnTypes
  size := by
    have size : t.scopes.size = s.scopes.size := h.size
    exact g.size.trans ((size_opened t parent).trans (by rw [size]))
  closed := fun node => (g.others node nofun).trans (h.others node nofun)

namespace Clashes

variable {Own : NodeId → ScopeId → Prop} {others : List ScopeId} {fault : Fault}
  {first second : List (NodeId × List NodeId)}

/-- Owners that are not come to make no difference. -/
lemma append (h : Clashes Own others s first fault t) (second : List (NodeId × List NodeId)) :
    Clashes Own others s (first ++ second) fault t := by
  obtain ⟨node, around, left, found, rest⟩ := h.first
  exact { h with first := ⟨node, around, left, by rw [List.find?_append, found, Option.some_or], rest⟩ }

/-- Owners that were closed before make no difference either. -/
lemma after {begun : List NodeId} (h : Closes s t begun (first.map Prod.fst)) (g : Clashes Own others t second fault u)
    (apart : (first.map Prod.fst).Disjoint (second.map Prod.fst)) :
    Clashes Own others s (first ++ second) fault u where
  functionDepth := g.functionDepth.trans h.functionDepth
  returnTypes := g.returnTypes.trans h.returnTypes
  exist := g.exist
  kept := fun node scope found => g.kept node scope (h.kept node scope found)
  first := by
    obtain ⟨node, around, left, found, rest⟩ := g.first
    refine ⟨node, around, left, ?_, rest⟩
    rw [List.find?_append, h.find?_eq_none, Option.none_or, ← h.find?_eq apart, found]

end Clashes

/-- What clashes from where a scope was entered clashes from before. -/
lemma Entered.clashes {Own : NodeId → ScopeId → Prop} {others : List ScopeId} {fault : Fault}
    {closings : List (NodeId × List NodeId)} (h : Entered s t) (g : Clashes Own others t closings fault u) :
    Clashes Own others s closings fault u where
  functionDepth := g.functionDepth.trans h.functionDepth
  returnTypes := g.returnTypes.trans h.returnTypes
  exist := g.exist
  kept := fun node scope found => g.kept node scope ((h.closed node).trans found)
  first := by
    obtain ⟨node, around, left, found, rest⟩ := g.first
    exact ⟨node, around, left, h.hasClosed ▸ found, rest⟩

/-- An attempt closes some owners, or fails at the first of them that has a scope. -/
def ClosesOnce (Own : NodeId → ScopeId → Prop) (others : List ScopeId) (action : Attempt Unit) (s : State)
    (begun : List NodeId) (closings : List (NodeId × List NodeId)) : Prop :=
  Ends action s (fun _ t => Closes s t begun (closings.map Prod.fst)) (Clashes Own others s closings)

section

variable {Own : NodeId → ScopeId → Prop} {others : List ScopeId} {nested : Bool} {around begun more : List NodeId}
  {first second closings : List (NodeId × List NodeId)}

/-- Owners that are different are different in both parts. -/
lemma disjoint_of_distinct (distinct : ((first ++ second).map Prod.fst).Nodup) :
    (first.map Prod.fst).Disjoint (second.map Prod.fst) := by
  rw [List.map_append] at distinct
  exact List.disjoint_of_nodup_append distinct

namespace Amid

/-- The owners in the first part of what is declared. -/
lemma left (h : Amid Own others nested around s (begun ++ more) (first ++ second)) :
    Amid Own others nested around s begun first where
  depth := h.depth
  exist := h.exist
  open' := h.open'
  numbers := fun entry mem => h.numbers entry (by rw [numbered_append]; exact List.mem_append_left _ mem)
  distinct := (List.map_append ▸ h.distinct).of_append_left

/-- The owners in the second part, when those in the first are closed. -/
lemma right (h : Amid Own others nested around s (begun ++ more) (first ++ second))
    (closes : Closes s t begun (first.map Prod.fst)) : Amid Own others nested around t more second where
  depth := closes.functionDepth ▸ h.depth
  exist := fun scope mem => (h.exist scope (closes.active ▸ mem)).trans_le (closes.size ▸ Nat.le_add_right _ _)
  open' := closes.active ▸ h.open'
  numbers := fun entry mem =>
    h.numbers entry (by rw [numbered_append, ← closes.size]; exact List.mem_append_right _ mem)
  distinct := (List.map_append ▸ h.distinct).of_append_right

/-- The owners inside another one, when its scope was opened. -/
lemma inside {id : NodeId} {deeper : Bool}
    (h : Amid Own others nested around s (id :: begun) (closings ++ [(id, around)]))
    (active : t.active = ⟨s.scopes.size⟩ :: s.active) (size : t.scopes.size = s.scopes.size + 1)
    (depth : decide (0 < t.functionDepth) = deeper) : Amid Own others deeper (id :: around) t begun closings where
  depth := depth
  exist := by
    rw [active, size]
    intro scope mem
    rcases List.mem_cons.mp mem with rfl | mem
    · exact Nat.lt_succ_self _
    · exact (h.exist scope mem).trans (Nat.lt_succ_self _)
  open' := by
    obtain ⟨left, e, own⟩ := h.open'
    exact ⟨⟨s.scopes.size⟩ :: left, by rw [active, e, List.cons_append],
      .cons (h.numbers (id, ⟨s.scopes.size⟩) List.mem_cons_self) own⟩
  numbers := fun entry mem => h.numbers entry (List.mem_cons_of_mem _ (size ▸ mem))
  distinct := (List.map_append ▸ h.distinct).of_append_left

/-- Inside an owner there is an innermost scope. -/
lemma scope {id : NodeId} (h : Amid Own others nested (id :: around) s begun closings) :
    ∃ scope, s.scope = .ok scope := by
  obtain ⟨left, e, own⟩ := h.open'
  cases own with
  | cons => exact ⟨_, by rw [State.scope, e, List.cons_append]⟩

/-- An owner that has a scope already is the first one that has, if those inside it were closed. -/
lemma taken {id : NodeId} (h : Amid Own others nested around s (id :: begun) (closings ++ [(id, around)]))
    (entered : Entered s t) (closes : Closes t u begun (closings.map Prod.fst))
    (found : (s.scopes.scopeOf? id).isSome) :
    Clashes Own others s (closings ++ [(id, around)]) (.closedTwice id) { u with active := u.active.tail } := by
  have left : u.active.tail = s.active := by rw [closes.active, entered.active, List.tail_cons]
  have grown : s.scopes.size < u.scopes.size := by
    rw [closes.size, entered.size]
    omega
  obtain ⟨scopes, e, own⟩ := h.open'
  exact {
    functionDepth := closes.functionDepth.trans entered.functionDepth
    returnTypes := closes.returnTypes.trans entered.returnTypes
    exist := fun scope mem => (h.exist scope (left ▸ mem)).trans grown
    kept := fun node scope had => closes.kept node scope ((entered.closed node).trans had)
    first := by
      refine ⟨id, around, scopes, ?_, rfl, left.trans e, own⟩
      have inside : closings.find? s.hasClosed = none := by rw [← entered.hasClosed, closes.find?_eq_none]
      rw [List.find?_append, inside, Option.none_or]
      exact List.find?_cons_of_pos found }

end Amid

namespace ClosesOnce

/-- An attempt that closes nothing and does not fail. -/
lemma of_succeeds {action : Attempt Unit} (h : Succeeds action s fun _ t => Closes s t [] []) :
    ClosesOnce Own others action s [] [] :=
  Ends.of_succeeds h

/-- Some owners are closed and then others. -/
lemma seq {action next : Attempt Unit} (amid : Amid Own others nested around s (begun ++ more) (first ++ second))
    (h : ClosesOnce Own others action s begun first)
    (g : ∀ t, Closes s t begun (first.map Prod.fst) → ClosesOnce Own others next t more second) :
    ClosesOnce Own others (do action; next) s (begun ++ more) (first ++ second) := by
  have apart := disjoint_of_distinct amid.distinct
  refine .bind (h.mono (fun _ t closes => ?_) fun fault t clashes => clashes.append second)
  refine (g t closes).mono (fun _ u closes' => ?_) fun fault u clashes => .after closes clashes apart
  rw [List.map_append]
  exact closes.trans closes' apart

/-- Owners in the body of a function are closed as others are. -/
lemma insideFunction {action : Attempt Unit}
    (h : ClosesOnce Own others action { s with functionDepth := s.functionDepth + 1 } begun closings) :
    ClosesOnce Own others (Analysis.insideFunction action) s begun closings := by
  refine Ends.insideFunction (h.mono (fun _ t closes => ?_) fun fault t clashes => ?_)
  · exact { closes with functionDepth := by rw [closes.functionDepth, Nat.add_sub_cancel] }
  · exact { clashes with functionDepth := by rw [clashes.functionDepth, Nat.add_sub_cancel] }

/-- An owner that was entered is closed behind the owners inside it. -/
lemma owned {id : NodeId} {own : ScopeId} {action : Attempt Unit}
    (amid : Amid Own others nested around s (id :: begun) (closings ++ [(id, around)])) (entered : Entered s t)
    (h : ClosesOnce Own others action t begun closings) :
    Ends (do action; leave; close id own) t
      (fun _ u => Closes s u (id :: begun) ((closings ++ [(id, around)]).map Prod.fst))
      (Clashes Own others s (closings ++ [(id, around)])) := by
  refine .bind (h.mono (fun _ u closes => ?_) fun fault u clashes => (entered.clashes clashes).append _)
  -- Nothing inside the owner has failed, so only the owner itself can have a scope already.
  have alone : id ∉ closings.map Prod.fst := fun mem =>
    disjoint_of_distinct amid.distinct mem (List.mem_singleton_self id)
  have same : u.scopes.scopeOf? id = s.scopes.scopeOf? id := (closes.others id alone).trans (entered.closed id)
  rw [List.map_append]
  exact close_ends (fun free table closed => entered.closes closes (same ▸ free) closed)
    fun taken => amid.taken entered closes (same ▸ taken)

end ClosesOnce

/-! ## Declaring -/

/-- Making a declaration closes nothing. -/
lemma declare_closes {σ : Type} [Symbol σ] (what : Declared) (scope : ScopeId) (key : String) (name : Span)
    (symbol : σ) : Leads (declare what scope key name symbol) s fun _ t => Closes s t [] [] := by
  have closes : ∀ findings, Closes s { s with scopes := (s.scopes.declare scope key symbol).2, findings } [] [] :=
    fun findings => .unchanged rfl rfl rfl (size_declare _ _ _ _) (closed_declare _ _ _ _)
  exact declare_leads (fun _ _ => closes _) (fun _ => closes _)

/-- Declaring a type closes nothing. -/
lemma declareType_closes (scope : ScopeId) (node : NodeId) (name : Span) (arity : Nat) :
    Leads (declareType scope node name arity) s fun _ t => Closes s t [] [] := by
  refine Leads.bind ?_
  show Leads (declare .type scope (mangle name.content arity) name (⟨⟨s.types.size⟩, name⟩ : TypeSymbol))
    { s with
      types := (s.types.registerUser name.content node).2
      definedTypes := (node, ⟨s.types.size⟩) :: s.definedTypes } fun _ t => Closes s t [] []
  exact (declare_closes ..).mono fun _ t h => ⟨h.active, h.functionDepth, h.returnTypes, h.size, nofun, h.others⟩

/-- Declaring type parameters closes nothing. -/
lemma declareTypeParameters_close (scope : ScopeId) (names : List Span) :
    Leads (names.forM (declareTypeParameter scope)) s fun _ t => Closes s t [] [] := by
  induction names generalizing s with
  | nil => exact .unchanged rfl rfl rfl rfl rfl
  | cons name rest ih =>
    have first : Leads (declareTypeParameter scope name) s fun _ t => Closes s t [] [] := by
      refine Leads.bind ?_
      show Leads (declare .type scope name.content name (⟨⟨s.types.size⟩, name⟩ : TypeSymbol))
        { s with types := (s.types.registerParameter name.content).2 } fun _ t => Closes s t [] []
      exact (declare_closes ..).mono fun _ t h => ⟨h.active, h.functionDepth, h.returnTypes, h.size, nofun, h.others⟩
    rw [List.forM]
    exact Leads.bind (first.mono fun _ t head => ih.mono fun _ u tail => head.trans tail (List.disjoint_nil_left _))

/-- Declaring a variable in a scope closes nothing. -/
lemma declareVariable_closes {scope : ScopeId} (inside : s.scope = .ok scope) (node : NodeId) (name : Span)
    (written : Option TypeRef) : Succeeds (declareVariable node name written) s fun _ t => Closes s t [] [] := by
  unfold declareVariable currentScope
  exact .bind (.ask inside (.lift (declare_closes ..)))

/-- Declaring variables one after the other closes nothing. -/
lemma declareAll_close {α : Type} {action : α → Attempt Unit}
    (each : ∀ {s : State} {scope : ScopeId} (one : α), s.scope = .ok scope →
      Succeeds (action one) s fun _ t => Closes s t [] [])
    {scope : ScopeId} (inside : s.scope = .ok scope) (list : List α) :
    Succeeds (list.forM action) s fun _ t => Closes s t [] [] := by
  induction list generalizing s with
  | nil => exact .pure (.unchanged rfl rfl rfl rfl rfl)
  | cons first rest ih =>
    rw [List.forM]
    refine .bind ((each first inside).mono fun _ t head => ?_)
    have inside : t.scope = .ok scope := by rw [State.scope, head.active]; exact inside
    exact (ih inside).mono fun _ u tail => head.trans tail (List.disjoint_nil_left _)

mutual

/-- Declaring a block closes the owners in it and then the block. -/
lemma declareBlock_closes : ∀ (block : Block) {s : State} {nested : Bool} {around : List NodeId} (outer : NodeId),
    Amid Own others nested around s ((block.enclosed nested outer).map Prod.fst) (block.closings nested around) →
    ClosesOnce Own others (declareBlock block) s ((block.enclosed nested outer).map Prod.fst)
      (block.closings nested around)
  | ⟨id, _, statements, _⟩, s, nested, around, outer, amid => by
    rw [Block.enclosed, Block.closings, List.map_cons] at amid ⊢
    rw [declareBlock]
    refine Ends.after (.get (.after (.lift ?_)))
    show Ends _ (s.opened s.active.head?) _ _
    refine Ends.after (.lift (.changed ?_))
    have entered : Entered s { s.opened s.active.head? with active := ⟨s.scopes.size⟩ :: s.active } :=
      Closes.entered (.unchanged rfl rfl rfl rfl rfl) (.unchanged rfl rfl rfl rfl rfl)
    exact ClosesOnce.owned amid entered
      (declareStatements_close statements id (amid.inside entered.active entered.size amid.depth))

lemma declareStatements_close : ∀ (list : List Statement) {s : State} {nested : Bool} {id : NodeId}
    {around : List NodeId} (outer : NodeId),
    Amid Own others nested (id :: around) s ((statementsEnclosed nested outer list).map Prod.fst)
      (statementsClosings nested (id :: around) list) →
    ClosesOnce Own others (declareStatements list) s ((statementsEnclosed nested outer list).map Prod.fst)
      (statementsClosings nested (id :: around) list)
  | [], s, nested, id, around, outer, _ => by
    rw [declareStatements, statementsEnclosed, statementsClosings]
    exact .of_succeeds (.pure (.unchanged rfl rfl rfl rfl rfl))
  | statement :: rest, s, nested, id, around, outer, amid => by
    rw [statementsEnclosed, statementsClosings, List.map_append] at amid ⊢
    rw [declareStatements]
    exact .seq amid (declareStatement_closes statement outer amid.left) fun t closes =>
      declareStatements_close rest outer (amid.right closes)

lemma declareStatement_closes : ∀ (statement : Statement) {s : State} {nested : Bool} {id : NodeId}
    {around : List NodeId} (outer : NodeId),
    Amid Own others nested (id :: around) s ((statement.enclosed nested outer).map Prod.fst)
      (statement.closings nested (id :: around)) →
    ClosesOnce Own others (declareStatement statement) s ((statement.enclosed nested outer).map Prod.fst)
      (statement.closings nested (id :: around))
  | .type definition, s, nested, id, around, outer, amid => by
    rw [Statement.enclosed, Statement.closings] at amid ⊢
    rw [declareStatement]
    refine Ends.after (.get ?_)
    -- Inside a function a definition is only reported, and it is no owner.
    cases nested with
    | true =>
      rw [if_pos (of_decide_eq_true amid.depth)]
      exact .of_succeeds (.lift (.unchanged rfl rfl rfl rfl rfl))
    | false =>
      rw [if_neg (of_decide_eq_false amid.depth)]
      exact declareTypeDef_closes definition outer amid
  | .function definition, s, nested, id, around, outer, amid => by
    rw [Statement.enclosed, Statement.closings] at amid ⊢
    rw [declareStatement]
    refine Ends.after (.get ?_)
    cases nested with
    | true =>
      rw [if_pos (of_decide_eq_true amid.depth)]
      exact .of_succeeds (.lift (.unchanged rfl rfl rfl rfl rfl))
    | false =>
      rw [if_neg (of_decide_eq_false amid.depth)]
      exact declareFunctionDef_closes definition outer amid
  | .variable declaration, s, nested, id, around, outer, amid => by
    obtain ⟨scope, inside⟩ := amid.scope
    rw [declareStatement, Statement.enclosed, Statement.closings]
    exact .of_succeeds (declareVariable_closes inside _ _ _)
  | .whileLoop _ _ body, s, nested, id, around, outer, amid => by
    rw [Statement.enclosed, Statement.closings] at amid ⊢
    rw [declareStatement]
    exact declareBlock_closes body outer amid
  | .conditional conditional, s, nested, id, around, outer, amid => by
    rw [Statement.enclosed, Statement.closings] at amid ⊢
    rw [declareStatement]
    exact declareConditional_closes conditional outer amid
  | .returning .., s, nested, id, around, outer, _
  | .breaking _, s, nested, id, around, outer, _
  | .continuing _, s, nested, id, around, outer, _
  | .importing .., s, nested, id, around, outer, _
  | .path .., s, nested, id, around, outer, _
  | .expression _, s, nested, id, around, outer, _ => by
    rw [declareStatement, Statement.enclosed, Statement.closings]
    exact .of_succeeds (.pure (.unchanged rfl rfl rfl rfl rfl))

lemma declareConditional_closes : ∀ (conditional : Conditional) {s : State} {nested : Bool} {around : List NodeId}
    (outer : NodeId),
    Amid Own others nested around s ((conditional.enclosed nested outer).map Prod.fst)
      (conditional.closings nested around) →
    ClosesOnce Own others (declareConditional conditional) s ((conditional.enclosed nested outer).map Prod.fst)
      (conditional.closings nested around)
  | ⟨_, body, otherwise, _⟩, s, nested, around, outer, amid => by
    rw [Conditional.enclosed, Conditional.closings, List.map_append] at amid ⊢
    rw [declareConditional]
    exact .seq amid (declareBlock_closes body outer amid.left) fun t closes =>
      declareOtherwise_closes otherwise outer (amid.right closes)

lemma declareOtherwise_closes : ∀ (otherwise : Otherwise) {s : State} {nested : Bool} {around : List NodeId}
    (outer : NodeId),
    Amid Own others nested around s ((otherwise.enclosed nested outer).map Prod.fst)
      (otherwise.closings nested around) →
    ClosesOnce Own others (declareOtherwise otherwise) s ((otherwise.enclosed nested outer).map Prod.fst)
      (otherwise.closings nested around)
  | .nothing, s, nested, around, outer, _ => by
    rw [declareOtherwise, Otherwise.enclosed, Otherwise.closings]
    exact .of_succeeds (.pure (.unchanged rfl rfl rfl rfl rfl))
  | .conditional conditional, s, nested, around, outer, amid => by
    rw [Otherwise.enclosed, Otherwise.closings] at amid ⊢
    rw [declareOtherwise]
    exact declareConditional_closes conditional outer amid
  | .block block, s, nested, around, outer, amid => by
    rw [Otherwise.enclosed, Otherwise.closings] at amid ⊢
    rw [declareOtherwise]
    exact declareBlock_closes block outer amid

/-- Declaring a function closes the owners in its body and then the function. -/
lemma declareFunctionDef_closes : ∀ (definition : FunctionDef) {s : State} {nested : Bool} {id : NodeId}
    {around : List NodeId} (outer : NodeId),
    Amid Own others nested (id :: around) s ((definition.enclosed outer).map Prod.fst)
      (definition.closings (id :: around)) →
    ClosesOnce Own others (declareFunctionDef definition) s ((definition.enclosed outer).map Prod.fst)
      (definition.closings (id :: around))
  | ⟨id, name, typeParameters, parameters, returns, body, _⟩, s, nested, _, around, outer, amid => by
    obtain ⟨scope, inside⟩ := amid.scope
    rw [FunctionDef.enclosed, FunctionDef.closings, List.map_cons] at amid ⊢
    rw [declareFunctionDef]
    refine Ends.after (.ask inside (.after (.lift ?_)))
    show Ends _ (s.opened (some scope)) _ _
    refine Ends.after (.lift ((declare_closes ..).mono fun _ t declared => ?_))
    have entered := Closes.entered (.unchanged rfl rfl rfl rfl rfl) declared
    refine Ends.after (.lift (.changed (.after (.lift ((declareTypeParameters_close _ _).mono fun _ u types => ?_)))))
    have entered := entered.goOn types
    have own : u.scope = .ok ⟨s.scopes.size⟩ := by rw [State.scope, entered.active]
    refine Ends.after ((declareAll_close (fun parameter inside => declareVariable_closes inside _ _ _) own
      parameters).mono fun _ v list => ?_)
    have entered := entered.goOn list
    -- The body is declared one level deeper, where definitions own nothing.
    have deeper : Amid Own others true _ { v with functionDepth := v.functionDepth + 1 } _ _ :=
      amid.inside entered.active entered.size (decide_eq_true (Nat.succ_pos _))
    exact ClosesOnce.owned amid entered (.insideFunction (declareBlock_closes body id deeper))

lemma declareFunctionDefs_close : ∀ (list : List FunctionDef) {s : State} {nested : Bool} {id : NodeId}
    {around : List NodeId} (outer : NodeId),
    Amid Own others nested (id :: around) s ((functionsEnclosed outer list).map Prod.fst)
      (functionsClosings (id :: around) list) →
    ClosesOnce Own others (declareFunctionDefs list) s ((functionsEnclosed outer list).map Prod.fst)
      (functionsClosings (id :: around) list)
  | [], s, nested, id, around, outer, _ => by
    rw [declareFunctionDefs, functionsEnclosed, functionsClosings]
    exact .of_succeeds (.pure (.unchanged rfl rfl rfl rfl rfl))
  | definition :: rest, s, nested, id, around, outer, amid => by
    rw [functionsEnclosed, functionsClosings, List.map_append] at amid ⊢
    rw [declareFunctionDefs]
    exact .seq amid (declareFunctionDef_closes definition outer amid.left) fun t closes =>
      declareFunctionDefs_close rest outer (amid.right closes)

/-- Declaring a type closes the owners in its methods and then the type. -/
lemma declareTypeDef_closes : ∀ (definition : TypeDef) {s : State} {nested : Bool} {id : NodeId}
    {around : List NodeId} (outer : NodeId),
    Amid Own others nested (id :: around) s ((definition.enclosed outer).map Prod.fst)
      (definition.closings (id :: around)) →
    ClosesOnce Own others (declareTypeDef definition) s ((definition.enclosed outer).map Prod.fst)
      (definition.closings (id :: around))
  | ⟨id, name, typeParameters, fields, methods, _, _⟩, s, nested, _, around, outer, amid => by
    obtain ⟨scope, inside⟩ := amid.scope
    rw [TypeDef.enclosed, TypeDef.closings, List.map_cons] at amid ⊢
    rw [declareTypeDef]
    refine Ends.after (.ask inside (.after (.lift ((declareType_closes ..).mono fun _ t declared => ?_))))
    refine Ends.after (.lift ?_)
    show Ends _ (t.opened (some scope)) _ _
    have entered : Entered s { t.opened (some scope) with active := ⟨t.scopes.size⟩ :: t.active } :=
      declared.entered (.unchanged rfl rfl rfl rfl rfl)
    refine Ends.after (.lift (.changed (.after (.lift ((declareTypeParameters_close _ _).mono fun _ u types => ?_)))))
    have entered := entered.goOn types
    have own : u.scope = .ok ⟨s.scopes.size⟩ := by rw [State.scope, entered.active]
    refine Ends.after ((declareAll_close (fun field inside => declareVariable_closes inside _ _ _) own
      fields).mono fun _ v list => ?_)
    have entered := entered.goOn list
    exact ClosesOnce.owned amid entered
      (declareFunctionDefs_close methods id
        (amid.inside entered.active entered.size (entered.functionDepth ▸ amid.depth)))

end

end

end Analysis

end ArrowScript
