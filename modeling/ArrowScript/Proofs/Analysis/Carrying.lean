import ArrowScript.Analysis.Statement
import Mathlib.Tactic.Common

/-!
# Carrying actions over

A map of states carries one action over to another if the second does in the image of a state what the first does in
the state: it gives a corresponding result and leads to the image of the state that the first leads to, or to a
corresponding fault. Actions that are put together from such actions are such actions.
-/

namespace ArrowScript.Analysis

section
variable (carry : State → State) {ε ε' ν μ α β : Type}

/-- A step is carried over to another, and its result to a corresponding one. -/
def StepsCarry (f : α → β) (first : Step α) (second : Step β) : Prop :=
  ∀ s, second (carry s) = Prod.map f carry (first s)

/-- What an action ends with, carried over. -/
def endCarry (g : ε → ε') (f : α → β) : EStateM.Result ε State α → EStateM.Result ε' State β
  | .ok a s => .ok (f a) (carry s)
  | .error e s => .error (g e) (carry s)

/-- An action is carried over to another, and its result or fault to a corresponding one. -/
def RunsCarry (g : ε → ε') (f : α → β) (first : EStateM ε State α) (second : EStateM ε' State β) : Prop :=
  ∀ s, second (carry s) = endCarry carry g f (first s)

/-- A visit is carried over to another; nodes that come with a fault correspond by `r`. -/
def VisitsCarry (r : ν → μ) (f : α → β) (first : Visit ν α) (second : Visit μ β) : Prop :=
  RunsCarry carry (Prod.map id r) f first second

end

variable {carry : State → State} {ε ε' ν μ ν' μ' α β γ δ : Type}

/-! ## Steps -/

namespace StepsCarry

/-- Corresponding results. -/
lemma pure {f : α → β} {a : α} {b : β} (h : b = f a) :
    StepsCarry carry f (Pure.pure a) (Pure.pure b) := by
  rintro s
  rw [h]
  rfl

/-- Corresponding sequences of steps. -/
lemma bind {f : α → β} {h : γ → δ} {first : Step α} {second : Step β} {next : α → Step γ} {next' : β → Step δ}
    (carries : StepsCarry carry f first second) (rest : ∀ a, StepsCarry carry h (next a) (next' (f a))) :
    StepsCarry carry h (first >>= next) (second >>= next') := by
  intro s
  show (next' (second (carry s)).1) (second (carry s)).2 = _
  rw [carries s]
  exact rest _ _

/-- Corresponding steps whose results nobody asks for. -/
lemma discard {f : α → β} {first : Step α} {second : Step β} (carries : StepsCarry carry f first second) :
    StepsCarry carry id (Functor.discard first) (Functor.discard second) := by
  intro s
  show ((), (second (carry s)).2) = _
  rw [carries s]
  rfl

/-- The state itself. -/
lemma get : StepsCarry carry carry MonadState.get MonadState.get := fun _ => rfl

/-- Corresponding changes of the state. -/
lemma changed {change change' : State → State} (h : ∀ s, change' (carry s) = carry (change s)) :
    StepsCarry carry id (modify change) (modify change') := by
  intro s
  show (PUnit.unit, change' (carry s)) = _
  rw [h]
  rfl

/-- Corresponding changes of the state that give something. -/
lemma modifyGet {f : α → β} {change : State → α × State} {change' : State → β × State}
    (h : ∀ s, change' (carry s) = Prod.map f carry (change s)) :
    StepsCarry carry f (MonadStateOf.modifyGet change) (MonadStateOf.modifyGet change') :=
  h

/-- The same step for corresponding elements of two lists. -/
lemma forM {ρ : α → β} {visit : α → Step PUnit} {visit' : β → Step PUnit}
    (carries : ∀ a, StepsCarry carry id (visit a) (visit' (ρ a))) (list : List α) :
    StepsCarry carry id (list.forM visit) ((list.map ρ).forM visit') := by
  induction list with
  | nil => exact pure rfl
  | cons a rest ih =>
    rw [List.map_cons]
    exact (carries a).bind fun _ => ih

/-- The same step for corresponding elements of two lists, with all results. -/
lemma mapM {ρ : α → β} {f : γ → δ} {visit : α → Step γ} {visit' : β → Step δ}
    (carries : ∀ a, StepsCarry carry f (visit a) (visit' (ρ a))) (list : List α) :
    StepsCarry carry (List.map f) (list.mapM visit) ((list.map ρ).mapM visit') := by
  induction list with
  | nil => exact pure rfl
  | cons a rest ih =>
    rw [List.map_cons, List.mapM_cons, List.mapM_cons]
    exact (carries a).bind fun c => ih.bind fun cs => pure rfl

end StepsCarry

/-! ## Actions -/

namespace RunsCarry

variable {g : ε → ε'} {f : α → β}

/-- Corresponding results. -/
lemma pure {a : α} {b : β} (h : b = f a) :
    RunsCarry carry g f (Pure.pure a : EStateM ε State α) (Pure.pure b : EStateM ε' State β) := by
  rintro s
  rw [h]
  rfl

/-- Corresponding sequences of actions. -/
lemma bind {h : γ → δ} {first : EStateM ε State α} {second : EStateM ε' State β} {next : α → EStateM ε State γ}
    {next' : β → EStateM ε' State δ} (carries : RunsCarry carry g f first second)
    (rest : ∀ a, RunsCarry carry g h (next a) (next' (f a))) :
    RunsCarry carry g h (first >>= next) (second >>= next') := by
  intro s
  show EStateM.bind second next' _ = endCarry carry g h (EStateM.bind first next s)
  unfold EStateM.bind
  rw [carries s]
  cases first s with
  | ok a t => exact rest a t
  | error e t => rfl

/-- Corresponding steps. -/
lemma lift {first : Step α} {second : Step β} (carries : StepsCarry carry f first second) :
    RunsCarry carry g f (liftM first : EStateM ε State α) (liftM second : EStateM ε' State β) := by
  intro s
  show EStateM.Result.ok (second (carry s)).1 (second (carry s)).2 = _
  rw [carries s]
  rfl

/-- The state itself. -/
lemma get : RunsCarry carry g carry (MonadState.get : EStateM ε State State)
    (MonadState.get : EStateM ε' State State) :=
  fun _ => rfl

/-- Corresponding changes of the state. -/
lemma changed {change change' : State → State} (h : ∀ s, change' (carry s) = carry (change s)) :
    RunsCarry carry g id (modify change : EStateM ε State PUnit) (modify change' : EStateM ε' State PUnit) := by
  intro s
  show EStateM.Result.ok PUnit.unit (change' (carry s)) = _
  rw [h]
  rfl

/-- Corresponding questions to the state. -/
lemma ask {fail : Fault → ε} {fail' : Fault → ε'} {question : State → Except Fault α}
    {question' : State → Except Fault β} (fails : ∀ fault, fail' fault = g (fail fault))
    (h : ∀ s, question' (carry s) = (question s).map f) :
    RunsCarry carry g f (Analysis.ask fail question) (Analysis.ask fail' question') := by
  intro s
  unfold Analysis.ask
  rw [h]
  cases question s with
  | ok a => rfl
  | error fault => exact congrArg (EStateM.Result.error · _) (fails fault)

/-- Corresponding actions whose faults come with something else. -/
lemma adapt {e : ε → ν} {e' : ε' → μ} {r : ν → μ} {first : EStateM ε State α} {second : EStateM ε' State β}
    (carries : RunsCarry carry g f first second) (fails : ∀ fault, e' (g fault) = r (e fault)) :
    RunsCarry carry r f (first.adaptExcept e) (second.adaptExcept e') := by
  intro s
  unfold EStateM.adaptExcept
  rw [carries s]
  cases first s with
  | ok a t => rfl
  | error fault t => exact congrArg (EStateM.Result.error · _) (fails fault)

/-- Corresponding actions as part of a function body. -/
lemma insideFunction {first : EStateM ε State α} {second : EStateM ε' State β}
    (carries : RunsCarry carry g f first second)
    (deeper : ∀ s, { carry s with functionDepth := (carry s).functionDepth + 1 } =
      carry { s with functionDepth := s.functionDepth + 1 })
    (shallower : ∀ s, { carry s with functionDepth := (carry s).functionDepth - 1 } =
      carry { s with functionDepth := s.functionDepth - 1 }) :
    RunsCarry carry g f (Analysis.insideFunction first) (Analysis.insideFunction second) := by
  intro s
  unfold Analysis.insideFunction
  simp only
  rw [deeper, carries]
  cases first { s with functionDepth := s.functionDepth + 1 } with
  | ok a t => exact congrArg (EStateM.Result.ok _) (shallower t)
  | error e t => exact congrArg (EStateM.Result.error _) (shallower t)

/-- Corresponding actions where a type is to be returned. -/
lemma returningType {first : EStateM ε State α} {second : EStateM ε' State β}
    (carries : RunsCarry carry g f first second) (type : Option TypeId)
    (expects : ∀ s, { carry s with returnTypes := type :: (carry s).returnTypes } =
      carry { s with returnTypes := type :: s.returnTypes })
    (forgets : ∀ s, { carry s with returnTypes := (carry s).returnTypes.tail } =
      carry { s with returnTypes := s.returnTypes.tail }) :
    RunsCarry carry g f (Analysis.returningType type first) (Analysis.returningType type second) := by
  intro s
  unfold Analysis.returningType
  simp only
  rw [expects, carries]
  cases first { s with returnTypes := type :: s.returnTypes } with
  | ok a t => exact congrArg (EStateM.Result.ok _) (forgets t)
  | error e t => exact congrArg (EStateM.Result.error _) (forgets t)

/-- The same action for corresponding elements of two lists. -/
lemma forM {ρ : α → β} {g : ε → ε} {visit : α → EStateM ε State PUnit} {visit' : β → EStateM ε State PUnit}
    (carries : ∀ a, RunsCarry carry g id (visit a) (visit' (ρ a))) (list : List α) :
    RunsCarry carry g id (list.forM visit) ((list.map ρ).forM visit') := by
  induction list with
  | nil => exact pure rfl
  | cons a rest ih =>
    rw [List.map_cons]
    exact (carries a).bind fun _ => ih

end RunsCarry

/-! ## Visits -/

namespace VisitsCarry

variable {r : ν → μ} {f : α → β}

/-- Corresponding questions to the state, asked on visits of corresponding nodes. -/
lemma askFor {node : ν} {node' : μ} {question : State → Except Fault α} {question' : State → Except Fault β}
    (same : node' = r node) (h : ∀ s, question' (carry s) = (question s).map f) :
    VisitsCarry carry r f (Analysis.askFor node question) (Analysis.askFor node' question') :=
  RunsCarry.ask (fun _ => by rw [same]; rfl) h

/-- Corresponding work on parts of nodes. -/
lemma within {place : ν → ν'} {place' : μ → μ'} {r' : ν' → μ'} {first : Visit ν α} {second : Visit μ β}
    (carries : VisitsCarry carry r f first second) (places : ∀ node, place' (r node) = r' (place node)) :
    VisitsCarry carry r' f (Analysis.within place first) (Analysis.within place' second) :=
  RunsCarry.adapt carries fun fault => congrArg (Prod.mk fault.1) (places fault.2)

end VisitsCarry

end ArrowScript.Analysis
