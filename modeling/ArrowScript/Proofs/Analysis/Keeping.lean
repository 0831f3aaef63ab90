import ArrowScript.Proofs.Analysis.Succeeds

/-!
# Actions that keep an invariant

`StepKeeps`, `RunKeeps` and `VisitKeeps` say what an action gives and what comes with a fault, and that an invariant
of the state is kept either way. Nothing else is known of the state in between, so the lemmas take an action apart
from the first thing it does to the last.
-/

namespace ArrowScript.Analysis

section
variable (I : State → Prop) {ε ν α : Type}

/-- A step keeps an invariant; what it gives is as stated. -/
def StepKeeps (Q : α → Prop) (step : Step α) : Prop :=
  ∀ s, I s → Q (step s).1 ∧ I (step s).2

/-- An action keeps an invariant; what it gives and what comes with a fault is as stated. -/
def RunKeeps (E : ε → Prop) (Q : α → Prop) (action : EStateM ε State α) : Prop :=
  ∀ s, I s → match action s with
    | .ok a t => Q a ∧ I t
    | .error e t => E e ∧ I t

/-- A visit keeps an invariant; what it gives and the node that comes with a fault is as stated. -/
def VisitKeeps (R : ν → Prop) (Q : α → Prop) (visit : Visit ν α) : Prop :=
  RunKeeps I (fun failure => R failure.2) Q visit

end

variable {I J : State → Prop} {ε ν μ α β : Type}

/-! ## Steps -/

namespace StepKeeps

variable {Q : α → Prop} {Q' : β → Prop}

/-- A result on its own. -/
lemma pure {a : α} (h : Q a) : StepKeeps I Q (Pure.pure a) :=
  fun _ kept => ⟨h, kept⟩

/-- A sequence of steps. -/
lemma bind {step : Step α} {next : α → Step β} (first : StepKeeps I Q step)
    (rest : ∀ a, Q a → StepKeeps I Q' (next a)) : StepKeeps I Q' (step >>= next) := by
  intro s kept
  obtain ⟨given, kept⟩ := first s kept
  exact rest _ given _ kept

/-- What is stated of a result may be weakened. -/
lemma mono {Q' : α → Prop} {step : Step α} (h : StepKeeps I Q step) (implies : ∀ a, Q a → Q' a) :
    StepKeeps I Q' step :=
  fun s kept => ⟨implies _ (h s kept).1, (h s kept).2⟩

/-- A step whose result nobody asks for. -/
lemma discard {step : Step α} (first : StepKeeps I Q step) : StepKeeps I (fun _ => True) (Functor.discard step) :=
  fun s kept => ⟨trivial, (first s kept).2⟩

/-- The state itself. -/
lemma get : StepKeeps I I MonadState.get :=
  fun _ kept => ⟨kept, kept⟩

/-- A changed state. -/
lemma changed {change : State → State} (h : ∀ s, I s → I (change s)) :
    StepKeeps I (fun _ => True) (modify change) :=
  fun s kept => ⟨trivial, h s kept⟩

/-- A changed state and something else. -/
lemma modifyGet {change : State → α × State} (h : ∀ s, I s → Q (change s).1 ∧ I (change s).2) :
    StepKeeps I Q (MonadStateOf.modifyGet change) :=
  h

/-- A step for each element of a list. -/
lemma forM {visit : α → Step PUnit} {list : List α} (each : ∀ a ∈ list, StepKeeps I (fun _ => True) (visit a)) :
    StepKeeps I (fun _ => True) (list.forM visit) := by
  induction list with
  | nil => exact pure trivial
  | cons a rest ih =>
    exact (each a List.mem_cons_self).bind fun _ _ => ih fun b mem => each b (List.mem_cons_of_mem _ mem)

/-- A step for each element of a list, with all results. -/
lemma mapM {R : α → β → Prop} {visit : α → Step β} {list : List α} (each : ∀ a ∈ list, StepKeeps I (R a) (visit a)) :
    StepKeeps I (List.Forall₂ R list) (list.mapM visit) := by
  induction list with
  | nil => exact pure .nil
  | cons a rest ih =>
    rw [List.mapM_cons]
    refine (each a List.mem_cons_self).bind fun b first => ?_
    refine (ih fun b mem => each b (List.mem_cons_of_mem _ mem)).bind fun others rest => ?_
    exact pure (.cons first rest)

end StepKeeps

/-! ## Actions -/

namespace RunKeeps

variable {E : ε → Prop} {Q : α → Prop} {Q' : β → Prop}

/-- A result on its own. -/
lemma pure {a : α} (h : Q a) : RunKeeps I E Q (Pure.pure a : EStateM ε State α) :=
  fun _ kept => ⟨h, kept⟩

/-- A sequence of actions. -/
lemma bind {action : EStateM ε State α} {next : α → EStateM ε State β} (first : RunKeeps I E Q action)
    (rest : ∀ a, Q a → RunKeeps I E Q' (next a)) : RunKeeps I E Q' (action >>= next) := by
  intro s kept
  show match EStateM.bind action next s with | .ok a t => _ | .error e t => _
  have first := first s kept
  unfold EStateM.bind
  cases e : action s with
  | ok a t =>
    rw [e] at first
    exact rest a first.1 t first.2
  | error failure t =>
    rw [e] at first
    exact first

/-- A step. -/
lemma lift {step : Step α} (h : StepKeeps I Q step) : RunKeeps I E Q (liftM step : EStateM ε State α) :=
  h

/-- The state itself. -/
lemma get : RunKeeps I E I (MonadState.get : EStateM ε State State) :=
  fun _ kept => ⟨kept, kept⟩

/-- A changed state. -/
lemma changed {change : State → State} (h : ∀ s, I s → I (change s)) :
    RunKeeps I E (fun _ => True) (modify change : EStateM ε State PUnit) :=
  fun s kept => ⟨trivial, h s kept⟩

/-- A question to the state. -/
lemma ask {fail : Fault → ε} {question : State → Except Fault α} (fails : ∀ fault, E (fail fault))
    (h : ∀ s a, I s → question s = .ok a → Q a) : RunKeeps I E Q (Analysis.ask fail question) := by
  intro s kept
  unfold Analysis.ask
  cases e : question s with
  | ok a => exact ⟨h s a kept e, kept⟩
  | error fault => exact ⟨fails fault, kept⟩

/-- An action whose faults come with something else. -/
lemma adapt {E' : ν → Prop} {change : ε → ν} {action : EStateM ε State α} (h : RunKeeps I E Q action)
    (fails : ∀ failure, E failure → E' (change failure)) : RunKeeps I E' Q (action.adaptExcept change) := by
  intro s kept
  have h := h s kept
  unfold EStateM.adaptExcept
  cases e : action s with
  | ok a t =>
    rw [e] at h
    exact h
  | error failure t =>
    rw [e] at h
    exact ⟨fails failure h.1, h.2⟩

/-- An action as part of a function body, with an invariant of its own. -/
lemma insideFunction {action : EStateM ε State α} (h : RunKeeps J E Q action)
    (enters : ∀ s, I s → J { s with functionDepth := s.functionDepth + 1 })
    (leaves : ∀ t, J t → I { t with functionDepth := t.functionDepth - 1 }) :
    RunKeeps I E Q (Analysis.insideFunction action) := by
  intro s kept
  have h := h _ (enters s kept)
  unfold Analysis.insideFunction
  simp only
  cases e : action { s with functionDepth := s.functionDepth + 1 } with
  | ok a t =>
    rw [e] at h
    exact ⟨h.1, leaves t h.2⟩
  | error failure t =>
    rw [e] at h
    exact ⟨h.1, leaves t h.2⟩

/-- An action where a type is to be returned, with an invariant of its own. -/
lemma returningType {type : Option TypeId} {action : EStateM ε State α} (h : RunKeeps J E Q action)
    (enters : ∀ s, I s → J { s with returnTypes := type :: s.returnTypes })
    (leaves : ∀ t, J t → I { t with returnTypes := t.returnTypes.tail }) :
    RunKeeps I E Q (Analysis.returningType type action) := by
  intro s kept
  have h := h _ (enters s kept)
  unfold Analysis.returningType
  simp only
  cases e : action { s with returnTypes := type :: s.returnTypes } with
  | ok a t =>
    rw [e] at h
    exact ⟨h.1, leaves t h.2⟩
  | error failure t =>
    rw [e] at h
    exact ⟨h.1, leaves t h.2⟩

/-- An action for each element of a list. -/
lemma forM {visit : α → EStateM ε State PUnit} {list : List α}
    (each : ∀ a ∈ list, RunKeeps I E (fun _ => True) (visit a)) :
    RunKeeps I E (fun _ => True) (list.forM visit) := by
  induction list with
  | nil => exact pure trivial
  | cons a rest ih =>
    exact (each a List.mem_cons_self).bind fun _ _ => ih fun b mem => each b (List.mem_cons_of_mem _ mem)

end RunKeeps

/-! ## Visits -/

namespace VisitKeeps

variable {R : ν → Prop} {R' : μ → Prop} {Q : α → Prop} {Q' : β → Prop}

/-- A result on its own. -/
lemma pure {a : α} (h : Q a) : VisitKeeps I R Q (Pure.pure a) :=
  RunKeeps.pure h

/-- A sequence of visits. -/
lemma bind {visit : Visit ν α} {next : α → Visit ν β} (first : VisitKeeps I R Q visit)
    (rest : ∀ a, Q a → VisitKeeps I R Q' (next a)) : VisitKeeps I R Q' (visit >>= next) :=
  RunKeeps.bind first rest

/-- A step. -/
lemma lift {step : Step α} (h : StepKeeps I Q step) : VisitKeeps I R Q (liftM step) :=
  h

/-- The state itself. -/
lemma get : VisitKeeps I R I (MonadState.get : Visit ν State) :=
  RunKeeps.get

/-- A changed state. -/
lemma changed {change : State → State} (h : ∀ s, I s → I (change s)) :
    VisitKeeps I R (fun _ => True) (modify change : Visit ν PUnit) :=
  RunKeeps.changed h

/-- A question to the state, asked on the visit of a node. -/
lemma askFor {node : ν} {question : State → Except Fault α} (h : R node) :
    VisitKeeps I R (fun _ => True) (Analysis.askFor node question) :=
  RunKeeps.ask (fun _ => h) fun _ _ _ _ => trivial

/-- Work on a part of a node. -/
lemma within {place : ν → μ} {visit : Visit ν α} (h : VisitKeeps I R Q visit)
    (places : ∀ node, R node → R' (place node)) : VisitKeeps I R' Q (Analysis.within place visit) :=
  .adapt h fun failure => places failure.2

end VisitKeeps

end ArrowScript.Analysis
