import ArrowScript.Proofs.Analysis.Keeping
import ArrowScript.Proofs.Analysis.Spelled

/-!
# No new names

The analysis makes up no names: if the names in a program are of some kind, then so are the names in everything
that comes of the analysis. `StepConfined`, `RunConfined` and `VisitConfined` say so of a single action. That a state
has no new names is an invariant, so actions are taken apart as for any other (`StepKeeps`, `RunKeeps`).
-/

namespace ArrowScript.Analysis

section
variable (P : String → Prop) {ε ν α : Type}

/-- A step makes up no names; what it gives is as stated. -/
def StepConfined (Q : α → Prop) (step : Step α) : Prop :=
  ∀ s, s.Spelled P → Q (step s).1 ∧ (step s).2.Spelled P

/-- An action makes up no names; what it gives and what comes with a fault is as stated. -/
def RunConfined (E : ε → Prop) (Q : α → Prop) (action : EStateM ε State α) : Prop :=
  ∀ s, s.Spelled P → match action s with
    | .ok a t => Q a ∧ t.Spelled P
    | .error e t => E e ∧ t.Spelled P

/-- A visit makes up no names; what it gives and the node that comes with a fault is as stated. -/
def VisitConfined (R : ν → Prop) (Q : α → Prop) (visit : Visit ν α) : Prop :=
  RunConfined P (fun failure => R failure.2) Q visit

end

variable {P : String → Prop} {ε ν μ α β : Type}

/-! ## Steps -/

namespace StepConfined

variable {Q : α → Prop} {Q' : β → Prop}

/-- A result on its own. -/
lemma pure {a : α} (h : Q a) : StepConfined P Q (Pure.pure a) :=
  StepKeeps.pure (I := State.Spelled P) h

/-- A sequence of steps. -/
lemma bind {step : Step α} {next : α → Step β} (first : StepConfined P Q step)
    (rest : ∀ a, Q a → StepConfined P Q' (next a)) : StepConfined P Q' (step >>= next) :=
  StepKeeps.bind (I := State.Spelled P) first rest

/-- What is stated of a result may be weakened. -/
lemma mono {Q' : α → Prop} {step : Step α} (h : StepConfined P Q step) (implies : ∀ a, Q a → Q' a) :
    StepConfined P Q' step :=
  StepKeeps.mono (I := State.Spelled P) h implies

/-- A step whose result nobody asks for. -/
lemma discard {step : Step α} (first : StepConfined P Q step) :
    StepConfined P (fun _ => True) (Functor.discard step) :=
  StepKeeps.discard (I := State.Spelled P) first

/-- The state itself. -/
lemma get : StepConfined P (State.Spelled P) MonadState.get :=
  StepKeeps.get

/-- A changed state. -/
lemma changed {change : State → State} (h : ∀ s : State, s.Spelled P → (change s).Spelled P) :
    StepConfined P (fun _ => True) (modify change) :=
  StepKeeps.changed h

/-- A changed state and something else. -/
lemma modifyGet {change : State → α × State}
    (h : ∀ s : State, s.Spelled P → Q (change s).1 ∧ (change s).2.Spelled P) :
    StepConfined P Q (MonadStateOf.modifyGet change) :=
  h

/-- A step for each element of a list. -/
lemma forM {visit : α → Step PUnit} {list : List α}
    (each : ∀ a ∈ list, StepConfined P (fun _ => True) (visit a)) :
    StepConfined P (fun _ => True) (list.forM visit) :=
  StepKeeps.forM (I := State.Spelled P) each

/-- A step for each element of a list, with all results. -/
lemma mapM {visit : α → Step β} {list : List α} (each : ∀ a ∈ list, StepConfined P Q' (visit a)) :
    StepConfined P (fun results => ∀ b ∈ results, Q' b) (list.mapM visit) := by
  have all := StepKeeps.mapM (I := State.Spelled P) (R := fun _ => Q') each
  have every : ∀ {list : List α} {results : List β}, List.Forall₂ (fun _ => Q') list results → ∀ b ∈ results, Q' b := by
    intro list results given
    induction given with
    | nil => exact List.forall_mem_nil _
    | cons first _ rest => exact List.forall_mem_cons.mpr ⟨first, rest⟩
  exact fun s spelled => ⟨every (all s spelled).1, (all s spelled).2⟩

end StepConfined

/-! ## Actions -/

namespace RunConfined

variable {E : ε → Prop} {Q : α → Prop} {Q' : β → Prop}

/-- A result on its own. -/
lemma pure {a : α} (h : Q a) : RunConfined P E Q (Pure.pure a : EStateM ε State α) :=
  RunKeeps.pure (I := State.Spelled P) (E := E) h

/-- A sequence of actions. -/
lemma bind {action : EStateM ε State α} {next : α → EStateM ε State β} (first : RunConfined P E Q action)
    (rest : ∀ a, Q a → RunConfined P E Q' (next a)) : RunConfined P E Q' (action >>= next) :=
  RunKeeps.bind (I := State.Spelled P) first rest

/-- A step. -/
lemma lift {step : Step α} (h : StepConfined P Q step) : RunConfined P E Q (liftM step : EStateM ε State α) :=
  h

/-- The state itself. -/
lemma get : RunConfined P E (State.Spelled P) (MonadState.get : EStateM ε State State) :=
  RunKeeps.get (I := State.Spelled P) (E := E)

/-- A changed state. -/
lemma changed {change : State → State} (h : ∀ s : State, s.Spelled P → (change s).Spelled P) :
    RunConfined P E (fun _ => True) (modify change : EStateM ε State PUnit) :=
  RunKeeps.changed (E := E) h

/-- A question to the state. -/
lemma ask {fail : Fault → ε} {question : State → Except Fault α} (fails : ∀ fault, E (fail fault))
    (h : ∀ s a, s.Spelled P → question s = .ok a → Q a) : RunConfined P E Q (Analysis.ask fail question) :=
  RunKeeps.ask fails h

/-- An action whose faults come with something else. -/
lemma adapt {E' : ν → Prop} {change : ε → ν} {action : EStateM ε State α} (h : RunConfined P E Q action)
    (fails : ∀ failure, E failure → E' (change failure)) :
    RunConfined P E' Q (action.adaptExcept change) :=
  RunKeeps.adapt (I := State.Spelled P) h fails

/-- What the analysis knows of names does not change with what is around a node. -/
lemma framed {s : State} (spelled : s.Spelled P) {t : State} (types : t.types = s.types)
    (scopes : t.scopes = s.scopes) (findings : t.findings = s.findings) : t.Spelled P where
  arrays := by rw [types, spelled.arrays]
  types := types ▸ spelled.types
  scopes := scopes ▸ spelled.scopes
  findings := findings ▸ spelled.findings

/-- An action as part of a function body. -/
lemma insideFunction {action : EStateM ε State α} (h : RunConfined P E Q action) :
    RunConfined P E Q (Analysis.insideFunction action) :=
  RunKeeps.insideFunction (I := State.Spelled P) (J := State.Spelled P) h (fun _ spelled => framed spelled rfl rfl rfl)
    fun _ spelled => framed spelled rfl rfl rfl

/-- An action where a type is to be returned. -/
lemma returningType (type : Option TypeId) {action : EStateM ε State α} (h : RunConfined P E Q action) :
    RunConfined P E Q (Analysis.returningType type action) :=
  RunKeeps.returningType (I := State.Spelled P) (J := State.Spelled P) h (fun _ spelled => framed spelled rfl rfl rfl)
    fun _ spelled => framed spelled rfl rfl rfl

/-- An action for each element of a list. -/
lemma forM {visit : α → EStateM ε State PUnit} {list : List α}
    (each : ∀ a ∈ list, RunConfined P E (fun _ => True) (visit a)) :
    RunConfined P E (fun _ => True) (list.forM visit) :=
  RunKeeps.forM (I := State.Spelled P) each

end RunConfined

/-! ## Visits -/

namespace VisitConfined

variable {R : ν → Prop} {R' : μ → Prop} {Q : α → Prop}

/-- A question to the state, asked on the visit of a node. -/
lemma askFor {node : ν} {question : State → Except Fault α} (h : R node)
    (answers : ∀ s a, s.Spelled P → question s = .ok a → Q a) :
    VisitConfined P R Q (Analysis.askFor node question) :=
  .ask (fun _ => h) answers

/-- Work on a part of a node. -/
lemma within {place : ν → μ} {visit : Visit ν α} (h : VisitConfined P R Q visit)
    (places : ∀ node, R node → R' (place node)) : VisitConfined P R' Q (Analysis.within place visit) :=
  .adapt h fun failure => places failure.2

end VisitConfined

end ArrowScript.Analysis
