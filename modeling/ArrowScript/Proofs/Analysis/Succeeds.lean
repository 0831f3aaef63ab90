import ArrowScript.Analysis.Statement
import Mathlib.Tactic.Common

/-!
# Actions without faults

`Leads` says what a step gives and leads to. `Succeeds` says the same of an action that could end in a
fault, and that it does not; `Yields` says it for the case that the action does not end in a fault. The
lemmas take an action apart along the way it is put together, from the last thing it does to the first.
-/

namespace ArrowScript.Analysis

variable {ε α β : Type} {s : State} {post : α → State → Prop}

/-- What a step gives and leads to is as stated. -/
def Leads (step : Step α) (s : State) (post : α → State → Prop) : Prop :=
  post (step s).1 (step s).2

/-- An action ends without a fault; what it gives and leads to is as stated. -/
def Succeeds (action : EStateM ε State α) (s : State) (post : α → State → Prop) : Prop :=
  ∃ a t, action s = .ok a t ∧ post a t

/-- If an action ends without a fault, what it gives and leads to is as stated. -/
def Yields (action : EStateM ε State α) (s : State) (post : α → State → Prop) : Prop :=
  ∀ a t, action s = .ok a t → post a t

/-! ## Steps -/

namespace Leads

/-- A result on its own leaves the state as it is. -/
lemma pure {a : α} (h : post a s) : Leads (Pure.pure a) s post := h

/-- A sequence of steps leads on from where its first step leads. -/
lemma bind {step : Step α} {next : α → Step β} {post : β → State → Prop}
    (h : Leads step s fun a t => Leads (next a) t post) : Leads (step >>= next) s post := h

/-- A step whose result nobody asks for. -/
lemma discard {step : Step α} {post : Unit → State → Prop} (h : Leads step s fun _ t => post () t) :
    Leads (Functor.discard step) s post := h

/-- What is stated of a step may be weakened. -/
lemma mono {step : Step α} {weaker : α → State → Prop} (h : Leads step s post)
    (implies : ∀ a t, post a t → weaker a t) : Leads step s weaker :=
  implies _ _ h

/-- The state itself. -/
lemma get {post : State → State → Prop} (h : post s s) : Leads MonadState.get s post := h

/-- A changed state. -/
lemma changed {f : State → State} {post : PUnit → State → Prop} (h : post ⟨⟩ (f s)) :
    Leads (modify f) s post := h

end Leads

/-! ## Actions -/

namespace Succeeds

/-- A result on its own leaves the state as it is. -/
lemma pure {a : α} (h : post a s) : Succeeds (Pure.pure a : EStateM ε State α) s post :=
  ⟨a, s, rfl, h⟩

/-- A sequence goes on from where its first action leads. -/
lemma bind {action : EStateM ε State α} {next : α → EStateM ε State β} {post : β → State → Prop}
    (h : Succeeds action s fun a t => Succeeds (next a) t post) :
    Succeeds (action >>= next) s post := by
  obtain ⟨a, t, ran, b, u, goes, h⟩ := h
  refine ⟨b, u, ?_, h⟩
  show EStateM.bind action next s = _
  simp only [EStateM.bind, ran, goes]

/-- What is stated of an action may be weakened. -/
lemma mono {action : EStateM ε State α} {weaker : α → State → Prop} (h : Succeeds action s post)
    (implies : ∀ a t, post a t → weaker a t) : Succeeds action s weaker := by
  obtain ⟨a, t, ran, h⟩ := h
  exact ⟨a, t, ran, implies a t h⟩

/-- A step ends without a fault. -/
lemma lift {step : Step α} (h : Leads step s post) :
    Succeeds (liftM step : EStateM ε State α) s post :=
  ⟨_, _, rfl, h⟩

/-- The state itself. -/
lemma get {post : State → State → Prop} (h : post s s) :
    Succeeds (MonadState.get : EStateM ε State State) s post :=
  ⟨s, s, rfl, h⟩

/-- A changed state. -/
lemma changed {f : State → State} {post : PUnit → State → Prop} (h : post ⟨⟩ (f s)) :
    Succeeds (modify f : EStateM ε State PUnit) s post :=
  ⟨⟨⟩, f s, rfl, h⟩

/-- A question that the state answers. -/
lemma ask {fail : Fault → ε} {question : State → Except Fault α} {a : α}
    (answer : question s = .ok a) (h : post a s) : Succeeds (Analysis.ask fail question) s post := by
  refine ⟨a, s, ?_, h⟩
  simp only [Analysis.ask, answer]

/-- A question that the state answers, asked on a visit. -/
lemma askFor {ν : Type} {node : ν} {question : State → Except Fault α} {a : α}
    (answer : question s = .ok a) (h : post a s) :
    Succeeds (Analysis.askFor node question) s post :=
  ask answer h

/-- An action whose faults would come with something else. -/
lemma adapt {ε' : Type} {change : ε' → ε} {action : EStateM ε' State α} (h : Succeeds action s post) :
    Succeeds (action.adaptExcept change) s post := by
  obtain ⟨a, t, ran, h⟩ := h
  refine ⟨a, t, ?_, h⟩
  simp only [EStateM.adaptExcept, ran]

/-- Work on a part of a node. -/
lemma within {ν μ : Type} {place : ν → μ} {visit : Visit ν α} (h : Succeeds visit s post) :
    Succeeds (Analysis.within place visit) s post :=
  adapt h

/-- Work as part of a function body. -/
lemma insideFunction {action : EStateM ε State α}
    (h : Succeeds action { s with functionDepth := s.functionDepth + 1 } fun a t =>
      post a { t with functionDepth := t.functionDepth - 1 }) :
    Succeeds (Analysis.insideFunction action) s post := by
  obtain ⟨a, t, ran, h⟩ := h
  refine ⟨a, _, ?_, h⟩
  simp only [Analysis.insideFunction, ran]

/-- Work where a type is to be returned. -/
lemma returningType {type : Option TypeId} {action : EStateM ε State α}
    (h : Succeeds action { s with returnTypes := type :: s.returnTypes } fun a t =>
      post a { t with returnTypes := t.returnTypes.tail }) :
    Succeeds (Analysis.returningType type action) s post := by
  obtain ⟨a, t, ran, h⟩ := h
  refine ⟨a, _, ?_, h⟩
  simp only [Analysis.returningType, ran]

end Succeeds

/-! ## Actions that may end in a fault -/

namespace Yields

/-- A result on its own leaves the state as it is. -/
lemma pure {a : α} (h : post a s) : Yields (Pure.pure a : EStateM ε State α) s post := by
  rintro _ _ ⟨⟩
  exact h

/-- A sequence goes on from where its first action leads. -/
lemma bind {action : EStateM ε State α} {next : α → EStateM ε State β} {post : β → State → Prop}
    (h : Yields action s fun a t => Yields (next a) t post) : Yields (action >>= next) s post := by
  intro b u ran
  have ran : EStateM.bind action next s = .ok b u := ran
  unfold EStateM.bind at ran
  split at ran
  · next a t first => exact h a t first b u ran
  · cases ran

/-- What is stated of an action may be weakened. -/
lemma mono {action : EStateM ε State α} {weaker : α → State → Prop} (h : Yields action s post)
    (implies : ∀ a t, post a t → weaker a t) : Yields action s weaker :=
  fun a t ran => implies a t (h a t ran)

/-- A step ends without a fault. -/
lemma lift {step : Step α} (h : Leads step s post) : Yields (liftM step : EStateM ε State α) s post := by
  rintro _ _ ⟨⟩
  exact h

/-- The state itself. -/
lemma get {post : State → State → Prop} (h : post s s) :
    Yields (MonadState.get : EStateM ε State State) s post := by
  rintro _ _ ⟨⟩
  exact h

/-- A changed state. -/
lemma changed {f : State → State} {post : PUnit → State → Prop} (h : post ⟨⟩ (f s)) :
    Yields (modify f : EStateM ε State PUnit) s post := by
  rintro _ _ ⟨⟩
  exact h

/-- A question that the state may answer. -/
lemma ask {fail : Fault → ε} {question : State → Except Fault α}
    (h : ∀ a, question s = .ok a → post a s) : Yields (Analysis.ask fail question) s post := by
  intro a t ran
  unfold Analysis.ask at ran
  split at ran
  · next answer =>
    cases ran
    exact h _ answer
  · cases ran

/-- A question that the state may answer, asked on a visit. -/
lemma askFor {ν : Type} {node : ν} {question : State → Except Fault α}
    (h : ∀ a, question s = .ok a → post a s) : Yields (Analysis.askFor node question) s post :=
  ask h

/-- An action whose faults would come with something else. -/
lemma adapt {ε' : Type} {change : ε' → ε} {action : EStateM ε' State α} (h : Yields action s post) :
    Yields (action.adaptExcept change) s post := by
  intro a t ran
  unfold EStateM.adaptExcept at ran
  split at ran
  · cases ran
  · next first =>
    cases ran
    exact h _ _ first

/-- Work on a part of a node. -/
lemma within {ν μ : Type} {place : ν → μ} {visit : Visit ν α} (h : Yields visit s post) :
    Yields (Analysis.within place visit) s post :=
  adapt h

/-- Work as part of a function body. -/
lemma insideFunction {action : EStateM ε State α}
    (h : Yields action { s with functionDepth := s.functionDepth + 1 } fun a t =>
      post a { t with functionDepth := t.functionDepth - 1 }) :
    Yields (Analysis.insideFunction action) s post := by
  intro a t ran
  simp only [Analysis.insideFunction] at ran
  split at ran
  · next first =>
    cases ran
    exact h _ _ first
  · cases ran

/-- Work where a type is to be returned. -/
lemma returningType {type : Option TypeId} {action : EStateM ε State α}
    (h : Yields action { s with returnTypes := type :: s.returnTypes } fun a t =>
      post a { t with returnTypes := t.returnTypes.tail }) :
    Yields (Analysis.returningType type action) s post := by
  intro a t ran
  simp only [Analysis.returningType] at ran
  split at ran
  · next first =>
    cases ran
    exact h _ _ first
  · cases ran

end Yields

end ArrowScript.Analysis
