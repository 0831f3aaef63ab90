import ArrowScript.Proofs.Grammar.Reading

/-!
# Progress

Parsing only ever drops tokens from the front. `Onward s t` says that the state `t` can come later than `s`,
and `Ahead s t` that at least one token was dropped in between. Two actions are `Alike` at a state if they do
the same there and lead onward. A routine that is built from other routines is compared with itself built
from others: it is alike at a state if its parts are alike where it enters them, which shows where that is.
-/

namespace ArrowScript.Grammar

variable {α β : Type} {s t u : State}

/-- A state can come later than another. -/
structure Onward (s t : State) : Prop where
  pending : t.pending <:+ s.pending
  closing : t.cursor.closing = s.cursor.closing

/-- A state can come later than another and has fewer tokens left. -/
structure Ahead (s t : State) : Prop extends Onward s t where
  fewer : t.pending.length < s.pending.length

namespace Onward

lemma refl (s : State) : Onward s s :=
  ⟨List.suffix_refl _, rfl⟩

lemma trans (h : Onward s t) (g : Onward t u) : Onward s u :=
  ⟨g.pending.trans h.pending, g.closing.trans h.closing⟩

/-- No tokens are added. -/
lemma length_le (h : Onward s t) : t.pending.length ≤ s.pending.length :=
  h.pending.length_le

/-- A move leads onward. -/
lemma moved (sensitivity : Sensitivity) (s : State) : Onward s (s.moved sensitivity) :=
  ⟨pending_moved_suffix sensitivity s, (frame_moved sensitivity s).1⟩

/-- Noting a problem is no move. -/
lemma noted (problem : SyntaxProblem) (x : Span) (s : State) : Onward s (s.noted problem x) :=
  ⟨List.suffix_refl _, rfl⟩

/-- Giving out a handle is no move. -/
lemma numbered (s : State) : Onward s s.numbered :=
  ⟨List.suffix_refl _, rfl⟩

end Onward

namespace Ahead

/-- Dropping a token and going on. -/
lemma onward (h : Ahead s t) (g : Onward t u) : Ahead s u :=
  ⟨h.toOnward.trans g, Nat.lt_of_le_of_lt g.length_le h.fewer⟩

/-- A move drops a token wherever it is made, if there was one to begin with. -/
lemma moved (sensitivity : Sensitivity) (pos : 0 < s.pending.length) (h : Onward s t) :
    Ahead s (t.moved sensitivity) where
  toOnward := h.trans (.moved sensitivity t)
  fewer := by
    have := length_moved sensitivity t
    have := h.length_le
    omega

end Ahead

lemma Onward.ahead (h : Onward s t) (g : Ahead t u) : Ahead s u :=
  ⟨h.trans g.toOnward, Nat.lt_of_lt_of_le g.fewer h.length_le⟩

/-- There is a token left behind the next one if that one can be peeked at. -/
lemma length_moved_pos {sensitivity : Sensitivity} (h : s.cursor.peekKind sensitivity ≠ .endOfFile) :
    0 < (s.moved sensitivity).pending.length := by
  apply length_pos_of_kind
  rw [kind_moved]
  exact h

/-! ## Likeness -/

/-- Two actions do the same at a state and lead onward. -/
structure Alike (p q : Parser α) (s : State) : Prop where
  same : p s = q s
  onward : Onward s (p s).2

/-- Two actions are alike at a state and at all that can come later. -/
def AlikeFrom (s : State) (p q : Parser α) : Prop :=
  ∀ t, Onward s t → Alike p q t

/-- Two actions are alike wherever fewer tokens are left than at a state. -/
def AlikeAhead (s : State) (p q : Parser α) : Prop :=
  ∀ t, Ahead s t → Alike p q t

section Likeness

variable {p q : Parser α} {f g : α → Parser β}

lemma AlikeFrom.here (h : AlikeFrom s p q) : Alike p q s :=
  h s (.refl s)

lemma AlikeFrom.later (h : AlikeFrom s p q) (on : Onward s t) : AlikeFrom t p q :=
  fun u next => h u (on.trans next)

lemma AlikeFrom.ahead (h : AlikeFrom s p q) : AlikeAhead s p q :=
  fun t next => h t next.toOnward

lemma AlikeAhead.later (h : AlikeAhead s p q) (on : Onward s t) : AlikeAhead t p q :=
  fun u next => h u (on.ahead next)

lemma AlikeAhead.from (h : AlikeAhead s p q) (on : Ahead s t) : AlikeFrom t p q :=
  fun u next => h u (on.onward next)

namespace Alike

/-- What leads onward is like itself. -/
lemma self (h : Onward s (p s).2) : Alike p p s :=
  ⟨rfl, h⟩

/-- A result on its own. -/
lemma pure (a : α) : Alike (Pure.pure a) (Pure.pure a) s :=
  self (.refl s)

/-- Sequences are alike if their first parts are, and the rest behind those. -/
lemma bind (h : Alike p q s) (rest : ∀ a t, Runs p s a t → Onward s t → Alike (f a) (g a) t) :
    Alike (p >>= f) (q >>= g) s := by
  have next := rest _ _ rfl h.onward
  refine ⟨?_, h.onward.trans next.onward⟩
  show f (p s).1 (p s).2 = g (q s).1 (q s).2
  rw [← h.same]
  exact next.same

/-- A step whose run is known. -/
lemma step {a : α} (run : Runs p s a t) (on : Onward s t) (rest : Alike (f a) (g a) t) :
    Alike (p >>= f) (p >>= g) s := by
  have onward : Onward s (p s).2 := by rw [show p s = (a, t) from run]; exact on
  refine (self onward).bind fun b u other _ => ?_
  obtain ⟨rfl, rfl⟩ := Prod.mk.inj ((show p s = (a, t) from run).symm.trans other)
  exact rest

/-- A choice by what is known at the state. -/
lemma ite {c : Prop} [Decidable c] {p' q' : Parser α} (yes : c → Alike p q s)
    (no : ¬ c → Alike p' q' s) : Alike (if c then p else p') (if c then q else q') s := by
  by_cases h : c
  · rw [if_pos h, if_pos h]
    exact yes h
  · rw [if_neg h, if_neg h]
    exact no h

end Alike

end Likeness

namespace Alike

section Steps

variable {f g : Token.Kind → Parser β}

lemma kind (rest : Alike (f s.token.kind) (g s.token.kind) s) :
    Alike (Grammar.kind >>= f) (Grammar.kind >>= g) s :=
  step (run_kind.mpr ⟨rfl, rfl⟩) (.refl s) rest

lemma peekWith {sensitivity : Sensitivity}
    (rest : Alike (f (s.cursor.peekKind sensitivity)) (g (s.cursor.peekKind sensitivity)) s) :
    Alike (Grammar.peekWith sensitivity >>= f) (Grammar.peekWith sensitivity >>= g) s :=
  step (run_peekWith.mpr ⟨rfl, rfl⟩) (.refl s) rest

lemma peek
    (rest : Alike (f (s.cursor.peekKind .insensitive)) (g (s.cursor.peekKind .insensitive)) s) :
    Alike (Grammar.peek >>= f) (Grammar.peek >>= g) s :=
  step (run_peek.mpr ⟨rfl, rfl⟩) (.refl s) rest

end Steps

section Steps

variable {f g : Bool → Parser β}

lemma standsOn {k : Token.Kind}
    (rest : Alike (f (decide (s.token.kind = k))) (g (decide (s.token.kind = k))) s) :
    Alike (Grammar.standsOn k >>= f) (Grammar.standsOn k >>= g) s :=
  step (run_standsOn.mpr ⟨rfl, rfl⟩) (.refl s) rest

lemma genericCallAhead (rest : ∀ b, Alike (f b) (g b) s) :
    Alike (Grammar.genericCallAhead >>= f) (Grammar.genericCallAhead >>= g) s :=
  step (run_genericCallAhead.mpr ⟨rfl, rfl⟩) (.refl s) (rest _)

lemma tryAdvance
    (rest : Alike (f (decide (s.pending ≠ []))) (g (decide (s.pending ≠ []))) (s.moved .insensitive)) :
    Alike (Grammar.tryAdvance >>= f) (Grammar.tryAdvance >>= g) s :=
  step (run_tryAdvance.mpr ⟨rfl, rfl⟩) (.moved _ s) rest

end Steps

section Steps

variable {f g : Span → Parser β}

lemma span (rest : ∀ x, Alike (f x) (g x) s) :
    Alike (Grammar.span >>= f) (Grammar.span >>= g) s :=
  step (run_span.mpr ⟨rfl, rfl⟩) (.refl s) (rest _)

lemma peekSpan (rest : ∀ x, Alike (f x) (g x) s) :
    Alike (Grammar.peekSpan >>= f) (Grammar.peekSpan >>= g) s :=
  step (run_peekSpan.mpr ⟨rfl, rfl⟩) (.refl s) (rest _)

/-- Moving onto a closing token or noting its absence leads onward. -/
lemma closeWith {k : Token.Kind} {problem : SyntaxProblem}
    (rest : ∀ x t, Onward s t → Alike (f x) (g x) t) :
    Alike (Grammar.closeWith k problem >>= f) (Grammar.closeWith k problem >>= g) s := by
  have run : Runs (Grammar.closeWith k problem) s _ _ := rfl
  obtain ⟨-, ⟨-, e⟩ | ⟨-, e⟩⟩ := run_closeWith.mp run
  · exact step run (e ▸ .moved _ s) (rest _ _ (e ▸ .moved _ s))
  · exact step run (e ▸ .noted _ _ s) (rest _ _ (e ▸ .noted _ _ s))

end Steps

section Steps

variable {f g : Unit → Parser β} {problem : SyntaxProblem}

lemma advance (rest : Alike (f ()) (g ()) (s.moved .insensitive)) :
    Alike (Grammar.advance >>= f) (Grammar.advance >>= g) s :=
  step (run_advance.mpr rfl) (.moved _ s) rest

lemma reportAt {x : Span} (rest : Alike (f ()) (g ()) (s.noted problem x)) :
    Alike (Grammar.reportAt problem x >>= f) (Grammar.reportAt problem x >>= g) s :=
  step (run_reportAt.mpr rfl) (.noted _ _ s) rest

lemma report (rest : Alike (f ()) (g ()) (s.noted problem s.token.span)) :
    Alike (Grammar.report problem >>= f) (Grammar.report problem >>= g) s :=
  step (run_report.mpr rfl) (.noted _ _ s) rest

/-- Looking for an expected token is no move. -/
lemma expect {k : Token.Kind}
    (rest : ∀ t, Onward s t → t.pending = s.pending → Alike (f ()) (g ()) t) :
    Alike (Grammar.expect k problem >>= f) (Grammar.expect k problem >>= g) s := by
  have run : Runs (Grammar.expect k problem) s () _ := rfl
  rcases run_expect.mp run with ⟨-, e⟩ | ⟨-, e⟩
  · exact step run (e ▸ .refl s) (rest _ (e ▸ .refl s) (by rw [← e]))
  · exact step run (e ▸ .noted _ _ s) (rest _ (e ▸ .noted _ _ s) (by rw [← e]; rfl))

end Steps

lemma freshId {f g : NodeId → Parser β} (rest : ∀ id, Alike (f id) (g id) s.numbered) :
    Alike (Grammar.freshId >>= f) (Grammar.freshId >>= g) s :=
  step (run_freshId.mpr ⟨rfl, rfl⟩) (.numbered s) (rest _)

end Alike

/-! ## Bounds -/

/-- Two bounds that cannot be told apart: the same one, or both larger than a number of tokens. -/
def Enough (m n tokens : Nat) : Prop :=
  m = n ∨ (tokens < m ∧ tokens < n)

namespace Enough

variable {m n i j : Nat}

lemma mono (h : Enough m n j) (le : i ≤ j) : Enough m n i := by
  unfold Enough at *
  omega

/-- One more token is worth one more of the bound. -/
lemma succ (h : Enough m n (j - 1)) : Enough (m + 1) (n + 1) j := by
  unfold Enough at *
  omega

/-- One less of the bound is worth one token less. -/
lemma inside (h : Enough (m + 1) (n + 1) j) (pos : 0 < j) : Enough m n (j - 1) := by
  unfold Enough at *
  omega

/-- A token that is dropped makes up for one less of the bound. -/
lemma pred (h : Enough (m + 1) (n + 1) j) (lt : i < j) : Enough m n i := by
  unfold Enough at *
  omega

end Enough

/-- Routines that call themselves with one less of the bound are alike if each of their rounds is, given
that they are alike with one less of the bound where a measure of the tokens left has become smaller. -/
lemma alike_of_rounds {ι : Type} {f g : Nat → ι → Parser α} (size : State → Nat)
    (stop : ∀ i t, Alike (f 0 i) (g 0 i) t)
    (round : ∀ m n i t, Onward s t → Enough (m + 1) (n + 1) (size t) →
      (∀ j u, Onward t u → size u < size t → Alike (f m j) (g n j) u) →
      Alike (f (m + 1) i) (g (n + 1) i) t) :
    ∀ m n i t, Onward s t → Enough m n (size t) → Alike (f m i) (g n i) t := by
  -- On the bound of the first run; both are large enough, so they run out together or not at all.
  intro m
  induction m with
  | zero =>
    intro n i t _ enough
    obtain rfl : 0 = n := by
      unfold Enough at enough
      omega
    exact stop i t
  | succ m ih =>
    intro n i t on enough
    obtain ⟨n, rfl⟩ : ∃ k, n = k + 1 := Nat.exists_eq_succ_of_ne_zero (by
      unfold Enough at enough
      omega)
    exact round m n i t on enough fun j u next fewer =>
      ih n j u (on.trans next) (enough.pred fewer)

end ArrowScript.Grammar
