import ArrowScript.Proofs.Grammar.Blank
import ArrowScript.Proofs.Grammar.ProperTrees
import ArrowScript.Proofs.Grammar.ReadingStatements

/-!
# Building proper trees

Parsing that reports nothing builds a proper tree, and wherever it leaves a term out it reports. Both are kept
by every step: `Builds l s t gaps P` says that between two states at least `gaps` problems were noted, and
that `P` holds if none was noted up to the second state and the tokens are all that the first one had left. A
routine may give a tree that is not proper only where it notes a problem, so that nothing is left to show there.
-/

namespace ArrowScript.Grammar

variable {α : Type} {s t u : State} {l : List Token} {m n : Nat} {P Q R : Prop}

/-- What parsing built between two states. -/
structure Builds (l : List Token) (s t : State) (gaps : Nat) (P : Prop) : Prop where
  pending : t.pending <:+ s.pending
  reported : s.findings.size + gaps ≤ t.findings.size
  proper : s.pending ⊆ l → t.Clean → P

namespace Builds

/-- Building never adds tokens. -/
lemma length_le (h : Builds l s t n P) : t.pending.length ≤ s.pending.length :=
  h.pending.length_le

/-- Doing nothing. -/
lemma refl (s : State) : Builds l s s 0 True :=
  ⟨List.suffix_refl _, Nat.le_refl _, fun _ _ => trivial⟩

/-- Building up to a state and on from there. -/
lemma trans (h : Builds l s t m P) (g : Builds l t u n Q) : Builds l s u (m + n) (P ∧ Q) where
  pending := g.pending.trans h.pending
  reported := by
    have := h.reported
    have := g.reported
    omega
  proper := by
    intro within clean
    -- what is clean at the end was clean in between, as findings are never taken back
    have between : t.Clean := by
      have := g.reported
      rw [State.Clean] at clean ⊢
      omega
    exact ⟨h.proper within between, g.proper (List.Subset.trans h.pending.subset within) clean⟩

/-- Fewer gaps, and a property that follows. -/
lemma mono (h : Builds l s t n P) (le : m ≤ n) (implies : P → Q) : Builds l s t m Q where
  pending := h.pending
  reported := Nat.le_trans (Nat.add_le_add_left le _) h.reported
  proper := fun within clean => implies (h.proper within clean)

/-- The same gaps, and a property that follows. -/
lemma imp (h : Builds l s t n P) (implies : P → Q) : Builds l s t n Q :=
  h.mono (Nat.le_refl n) implies

/-- A property of what stands at the beginning. -/
lemma start (h : Builds l s t n P) (fact : s.pending ⊆ l → Q) : Builds l s t n (Q ∧ P) where
  pending := h.pending
  reported := h.reported
  proper := fun within clean => ⟨fact within, h.proper within clean⟩

/-- Moving on. -/
lemma moved (sensitivity : Sensitivity) (s : State) : Builds l s (s.moved sensitivity) 0 True where
  pending := pending_moved_suffix sensitivity s
  reported := (frame_moved sensitivity s).2.1 ▸ Nat.le_refl _
  proper := fun _ _ => trivial

/-- Giving out a handle. -/
lemma numbered (s : State) : Builds l s s.numbered 0 True :=
  ⟨List.suffix_refl _, Nat.le_refl _, fun _ _ => trivial⟩

/-- Noting a problem makes up for one gap. -/
lemma noted (problem : SyntaxProblem) (x : Span) (s : State) : Builds l s (s.noted problem x) 1 False where
  pending := List.suffix_refl _
  reported := by simp [State.noted]
  proper := fun _ clean => Reads.not_clean_noted problem x s clean

/-- What is built is not lost by what follows. -/
lemma followed (h : Builds l s t m P) (g : Builds l t u n Q) : Builds l s u m P :=
  (h.trans g).mono (Nat.le_add_right m n) And.left

/-- What is built does not depend on what came before. -/
lemma after (g : Builds l t u n Q) (h : Builds l s t m P) : Builds l s u n Q :=
  (h.trans g).mono (Nat.le_add_left n m) And.right

/-- Once a problem is noted, nothing is left to show but that there are not more gaps than problems. -/
lemma noting (h : Builds l s t m P) (problem : SyntaxProblem) (x : Span) (le : n ≤ m + 1) :
    Builds l s (t.noted problem x) n Q :=
  (h.trans (noted problem x t)).mono le fun ⟨_, never⟩ => never.elim

section Expecting

variable {v : Unit} {k : Token.Kind} {problem : SyntaxProblem} {x : Span}

/-- An expected token is there, or its absence is noted. -/
lemma expected (h : Runs (expect k problem) s v t) : Builds l s t 0 (s.token.kind = k ∧ t = s) := by
  rcases run_expect.mp h with ⟨there, rfl⟩ | ⟨_, rfl⟩
  · exact (refl s).imp fun _ => ⟨there, rfl⟩
  · exact (noted problem _ s).mono (Nat.zero_le 1) False.elim

/-- Closing brackets changes nothing that was built. -/
lemma closed (h : Runs (closeWith k problem) s x t) : Builds l s t 0 True := by
  obtain ⟨_, ⟨_, rfl⟩ | ⟨_, rfl⟩⟩ := run_closeWith.mp h
  · exact moved .insensitive s
  · exact (noted problem _ s).mono (Nat.zero_le 1) False.elim

end Expecting

end Builds

/-- The current token is one of those at hand unless it ends the file. -/
lemma token_mem (within : s.pending ⊆ l) (h : s.token.kind ≠ .endOfFile) : s.token ∈ l := by
  apply within
  rw [pending_eq_cons (length_pos_of_kind h)]
  exact List.mem_cons_self

/-- A current token that is an identifier is a name. -/
lemma isName_token (identifier : s.token.kind = .identifier) (within : s.pending ⊆ l) :
    IsName l s.token.span :=
  ⟨s.token, token_mem within (by rw [identifier]; decide), identifier, rfl⟩

/-- A current token that can be the name of a link may name a call or an index. -/
lemma isBracketName_token (name : isLinkName s.token.kind) (within : s.pending ⊆ l) :
    IsBracketName l s.token.span := by
  refine ⟨s.token, token_mem within fun e => ?_, name, rfl⟩
  rw [e] at name
  cases name

/-- A current token that names a type does so as built-in exactly if its kind does. -/
lemma isTypeName_token (name : s.token.kind.isTypeName) (within : s.pending ⊆ l) :
    IsTypeName l s.token.span s.token.kind.isBuiltinName := by
  refine ⟨s.token, token_mem within fun e => ?_, name, rfl, rfl⟩
  rw [e] at name
  cases name

/-- An expected identifier is a name. -/
lemma Builds.named {v : Unit} {problem : SyntaxProblem} (h : Runs (expect .identifier problem) s v t) :
    Builds l s t 0 (IsName l t.token.span) := by
  have there := Builds.expected (l := l) h
  refine ⟨there.pending, there.reported, fun within clean => ?_⟩
  obtain ⟨identifier, rfl⟩ := there.proper within clean
  exact isName_token identifier within

/-- With fewer than `n` tokens left, an action builds what has so many gaps and such a property. -/
def BuildsAs (l : List Token) (n : Nat) (action : Parser α) (gaps : α → Nat) (Proper : α → Prop) : Prop :=
  ∀ ⦃s t : State⦄ ⦃a : α⦄, s.pending.length < n → Runs action s a t →
    Builds l s t (gaps a) (Proper a)

/-- An action that may fail builds what it gives; where it fails it notes a problem. -/
def BuildsMaybe (l : List Token) (n : Nat) (action : Parser (Option α)) (gaps : α → Nat)
    (Proper : α → Prop) : Prop :=
  ∀ ⦃s t : State⦄ ⦃a : Option α⦄, 0 < n → s.pending.length ≤ n → Runs action s a t →
    Builds l s t (a.elim 1 gaps) (a.elim False Proper)

/-! ## Lists -/

/-- A list is built from its elements, of which there is at least one. -/
lemma commaList_builds {element : Parser α} {Proper : α → Prop} {closing : Token.Kind}
    {unseparated unclosed : SyntaxProblem} (builds : BuildsAs l n element (fun _ => 0) Proper) {bound : Nat}
    {r : List α} (enough : s.pending.length < n) (bounded : s.pending.length < bound)
    (h : Runs (commaList element closing unseparated unclosed bound) s r t) :
    Builds l s t 0 (r ≠ [] ∧ ∀ a ∈ r, Proper a) := by
  induction bound generalizing s r with
  | zero => omega
  | succ bound ih =>
    simp only [commaList, run_bind, run_advance, run_standsOn] at h
    obtain ⟨first, u, he, _, _, rfl, _, _, ⟨rfl, rfl⟩, h⟩ := h
    have head := (builds enough he).followed (.moved .insensitive u)
    have length := (builds enough he).length_le
    have moved := length_moved .insensitive u
    split at h
    · obtain ⟨rfl, rfl⟩ := run_pure.mp h
      exact head.imp fun proper => by simpa using proper
    · simp only [run_bind, run_tryAdvance] at h
      obtain ⟨_, v, hc, _, _, ⟨rfl, rfl⟩, h⟩ := h
      have comma := Builds.expected (l := l) hc
      have upto := (head.followed comma).followed (.moved .insensitive v)
      split at h
      · next more =>
        simp only [run_bind, run_pure] at h
        obtain ⟨rest, _, hr, rfl, rfl⟩ := h
        have pos := List.length_pos_iff.mpr (of_decide_eq_true more)
        have left := comma.length_le
        have next := length_moved .insensitive v
        have tail := ih (by omega) (by omega) hr
        exact (upto.trans tail).imp fun both => by simpa using And.intro both.1 both.2.2
      · simp only [run_bind, run_pure] at h
        obtain ⟨_, _, hx, rfl, rfl⟩ := h
        exact (upto.followed (.expected hx)).imp fun proper => by simpa using proper

/-- A list in angle brackets is built from its elements, of which there is at least one. -/
lemma inAngles_builds {element : Parser α} {Proper : α → Prop} {empty unclosed : SyntaxProblem} {bound : Nat}
    (builds : BuildsAs l bound element (fun _ => 0) Proper) {r : List α} (opening : s.token.kind = .less)
    (bounded : s.pending.length ≤ bound) (h : Runs (inAngles element empty unclosed bound) s r t) :
    Builds l s t 0 (r ≠ [] ∧ ∀ a ∈ r, Proper a) := by
  simp only [inAngles, run_bind, run_advance, run_standsOn] at h
  obtain ⟨_, _, rfl, _, _, ⟨rfl, rfl⟩, h⟩ := h
  have head := Builds.moved (l := l) .insensitive s
  have pos : 0 < s.pending.length := length_pos_of_kind (by rw [opening]; decide)
  have moved := length_moved .insensitive s
  split at h
  · simp only [run_bind, run_report, run_pure] at h
    obtain ⟨_, _, rfl, rfl, rfl⟩ := h
    exact head.noting _ _ (Nat.zero_le _)
  · exact (commaList_builds builds (by omega) (by omega) h).after head

/-! ## Written types -/

/-- The brackets of an array change nothing that was built. -/
lemma arrayBrackets_builds {b : Bool} (h : Runs arrayBrackets s b t) : Builds l s t 0 True := by
  simp only [arrayBrackets, run_bind, run_peekWith] at h
  obtain ⟨_, _, ⟨rfl, rfl⟩, h⟩ := h
  split at h
  · simp only [run_bind, run_discard, run_advanceWith, run_peekWith] at h
    obtain ⟨_, _, ⟨_, _, rfl⟩, _, _, ⟨rfl, rfl⟩, h⟩ := h
    have opened := Builds.moved (l := l) .toLayout s
    split at h
    · simp only [run_bind, run_discard, run_advanceWith, run_pure] at h
      obtain ⟨_, _, ⟨_, _, rfl⟩, rfl, rfl⟩ := h
      exact opened.followed (.moved .toLayout _)
    · simp only [run_bind, run_report, run_pure] at h
      obtain ⟨_, _, rfl, rfl, rfl⟩ := h
      exact opened.noting _ _ (Nat.zero_le _)
  · obtain ⟨rfl, rfl⟩ := run_pure.mp h
    exact .refl s

/-- A type argument is a proper type, or it is reported. -/
lemma typeArgument_builds {type : Parser TypeRef}
    (builds : BuildsAs l n type (fun _ => 0) (TypeRef.Proper l)) :
    BuildsAs l n (typeArgument type) (fun _ => 0) (TypeRef.Proper l) := by
  intro s t written bounded h
  simp only [typeArgument, run_bind, run_kind] at h
  obtain ⟨_, _, ⟨rfl, rfl⟩, h⟩ := h
  split at h
  · exact builds bounded h
  · simp only [run_bind, run_report, run_span, run_pure] at h
    obtain ⟨_, _, rfl, _, _, ⟨rfl, rfl⟩, rfl, rfl⟩ := h
    exact (Builds.noted ..).mono (Nat.zero_le 1) False.elim

/-- Type arguments are proper types, at least one. -/
lemma typeArgumentsOf_builds {type : Parser TypeRef} {bound : Nat} {r : List TypeRef}
    (builds : BuildsAs l bound type (fun _ => 0) (TypeRef.Proper l)) (opening : s.token.kind = .less)
    (bounded : s.pending.length ≤ bound) (h : Runs (typeArgumentsOf type bound) s r t) :
    Builds l s t 0 (r ≠ [] ∧ typesProper l r) := by
  rw [typesProper_iff]
  exact inAngles_builds (typeArgument_builds builds) opening bounded h

/-- A written type is built proper. -/
lemma typeRef_builds (bound : Nat) :
    BuildsAs l bound (typeRef bound) (fun _ => 0) (TypeRef.Proper l) := by
  induction bound with
  | zero => exact fun _ _ _ bounded => absurd bounded (Nat.not_lt_zero _)
  | succ bound ih =>
    intro s t type bounded h
    obtain ⟨u, v, name, arguments, brackets, e⟩ := run_typeRef h
    have head : Builds l s u 0 (IsTypeName l s.token.span s.token.kind.isBuiltinName) := by
      rcases name with ⟨name, rfl⟩ | ⟨_, rfl⟩
      · exact ((Builds.refl s).start (isTypeName_token name)).imp And.left
      · exact (Builds.noted ..).mono (Nat.zero_le 1) False.elim
    have inner : Builds l u v 0 (typesProper l type.arguments) := by
      rcases arguments with ⟨opening, ha⟩ | ⟨_, none, rfl⟩
      · have pos := length_pos_of_peek (by rw [opening]; decide)
        have moved := length_moved .insensitive u
        have left := head.length_le
        have list := typeArgumentsOf_builds ih ((kind_moved _ u).trans opening) (by omega) ha
        exact (list.after (.moved .insensitive u)).imp And.right
      · rw [none, typesProper]
        exact .refl u
    rw [e, TypeRef.Proper]
    exact (head.trans inner).followed (arrayBrackets_builds brackets)

/-! ## Operations -/

/-- What goes on behind a left operand makes a proper operation of it. -/
lemma operationsFrom_builds {operand : Parser Expr} {level : Level}
    (builds : BuildsAs l n operand Expr.gaps (Expr.Proper l)) (mem : level ∈ Level.all) {bound : Nat}
    {left r : Expr} (enough : s.pending.length < n) (h : Runs (operationsFrom operand level bound left) s r t) :
    ∃ more, r.gaps = left.gaps + more ∧ Builds l s t more (left.Proper l → r.Proper l) := by
  induction bound generalizing s left with
  | zero =>
    obtain ⟨rfl, rfl⟩ := run_pure.mp h
    exact ⟨0, rfl, (Builds.refl s).imp fun _ => id⟩
  | succ bound ih =>
    simp only [operationsFrom, run_bind, run_peek] at h
    obtain ⟨_, _, ⟨rfl, rfl⟩, h⟩ := h
    split at h
    · next operator taken =>
      simp only [run_bind, run_advance, run_span] at h
      obtain ⟨_, _, rfl, _, _, ⟨rfl, rfl⟩, _, _, rfl, right, u, hr, h⟩ := h
      have sign := Level.sound_of_mem_all level mem _ _ taken
      have pos := length_pos_of_peek (Token.Kind.ne_endOfFile_of_isMark sign)
      have first := length_moved .insensitive s
      have second := length_moved .insensitive (s.moved .insensitive)
      have term := builds (by omega) hr
      have upto := term.after ((Builds.moved .insensitive s).followed (.moved .insensitive _))
      have length := term.length_le
      obtain ⟨more, e, rest⟩ := ih (by omega) h
      refine ⟨right.gaps + more, by rw [e, Expr.gaps, Nat.add_assoc], (upto.trans rest).imp ?_⟩
      rintro ⟨right, rest⟩ left
      apply rest
      rw [Expr.Proper]
      exact ⟨level_ne_assign level mem _ _ taken, left, right⟩
    · obtain ⟨rfl, rfl⟩ := run_pure.mp h
      exact ⟨0, rfl, (Builds.refl s).imp fun _ => id⟩

/-- Operations on what is proper are proper. -/
lemma operations_builds {operand : Parser Expr} {bound : Nat}
    (builds : BuildsAs l n operand Expr.gaps (Expr.Proper l)) {levels : List Level}
    (among : ∀ level ∈ levels, level ∈ Level.all) :
    BuildsAs l n (operations operand bound levels) Expr.gaps (Expr.Proper l) := by
  induction levels with
  | nil => exact builds
  | cons level tighter ih =>
    have ih : BuildsAs l n (operations operand bound tighter) Expr.gaps (Expr.Proper l) :=
      ih fun level mem => among level (List.mem_cons_of_mem _ mem)
    intro s t r enough h
    simp only [operations, run_bind] at h
    obtain ⟨left, u, hl, h⟩ := h
    have head := ih enough hl
    have length := head.length_le
    obtain ⟨more, e, rest⟩ := operationsFrom_builds ih (among level List.mem_cons_self) (by omega) h
    rw [e]
    exact (head.trans rest).imp fun both => both.2 both.1

/-- Unary operators apply to what is proper. -/
lemma unaryOperations_builds {term : Parser Expr} {bound : Nat}
    (builds : BuildsAs l n term Expr.gaps (Expr.Proper l)) (le : bound ≤ n) :
    BuildsAs l bound (unaryOperations term bound) Expr.gaps (Expr.Proper l) := by
  induction bound with
  | zero => exact fun _ _ _ bounded => absurd bounded (Nat.not_lt_zero _)
  | succ bound ih =>
    intro s t r bounded h
    simp only [unaryOperations, run_bind, run_kind] at h
    obtain ⟨_, _, ⟨rfl, rfl⟩, h⟩ := h
    split at h
    · next operator taken =>
      simp only [run_bind, run_span, run_advance, run_pure] at h
      obtain ⟨_, _, ⟨rfl, rfl⟩, _, _, rfl, operand, _, ho, rfl, rfl⟩ := h
      have pos : 0 < s.pending.length := length_pos_of_kind fun e => by
        rw [e] at taken
        cases taken
      have moved := length_moved .insensitive s
      have inner := ih (by omega) (by omega) ho
      rw [Expr.gaps, Expr.Proper]
      exact inner.after (.moved .insensitive s)
    · exact builds (by omega) h

/-! ## Chains -/

/-- Arguments behind the opening parenthesis are proper. -/
lemma argumentList_builds {expression : Parser Expression} {bound : Nat}
    (builds : BuildsAs l n expression Expression.gaps (Expression.Proper l)) {r : List Expression}
    (enough : s.pending.length < n) (bounded : s.pending.length < bound)
    (h : Runs (argumentList expression bound) s r t) :
    Builds l s t (argumentGaps r) (argumentsProper l r) := by
  induction bound generalizing s r with
  | zero => omega
  | succ bound ih =>
    simp only [argumentList, run_bind, run_peek] at h
    obtain ⟨first, u, he, _, _, ⟨rfl, rfl⟩, h⟩ := h
    have head := builds enough he
    have length := head.length_le
    have moved := length_moved .insensitive u
    have single {v : State} {m : Nat} {P : Prop} (rest : Builds l u v m P) :
        Builds l s v (argumentGaps [first]) (argumentsProper l [first]) :=
      (head.followed rest).mono (by simp [argumentGaps]) fun proper => by simpa [argumentsProper] using proper
    split at h
    case h_1 =>
      simp only [run_bind, run_advance, run_pure] at h
      obtain ⟨_, _, rfl, rfl, rfl⟩ := h
      exact single (.moved .insensitive u)
    case h_2 comma =>
      simp only [run_bind, run_advance, run_pure] at h
      obtain ⟨_, _, rfl, _, _, rfl, rest, _, hr, rfl, rfl⟩ := h
      have two := two_le_length_of_peek (s := u) (by rw [comma]; decide)
      have twice := length_moved .insensitive (u.moved .insensitive)
      have tail := ih (by omega) (by omega) hr
      rw [argumentGaps, argumentsProper]
      exact ((head.followed (.moved .insensitive u)).followed (.moved .insensitive _)).trans tail
    case h_3 | h_4 | h_5 | h_6 =>
      simp only [run_bind, run_peekSpan, run_reportAt, run_pure] at h
      obtain ⟨_, _, ⟨rfl, rfl⟩, _, _, rfl, rfl, rfl⟩ := h
      exact single (.noted _ _ u)
    case h_7 _ _ more _ _ _ =>
      simp only [run_bind, run_peekSpan, run_reportAt, run_advance, run_pure] at h
      obtain ⟨_, _, ⟨rfl, rfl⟩, _, _, rfl, _, _, rfl, rest, _, hr, rfl, rfl⟩ := h
      have two := two_le_length_of_peek more
      have left := length_moved .insensitive (u.noted .argumentsUnseparated u.cursor.peekSpan)
      have same : (u.noted .argumentsUnseparated u.cursor.peekSpan).pending = u.pending := rfl
      rw [same] at left
      have tail := ih (by omega) (by omega) hr
      have spoiled : Builds l s _ first.gaps False :=
        head.noting .argumentsUnseparated u.cursor.peekSpan (Nat.le_succ _)
      rw [argumentGaps, argumentsProper]
      exact ((spoiled.followed (.moved .insensitive _)).trans tail).imp fun both => both.1.elim

/-- The arguments of a call are proper. -/
lemma callArguments_builds {expression : Parser Expression} {bound : Nat}
    (builds : BuildsAs l bound expression Expression.gaps (Expression.Proper l))
    {r : List Expression × Span} (bounded : s.pending.length < bound)
    (h : Runs (callArguments expression bound) s r t) :
    Builds l s t (argumentGaps r.1) (argumentsProper l r.1) := by
  simp only [callArguments, run_bind, run_peek] at h
  obtain ⟨_, _, ⟨rfl, rfl⟩, h⟩ := h
  have onto := Builds.moved (l := l) .insensitive s
  split at h
  · simp only [run_bind, run_advance, run_span, run_pure] at h
    obtain ⟨_, _, rfl, _, _, ⟨rfl, rfl⟩, rfl, rfl⟩ := h
    rw [argumentGaps, argumentsProper]
    exact onto
  · simp only [run_bind, run_advance, run_span, run_pure] at h
    obtain ⟨_, _, rfl, arguments, u, ha, _, _, ⟨rfl, rfl⟩, rfl, rfl⟩ := h
    have moved := length_moved .insensitive s
    exact (argumentList_builds builds (by omega) (by omega) ha).after onto

/-- An indexed name is proper; an index that is missing is reported. -/
lemma indexLink_builds {expression : Parser Expression} {bound : Nat}
    (builds : BuildsAs l bound expression Expression.gaps (Expression.Proper l)) {r : Link}
    (name : isLinkName s.token.kind) (next : s.cursor.peekKind .insensitive = .leftBracket)
    (bounded : s.pending.length ≤ bound) (h : Runs (indexLink expression) s r t) :
    Builds l s t r.gaps (r.Proper l) := by
  simp only [indexLink, run_bind, run_span, run_advance, run_peek] at h
  obtain ⟨_, _, ⟨rfl, rfl⟩, _, _, rfl, _, _, ⟨rfl, rfl⟩, h⟩ := h
  have named : Builds l s _ 0 _ := (Builds.moved .insensitive s).start (isBracketName_token name)
  have opened := named.followed (.moved .insensitive _)
  split at h
  · simp only [run_bind, run_advance, run_report, run_span, run_pure] at h
    obtain ⟨_, _, rfl, _, _, rfl, _, _, ⟨rfl, rfl⟩, rfl, rfl⟩ := h
    refine opened.noting .indexMissing _ ?_
    simp [Link.gaps, Expression.untyped, Expression.gaps, Expr.gaps]
  · simp only [run_bind, run_advance, run_pure] at h
    obtain ⟨_, _, rfl, index, u, hi, _, _, hc, rfl, rfl⟩ := h
    have first := length_moved .insensitive s
    have second := length_moved .insensitive (s.moved .insensitive)
    have two := two_le_length_of_peek (s := s) (by rw [next]; decide)
    have inner := (opened.trans (builds (by omega) hi)).followed (.closed hc)
    rw [Link.gaps, Link.Proper]
    exact inner.mono (by omega) fun both => ⟨both.1.1, both.2⟩

/-- A call is proper: its type arguments, if it has any, are at least one. -/
lemma callLink_builds {expression : Parser Expression} {bound : Nat}
    (builds : BuildsAs l bound expression Expression.gaps (Expression.Proper l)) {r : Link}
    (name : isLinkName s.token.kind) (bounded : s.pending.length ≤ bound)
    (h : Runs (callLink expression bound) s r t) : Builds l s t r.gaps (r.Proper l) := by
  simp only [callLink, run_bind, run_span, run_advance, run_standsOn] at h
  obtain ⟨_, _, ⟨rfl, rfl⟩, _, _, rfl, _, _, ⟨rfl, rfl⟩, h⟩ := h
  have named := (Builds.moved (l := l) .insensitive s).start (isBracketName_token name)
  have pos : 0 < s.pending.length := length_pos_of_kind (by
    intro e
    rw [e] at name
    cases name)
  have moved := length_moved .insensitive s
  split at h
  · next opening =>
    simp only [run_bind, run_advance, run_pure] at h
    obtain ⟨types, u, ht, _, _, rfl, _, _, ⟨rfl, rfl⟩, _, v, hp, ⟨arguments, close⟩, _, ha, rfl, rfl⟩ := h
    have list := typeArgumentsOf_builds (l := l) (typeRef_builds bound) (of_decide_eq_true opening)
      (by omega) ht
    have paren := Builds.expected (l := l) hp
    have left := length_moved .insensitive u
    have after := list.length_le
    have same := paren.length_le
    have upto := ((named.trans list).followed (.moved .insensitive u)).followed paren
    have arguments := callArguments_builds builds (by omega) ha
    rw [Link.gaps, Link.Proper]
    refine (upto.trans arguments).mono (by simp) fun parts => ?_
    exact ⟨parts.1.1.1, by simpa using parts.1.2, parts.2⟩
  · simp only [run_bind, run_pure] at h
    obtain ⟨_, _, ⟨rfl, rfl⟩, _, v, hp, ⟨arguments, close⟩, _, ha, rfl, rfl⟩ := h
    have paren := Builds.expected (l := l) hp
    have same := paren.length_le
    have arguments := callArguments_builds builds (by omega) ha
    rw [Link.gaps, Link.Proper]
    refine ((named.followed paren).trans arguments).mono (by simp) fun parts => ?_
    exact ⟨parts.1.1, fun _ mem => absurd mem (Option.not_mem_none _), parts.2⟩

/-- A link is proper. -/
lemma link?_builds {expression : Parser Expression} {bound : Nat}
    (builds : BuildsAs l bound expression Expression.gaps (Expression.Proper l)) :
    BuildsMaybe l bound (link? expression bound) Link.gaps (Link.Proper l) := by
  intro s t r pos bounded h
  simp only [link?, run_bind, run_kind, run_peek] at h
  obtain ⟨_, _, ⟨rfl, rfl⟩, _, _, ⟨rfl, rfl⟩, h⟩ := h
  split at h
  · next e =>
    simp only [Bool.and_eq_true, decide_eq_true_eq] at e
    simp only [run_bind, run_pure] at h
    obtain ⟨link, _, hl, rfl, rfl⟩ := h
    exact indexLink_builds builds e.1 e.2 bounded hl
  · simp only [run_bind, run_genericCallAhead] at h
    obtain ⟨_, _, ⟨rfl, rfl⟩, h⟩ := h
    split at h
    · next e =>
      simp only [Bool.and_eq_true] at e
      simp only [run_bind, run_pure] at h
      obtain ⟨link, _, hl, rfl, rfl⟩ := h
      exact callLink_builds builds e.1 bounded hl
    · split at h
      · next e =>
        simp only [run_bind, run_span, run_pure] at h
        obtain ⟨_, _, ⟨rfl, rfl⟩, rfl, rfl⟩ := h
        rw [Option.elim_some, Option.elim_some, Link.gaps, Link.Proper]
        exact ((Builds.refl s).start (isName_token e)).imp And.left
      · simp only [run_bind, run_report, run_pure] at h
        obtain ⟨_, _, rfl, rfl, rfl⟩ := h
        exact .noted ..

/-- Links are proper, and there is at least one. -/
lemma links?_builds {link? : Parser (Option Link)}
    (builds : BuildsMaybe l n link? Link.gaps (Link.Proper l)) {bound : Nat} (le : bound ≤ n) :
    BuildsMaybe l bound (links? link? bound) linkGaps fun links =>
      links ≠ [] ∧ linksProper l links := by
  induction bound with
  | zero => exact fun _ _ _ pos => absurd pos (Nat.lt_irrefl _)
  | succ bound ih =>
    intro s t r pos bounded h
    simp only [links?, run_bind] at h
    obtain ⟨first, u, hf, h⟩ := h
    have head := builds (by omega) (by omega) hf
    cases first with
    | none =>
      obtain ⟨rfl, rfl⟩ := run_pure.mp h
      exact head.imp False.elim
    | some first =>
      simp only [run_bind, run_peek] at h
      obtain ⟨_, _, ⟨rfl, rfl⟩, h⟩ := h
      split at h
      · obtain ⟨rfl, rfl⟩ := run_pure.mp h
        exact head.imp fun proper => ⟨List.cons_ne_nil _ _, by simpa [linksProper] using proper⟩
      · next dot =>
        rw [ne_eq, Decidable.not_not] at dot
        simp only [run_bind, run_advance, run_pure] at h
        obtain ⟨_, _, rfl, _, _, rfl, rest, _, hr, rfl, rfl⟩ := h
        have two := two_le_length_of_peek (s := u) (by rw [dot]; decide)
        have length := head.length_le
        have once := length_moved .insensitive u
        have twice := length_moved .insensitive (u.moved .insensitive)
        have tail := ih (by omega) (by omega) (by omega) hr
        have upto := (head.followed (.moved .insensitive u)).followed (.moved .insensitive _)
        cases rest with
        | none => exact tail.after upto
        | some rest =>
          refine (upto.trans tail).imp fun both => ⟨List.cons_ne_nil _ _, ?_⟩
          rw [linksProper]
          exact ⟨both.1, both.2.2⟩

/-- A chain is proper. -/
lemma chain?_builds {expression : Parser Expression} {bound : Nat}
    (builds : BuildsAs l bound expression Expression.gaps (Expression.Proper l)) :
    BuildsMaybe l bound (chain? expression bound) Chain.gaps (Chain.Proper l) := by
  intro s t r pos bounded h
  simp only [chain?, run_bind, run_span, run_pure] at h
  obtain ⟨_, _, ⟨rfl, rfl⟩, links, _, hl, rfl, rfl⟩ := h
  have inner := links?_builds (link?_builds builds) (Nat.le_refl _) pos bounded hl
  cases links with
  | none => exact inner
  | some links =>
    rw [Option.map_some, Option.elim_some, Option.elim_some, Chain.gaps, Chain.Proper]
    exact inner

/-! ## Terms -/

/-- A new value or array is proper; what is new but not called or indexed is reported. -/
lemma newTerm_builds {expression : Parser Expression} {bound : Nat}
    (builds : BuildsAs l bound expression Expression.gaps (Expression.Proper l)) {r : Expr}
    (new : s.token.kind = .kwNew) (bounded : s.pending.length ≤ bound)
    (h : Runs (newTerm expression bound) s r t) : Builds l s t r.gaps (r.Proper l) := by
  simp only [newTerm, run_bind, run_span, run_advance, run_standsOn] at h
  obtain ⟨_, _, ⟨rfl, rfl⟩, _, _, rfl, _, _, ⟨rfl, rfl⟩, h⟩ := h
  have head := Builds.moved (l := l) .insensitive s
  have pos : 0 < s.pending.length := length_pos_of_kind (by rw [new]; decide)
  have moved := length_moved .insensitive s
  split at h
  · simp only [run_bind, run_advance, run_discard, run_pure] at h
    obtain ⟨_, _, rfl, element, u, he, _, _, ⟨_, hc⟩, rfl, rfl⟩ := h
    have twice := length_moved .insensitive (s.moved .insensitive)
    have inner := (builds (by omega) he).after (head.followed (.moved .insensitive _))
    rw [Expr.gaps, Expr.Proper]
    exact inner.followed (.closed hc)
  · simp only [run_bind] at h
    obtain ⟨path, u, hp, h⟩ := h
    have whole := (chain?_builds builds (by omega) (by omega) hp).after head
    have refused : ∀ {r : Expr}, Runs (do report .invalidNew; pure (.missing s.token.span)) u r t →
        Builds l s t r.gaps (r.Proper l) := by
      intro r h
      simp only [run_bind, run_report, run_pure] at h
      obtain ⟨_, _, rfl, rfl, rfl⟩ := h
      rw [Expr.gaps]
      exact whole.noting .invalidNew _ (Nat.le_add_left 1 _)
    cases path with
    | none => exact refused h
    | some path =>
      simp only at h
      split at h
      · next brackets =>
        obtain ⟨rfl, rfl⟩ := run_pure.mp h
        rw [Expr.gaps, Expr.Proper]
        exact whole.imp fun proper => ⟨brackets, proper⟩
      · exact refused h

/-- A term is proper, or it is missing and reported. -/
lemma term_builds {expression : Parser Expression} {bound : Nat}
    (builds : BuildsAs l bound expression Expression.gaps (Expression.Proper l)) :
    BuildsAs l (bound + 1) (term expression bound) Expr.gaps (Expr.Proper l) := by
  intro s t r bounded h
  simp only [term, run_bind, run_span, run_kind] at h
  obtain ⟨_, _, ⟨rfl, rfl⟩, _, _, ⟨rfl, rfl⟩, h⟩ := h
  split at h
  · obtain ⟨rfl, rfl⟩ := run_pure.mp h
    rw [Expr.gaps, Expr.Proper]
    exact .refl s
  · have path : s.token.kind ≠ .endOfFile →
        Runs (do let path ← chain? expression bound; pure (path.elim (.missing s.token.span) .chain)) s r t →
        Builds l s t r.gaps (r.Proper l) := by
      intro ne h
      have pos := length_pos_of_kind ne
      simp only [run_bind, run_pure] at h
      obtain ⟨path, _, hp, rfl, rfl⟩ := h
      have inner := chain?_builds builds (by omega) (by omega) hp
      cases path with
      | none => exact inner.mono (by simp [Expr.gaps]) False.elim
      | some path => exact inner.mono (by simp [Expr.gaps]) fun proper => by simpa [Expr.Proper] using proper
    split at h
    · obtain ⟨rfl, rfl⟩ := run_pure.mp h
      rw [Expr.gaps, Expr.Proper]
      exact .refl s
    · next e =>
      simp only [run_bind, run_advance, run_discard, run_pure] at h
      obtain ⟨_, _, rfl, ⟨root, type⟩, u, hi, _, _, ⟨_, hc⟩, rfl, rfl⟩ := h
      have pos : 0 < s.pending.length := length_pos_of_kind (by rw [e]; decide)
      have moved := length_moved .insensitive s
      have inner := (builds (by omega) hi).after (.moved .insensitive s)
      rw [Expression.gaps, Expression.Proper] at inner
      exact inner.followed (.closed hc)
    · next e => exact newTerm_builds builds e (by omega) h
    · next e => exact path (by rw [e]; decide) h
    · next e => exact path (by rw [e]; decide) h
    · simp only [run_bind, run_report, run_pure] at h
      obtain ⟨_, _, rfl, rfl, rfl⟩ := h
      rw [Expr.gaps]
      exact (Builds.noted ..).imp False.elim

/-- An expression is proper. -/
lemma expression_builds (bound : Nat) :
    BuildsAs l bound (expression bound) Expression.gaps (Expression.Proper l) := by
  induction bound with
  | zero => exact fun _ _ _ bounded => absurd bounded (Nat.not_lt_zero _)
  | succ bound ih =>
    intro s t r bounded h
    simp only [expression, run_bind, run_pure] at h
    obtain ⟨root, _, hr, rfl, rfl⟩ := h
    have operand := unaryOperations_builds (term_builds ih) (Nat.le_refl _)
    rw [Expression.untyped, Expression.gaps, Expression.Proper]
    exact operations_builds operand (fun _ mem => mem) bounded hr

/-- A chain with expressions inside is proper. -/
lemma chain_builds (bound : Nat) : BuildsMaybe l bound (chain bound) Chain.gaps (Chain.Proper l) :=
  chain?_builds (expression_builds bound)

end ArrowScript.Grammar
