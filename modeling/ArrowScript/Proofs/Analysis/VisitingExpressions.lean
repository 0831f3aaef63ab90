import ArrowScript.Proofs.Analysis.Naming

/-!
# Visiting expressions

An expression is visited without a fault, and every name in it is bound to what the rule of lexical scoping
says. The only question that a visit of an expression asks of spans is that those of a chain lie in
one file, so the file is that of all pieces.
-/

namespace ArrowScript.Analysis
open Token

variable {P : Piece → Prop} {members : List (Option Owner)} {table : ScopeTable} {s t u : State}
  {scope : ScopeId} {around : List Owner}

/-! ## Chains in one file -/

/-- What matters of an expression when it is assigned to: where a chain starts, and the ends of links. -/
def ends? : Expr → Option (Span × List Span)
  | .chain path => some (path.span, path.links.map Link.close)
  | _ => none

/-- The ends of links are among their pieces. -/
lemma close_mem_pieces {links : List Link} {close : Span} (mem : close ∈ links.map Link.close) :
    ∃ piece ∈ linkPieces links, piece.span = close := by
  induction links with
  | nil => cases mem
  | cons link rest ih =>
    rw [linkPieces]
    rw [List.map_cons] at mem
    cases mem with
    | head =>
      cases link with
      | name identifier => exact ⟨.link identifier, by simp [Link.pieces], rfl⟩
      | index identifier index close => exact ⟨.mark close, by simp [Link.pieces], rfl⟩
      | call identifier written arguments close => exact ⟨.mark close, by simp [Link.pieces], rfl⟩
    | tail _ mem =>
      obtain ⟨piece, mem, e⟩ := ih mem
      exact ⟨piece, List.mem_append_right _ mem, e⟩

/-- The target of an assignment is judged without a fault when its pieces lie in one file. -/
lemma calledTarget?_answers {file : String} (sameFile : ∀ piece, P piece → piece.span.file = file)
    (operator : BinaryOperator) {written visited : Expr} (same : ends? visited = ends? written)
    (pieces : ∀ piece ∈ written.pieces, P piece) :
    ∃ call?, calledTarget? operator visited = .ok call? := by
  unfold calledTarget?
  split
  · next path =>
    split
    · next identifier types arguments close last =>
      cases written with
      | chain path' =>
        obtain ⟨links, span, type⟩ := path'
        obtain ⟨first, ends⟩ := Prod.mk.inj (Option.some.inj same)
        have ends : path.links.map Link.close = links.map Link.close := ends
        have mem : close ∈ links.map Link.close := by
          rw [← ends]
          exact List.mem_map_of_mem (List.mem_of_getLast? last)
        obtain ⟨piece, there, rfl⟩ := close_mem_pieces mem
        rw [Expr.pieces, Chain.pieces] at pieces
        have start := sameFile _ (pieces _ List.mem_cons_self)
        have stop := sameFile _ (pieces _ (List.mem_cons_of_mem _ there))
        rw [Span.combine, if_pos (by rw [first, stop]; exact start)]
        exact ⟨_, rfl⟩
      | _ => cases same
    · exact ⟨_, rfl⟩
  · exact ⟨_, rfl⟩

/-! ## Steps -/

/-- Checking an index changes nothing that is known. -/
lemma checkIndex_resolves (index : Expression) (type : Option TypeId) :
    Leads (checkIndex index type) s fun _ t => Resolves s t := by
  unfold checkIndex
  split
  · refine Leads.bind (Leads.get ?_)
    split
    · exact .pure (.refl s)
    · exact report_resolves _ _
  · exact .pure (.refl s)

/-- An operation has the type of its left operand or a built-in one. -/
lemma operationType_visits (sound : Sound s) (operator : BinaryOperator) (span : Span)
    {left : Option TypeId} (right : Option TypeId) (known : Known s left) :
    Leads (operationType operator span left right) s fun type t => Resolves s t ∧ Known t type := by
  have bool : Known s (some .bool) := by
    rintro _ ⟨⟩
    exact Nat.lt_of_lt_of_le (by decide) sound.builtins
  unfold operationType
  split
  · split
    · refine Leads.bind ((report_resolves _ _).mono fun _ t reported => ?_)
      exact .pure ⟨reported, known.later reported.later⟩
    · refine .pure ⟨.refl s, ?_⟩
      split
      · exact bool
      · exact known
  · refine .pure ⟨.refl s, ?_⟩
    split
    · exact bool
    · nofun

/-- What the rule says of the chain behind `new`, whatever its first link is. -/
lemma newScoped_cons {around : Surroundings} {first : Link} {rest : List Link} {span : Span}
    {type : Option TypeId} :
    Chain.NewScoped around ⟨first :: rest, span, type⟩ ↔ first.isName = true ∨
      (first.identifier.binding = (first.made? around).map .type ∧ first.InnerScoped around ∧
        ∀ type ∈ first.madeType? around, linksScoped around (some type) rest) := by
  cases first <;> simp [Chain.NewScoped, Link.isName]

/-! ## Expressions -/

variable {file : String}

mutual

/-- An expression is visited without a fault. -/
lemma visitExpr_succeeds (sameFile : ∀ piece, P piece → piece.span.file = file) :
    ∀ (x : Expr) {s : State}, Visiting P members table s (some scope) around →
    (∀ piece ∈ x.pieces, P piece) →
    Succeeds (visitExpr x) s fun r t =>
      Sees P members around s t r.2 (fun around => r.1.Scoped around) ∧ ends? r.1 = ends? x
  | .binary operator span left right type, s, visiting, pieces => by
    rw [Expr.pieces] at pieces
    have leftPieces : ∀ piece ∈ left.pieces, P piece :=
      fun piece mem => pieces piece (List.mem_append_left _ mem)
    have rightPieces : ∀ piece ∈ right.pieces, P piece :=
      fun piece mem => pieces piece (List.mem_append_right _ (List.mem_cons_of_mem _ mem))
    rw [visitExpr]
    refine .bind (.within ((visitExpr_succeeds sameFile left visiting leftPieces).mono
      fun r t first => ?_))
    obtain ⟨left', leftType⟩ := r
    obtain ⟨first, same⟩ := first
    obtain ⟨call?, answer⟩ := calledTarget?_answers sameFile operator same leftPieces
    -- The right operand is visited alike whether or not the left one was reported as no target.
    have rest : ∀ {u : State}, Visits [] t u → Succeeds (do
        let (right, rightType) ←
          within (Expr.binary operator span left' · type) (visitExpr right)
        let type ← operationType operator span leftType rightType
        return (Expr.binary operator span left' right type, type)) u fun r v =>
          Sees P members around s v r.2 (fun around => r.1.Scoped around) ∧
            ends? r.1 = ends? (.binary operator span left right type) := by
      intro u second
      have visits := first.visits.trans second
      refine .bind (.within ((visitExpr_succeeds sameFile right (visiting.after visits)
        rightPieces).mono fun r v third => ?_))
      obtain ⟨right', rightType⟩ := r
      have both := (first.upto second).both third.1
      refine .bind (.lift ((operationType_visits (both.visits.sound visiting.sound) operator span
        rightType (first.known.later (second.later.trans third.1.visits.later))).mono
        fun type w last => .pure ⟨?_, rfl⟩))
      refine (both.upto last.1.toVisits).cast last.2 fun around means => ?_
      rw [Expr.Scoped]
      exact means
    refine .bind (.askFor answer ?_)
    cases call? with
    | none => exact rest (.refl t)
    | some call =>
      exact .bind (.lift ((report_resolves _ _).mono fun _ u reported => rest reported.toVisits))
  | .unary operator span operand type, s, visiting, pieces => by
    rw [Expr.pieces] at pieces
    rw [visitExpr]
    refine .bind (.within ((visitExpr_succeeds sameFile operand visiting
      fun piece mem => pieces piece (List.mem_cons_of_mem _ mem)).mono fun r t first => ?_))
    refine .pure ⟨first.1.cast first.1.known fun around means => ?_, rfl⟩
    rw [Expr.Scoped]
    exact means
  | .chain path, s, visiting, pieces => by
    rw [Expr.pieces] at pieces
    rw [visitExpr]
    refine .bind (.within ((visitChain_succeeds sameFile path visiting pieces).mono
      fun r t first => ?_))
    obtain ⟨sees, span, ends⟩ := first
    refine .pure ⟨sees.cast sees.known fun around means => ?_, ?_⟩
    · rw [Expr.Scoped]
      exact means
    · show some (r.1.span, r.1.links.map Link.close) = some (path.span, path.links.map Link.close)
      rw [span, ends]
  | .literal kind span type, s, visiting, pieces => by
    rw [visitExpr]
    refine .pure ⟨.nothing ?_ fun around => ?_, rfl⟩
    · rintro _ ⟨⟩
      refine Nat.lt_of_lt_of_le ?_ visiting.sound.builtins
      cases kind <;> decide
    · rw [Expr.Scoped]
      trivial
  | .new keyword path, s, visiting, pieces => by
    rw [Expr.pieces] at pieces
    rw [visitExpr]
    refine .bind (.within ((visitNew_succeeds sameFile path visiting
      fun piece mem => pieces piece (List.mem_cons_of_mem _ mem)).mono fun r t first => ?_))
    refine .pure ⟨first.cast first.known fun around means => ?_, rfl⟩
    rw [Expr.Scoped]
    exact means
  | .newArray keyword element, s, visiting, pieces => by
    rw [Expr.pieces] at pieces
    rw [visitExpr]
    refine .bind (.within ((visitExpression_succeeds sameFile element visiting
      fun piece mem => pieces piece (List.mem_cons_of_mem _ mem)).mono fun r t first => ?_))
    obtain ⟨element', type⟩ := r
    cases type with
    | none =>
      refine .pure ⟨first.cast first.known fun around means => ?_, rfl⟩
      rw [Expr.Scoped]
      exact means
    | some type =>
      refine .bind (.lift ((arrayOf_resolves fun _ => first.known).mono fun array u second => ?_))
      refine .pure ⟨(first.upto second.1.toVisits).cast second.2.2 fun around means => ?_, rfl⟩
      rw [Expr.Scoped]
      exact means
  | .nothing span, s, visiting, pieces => by
    rw [visitExpr]
    refine .pure ⟨.nothing ?_ fun around => ?_, rfl⟩
    · rintro _ ⟨⟩
      exact Nat.lt_of_lt_of_le (by decide) visiting.sound.builtins
    · rw [Expr.Scoped]
      trivial
  | .missing span, s, visiting, pieces => by
    rw [visitExpr]
    refine .pure ⟨.nothing nofun fun around => ?_, rfl⟩
    rw [Expr.Scoped]
    trivial

lemma visitExpression_succeeds (sameFile : ∀ piece, P piece → piece.span.file = file) :
    ∀ (x : Expression) {s : State}, Visiting P members table s (some scope) around →
    (∀ piece ∈ x.pieces, P piece) →
    Succeeds (visitExpression x) s fun r t =>
      Sees P members around s t r.2 (fun around => r.1.Scoped around)
  | ⟨root, type⟩, s, visiting, pieces => by
    rw [Expression.pieces] at pieces
    rw [visitExpression]
    refine .bind (.within ((visitExpr_succeeds sameFile root visiting pieces).mono
      fun r t first => ?_))
    refine .pure (first.1.cast first.1.known fun around means => ?_)
    rw [Expression.Scoped]
    exact means

lemma visitChain_succeeds (sameFile : ∀ piece, P piece → piece.span.file = file) :
    ∀ (x : Chain) {s : State}, Visiting P members table s (some scope) around →
    (∀ piece ∈ x.pieces, P piece) →
    Succeeds (visitChain x) s fun r t =>
      Sees P members around s t r.2 (fun around => r.1.Scoped around) ∧
        r.1.span = x.span ∧ r.1.links.map Link.close = x.links.map Link.close
  | ⟨links, span, type⟩, s, visiting, pieces => by
    rw [Chain.pieces] at pieces
    rw [visitChain]
    refine .bind (.within ((visitLinks_succeeds sameFile links none visiting nofun
      fun piece mem => pieces piece (List.mem_cons_of_mem _ mem)).mono fun r t first => ?_))
    refine .pure ⟨first.1.cast first.1.known fun around means => ?_, rfl, first.2⟩
    rw [Chain.Scoped]
    exact means

lemma visitNew_succeeds (sameFile : ∀ piece, P piece → piece.span.file = file) :
    ∀ (x : Chain) {s : State}, Visiting P members table s (some scope) around →
    (∀ piece ∈ x.pieces, P piece) →
    Succeeds (visitNew x) s fun r t =>
      Sees P members around s t r.2 (fun around => r.1.NewScoped around)
  | ⟨[], span, type⟩, s, visiting, pieces => by
    rw [visitNew]
    refine .pure (.nothing nofun fun around => ?_)
    rw [Chain.NewScoped]
    trivial
  | ⟨first :: rest, span, type⟩, s, visiting, pieces => by
    rw [Chain.pieces, linkPieces] at pieces
    rw [visitNew]
    refine .bind (.within ((visitMade_succeeds sameFile first visiting fun piece mem =>
      pieces piece (List.mem_cons_of_mem _ (List.mem_append_left _ mem))).mono fun r t made => ?_))
    obtain ⟨first', type⟩ := r
    cases type with
    | none =>
      refine .pure (made.cast nofun fun around means => ?_)
      refine newScoped_cons.mpr (means.imp_right fun means => ⟨means.1, means.2.1, ?_⟩)
      rw [← means.2.2]
      nofun
    | some owner =>
      refine .bind (.within ((visitLinks_succeeds sameFile rest (some owner)
        (visiting.after made.visits) made.known fun piece mem =>
          pieces piece (List.mem_cons_of_mem _ (List.mem_append_right _ mem))).mono
        fun r u others => ?_))
      refine .pure ((made.both others.1).cast others.1.known fun around means => ?_)
      obtain ⟨means, others⟩ := means
      refine newScoped_cons.mpr (means.imp_right fun means => ⟨means.1, means.2.1, ?_⟩)
      rw [← means.2.2]
      rintro _ ⟨⟩
      exact others

lemma visitLinks_succeeds (sameFile : ∀ piece, P piece → piece.span.file = file) :
    ∀ (x : List Link) (owner : Option TypeId) {s : State}, Visiting P members table s (some scope) around →
    Known s owner → (∀ piece ∈ linkPieces x, P piece) →
    Succeeds (visitLinks owner x) s fun r t =>
      Sees P members around s t r.2 (fun around => linksScoped around owner r.1) ∧
        r.1.map Link.close = x.map Link.close
  | [], owner, s, visiting, known, pieces => by
    rw [visitLinks]
    refine .pure ⟨.nothing known fun around => ?_, rfl⟩
    rw [linksScoped]
    trivial
  | link :: rest, owner, s, visiting, known, pieces => by
    rw [linkPieces] at pieces
    rw [visitLinks]
    refine .bind (.within ((visitLink_succeeds sameFile link owner visiting fun piece mem =>
      pieces piece (List.mem_append_left _ mem)).mono fun r t head => ?_))
    obtain ⟨link', type⟩ := r
    obtain ⟨head, close⟩ := head
    -- Behind a link of unknown type the others are left as they are.
    cases type with
    | none =>
      refine .pure ⟨head.cast head.known fun around means => ?_, ?_⟩
      · rw [linksScoped]
        refine ⟨means.1, means.2.1, ?_⟩
        rw [← means.2.2]
        nofun
      · rw [List.map_cons, List.map_cons, close]
    | some owner' =>
      refine .bind (.within ((visitLinks_succeeds sameFile rest (some owner')
        (visiting.after head.visits) head.known fun piece mem =>
          pieces piece (List.mem_append_right _ mem)).mono fun r u others => ?_))
      refine .pure ⟨(head.both others.1).cast others.1.known fun around means => ?_, ?_⟩
      · obtain ⟨means, others⟩ := means
        rw [linksScoped]
        refine ⟨means.1, means.2.1, ?_⟩
        rw [← means.2.2]
        rintro _ ⟨⟩
        exact others
      · rw [List.map_cons, List.map_cons, close, others.2]

lemma visitLink_succeeds (sameFile : ∀ piece, P piece → piece.span.file = file) :
    ∀ (x : Link) (owner : Option TypeId) {s : State}, Visiting P members table s (some scope) around →
    (∀ piece ∈ x.pieces, P piece) →
    Succeeds (visitLink owner x) s fun r t =>
      Sees P members around s t r.2 (fun around =>
        r.1.identifier.binding = r.1.meant? around owner ∧ r.1.InnerScoped around ∧
          r.2 = r.1.type? around owner) ∧ r.1.close = x.close
  | .name identifier, owner, s, visiting, pieces => by
    rw [Link.pieces] at pieces
    rw [visitLink]
    refine .bind (.within ((bindVariable_succeeds visiting owner
      (pieces _ List.mem_cons_self)).mono fun r t bound => ?_))
    obtain ⟨span, bound⟩ := bound
    refine .pure ⟨bound.cast bound.known fun around means => ?_, span⟩
    rw [Link.InnerScoped]
    exact ⟨means.1, trivial, means.2⟩
  | .index identifier index close, owner, s, visiting, pieces => by
    rw [Link.pieces] at pieces
    rw [visitLink]
    refine .bind (.within ((visitExpression_succeeds sameFile index visiting fun piece mem =>
      pieces piece (List.mem_cons_of_mem _ (List.mem_append_left _ mem))).mono
      fun r t first => ?_))
    refine .bind (.lift ((checkIndex_resolves r.1 r.2).mono fun _ u checked => ?_))
    have inner := first.upto checked.toVisits
    refine .bind (.within ((bindVariable_succeeds (visiting.after inner.visits) owner
      (pieces _ List.mem_cons_self)).mono fun r v bound => ?_))
    have all := inner.both (bound.2.element (inner.visits.sound visiting.sound))
    refine .bind (.get (.pure ⟨all.cast all.known fun around means => ?_, rfl⟩))
    obtain ⟨inner, ⟨binding, found⟩, same⟩ := means
    rw [Link.InnerScoped]
    refine ⟨binding, inner, same.trans ?_⟩
    rw [found]
    rfl
  | .call identifier written arguments close, owner, s, visiting, pieces => by
    rw [Link.pieces] at pieces
    rw [visitLink]
    refine .bind (.within ((visitArguments_succeeds sameFile arguments visiting fun piece mem =>
      pieces piece (List.mem_cons_of_mem _ (List.mem_append_right _
        (List.mem_append_left _ mem)))).mono fun r t first => ?_))
    refine .bind (.within ((bindTypeArguments_succeeds (visiting.after first.visits)
      written).mono fun r u second => ?_))
    obtain ⟨written', arity⟩ := r
    obtain ⟨filled, count⟩ := second
    obtain rfl : arity = written'.elim 0 List.length := count
    have inner := first.upto filled
    refine .bind (.within ((bindFunction_succeeds (visiting.after inner.visits) owner _ _
      (pieces _ List.mem_cons_self)).mono fun r v bound => ?_))
    have all := inner.both bound
    refine .pure ⟨all.cast all.known fun around means => ?_, rfl⟩
    obtain ⟨inner, binding, found⟩ := means
    rw [Link.InnerScoped]
    exact ⟨binding, inner, found⟩

lemma visitMade_succeeds (sameFile : ∀ piece, P piece → piece.span.file = file) :
    ∀ (x : Link) {s : State}, Visiting P members table s (some scope) around →
    (∀ piece ∈ x.pieces, P piece) →
    Succeeds (visitMade x) s fun r t =>
      Sees P members around s t r.2 (fun around => r.1.isName = true ∨
        (r.1.identifier.binding = (r.1.made? around).map .type ∧ r.1.InnerScoped around ∧
          r.2 = r.1.madeType? around))
  | .name identifier, s, visiting, pieces => by
    rw [visitMade]
    exact .pure (.nothing nofun fun around => .inl rfl)
  | .index identifier index close, s, visiting, pieces => by
    rw [Link.pieces] at pieces
    rw [visitMade]
    refine .bind (.within ((visitExpression_succeeds sameFile index visiting fun piece mem =>
      pieces piece (List.mem_cons_of_mem _ (List.mem_append_left _ mem))).mono
      fun r t first => ?_))
    refine .bind (.lift ((checkIndex_resolves r.1 r.2).mono fun _ u checked => ?_))
    have inner := first.upto checked.toVisits
    refine .bind (.within ((bindConstructed_succeeds (visiting.after inner.visits) 0
      (pieces _ List.mem_cons_self)).mono fun r v bound => ?_))
    obtain ⟨identifier', element⟩ := r
    have all := inner.both bound
    cases element with
    | none =>
      refine .pure (all.cast nofun fun around means => .inr ?_)
      obtain ⟨inner, binding, found⟩ := means
      rw [Link.InnerScoped]
      refine ⟨binding, inner, ?_⟩
      exact congrArg (Option.bind · around.state.types.array?) found
    | some element =>
      refine .bind (.lift ((arrayOf_resolves fun _ => all.known).mono fun array w second => ?_))
      have all := all.array second
      refine .pure (all.cast all.known fun around means => .inr ?_)
      obtain ⟨⟨inner, binding, found⟩, same⟩ := means
      rw [Link.InnerScoped]
      refine ⟨binding, inner, ?_⟩
      exact same.symm.trans (congrArg (Option.bind · around.state.types.array?) found)
  | .call identifier written arguments close, s, visiting, pieces => by
    rw [Link.pieces] at pieces
    rw [visitMade]
    refine .bind (.within ((visitArguments_succeeds sameFile arguments visiting fun piece mem =>
      pieces piece (List.mem_cons_of_mem _ (List.mem_append_right _
        (List.mem_append_left _ mem)))).mono fun r t first => ?_))
    refine .bind (.within ((bindTypeArguments_succeeds (visiting.after first.visits)
      written).mono fun r u second => ?_))
    obtain ⟨written', arity⟩ := r
    obtain ⟨filled, count⟩ := second
    obtain rfl : arity = written'.elim 0 List.length := count
    have inner := first.upto filled
    refine .bind (.within ((bindConstructed_succeeds (visiting.after inner.visits) _
      (pieces _ List.mem_cons_self)).mono fun r v bound => ?_))
    have all := inner.both bound
    refine .pure (all.cast all.known fun around means => .inr ?_)
    obtain ⟨inner, binding, found⟩ := means
    rw [Link.InnerScoped]
    exact ⟨binding, inner, found⟩

lemma visitArguments_succeeds (sameFile : ∀ piece, P piece → piece.span.file = file) :
    ∀ (x : List Expression) {s : State}, Visiting P members table s (some scope) around →
    (∀ piece ∈ argumentPieces x, P piece) →
    Succeeds (visitArguments x) s fun r t =>
      Sees P members around s t none (fun around => argumentsScoped around r.1)
  | [], s, visiting, pieces => by
    rw [visitArguments]
    refine .pure (.nothing nofun fun around => ?_)
    rw [argumentsScoped]
    trivial
  | argument :: rest, s, visiting, pieces => by
    rw [argumentPieces] at pieces
    rw [visitArguments]
    refine .bind (.within ((visitExpression_succeeds sameFile argument visiting fun piece mem =>
      pieces piece (List.mem_append_left _ mem)).mono fun r t head => ?_))
    refine .bind (.within ((visitArguments_succeeds sameFile rest (visiting.after head.visits)
      fun piece mem => pieces piece (List.mem_append_right _ mem)).mono fun r u others => ?_))
    refine .pure ((head.both others).cast nofun fun around means => ?_)
    rw [argumentsScoped]
    exact means

end

end ArrowScript.Analysis
