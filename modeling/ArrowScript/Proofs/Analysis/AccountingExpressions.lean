import ArrowScript.Proofs.Analysis.AccountingNames

/-!
# Expressions by the account

At a located place an expression is visited as the setting judges it, one lemma for each routine. The span of an
expression does not change, which the checks of indices and arguments rely on.
-/

namespace ArrowScript.Analysis

variable {origins : List Origin} {table : ScopeTable} {facts : Facts} {setting : Setting} {s t u : State}
  {scope : ScopeId}

/-! ## Steps -/

/-- The index is checked as the account has it. -/
lemma checkIndex_follows (tracks : Tracks setting.facts origins table s) (index : Expression)
    {judged : Expression} (span : index.root.span = judged.root.span) {type : Option TypeId}
    {shape : Option Shape} (typed : Typed origins s.types type shape) :
    Leads (checkIndex index type) s fun _ t => Follows setting.facts origins table setting.code s t
      (setting.indexProblems judged shape) [] := by
  unfold checkIndex Setting.indexProblems
  cases typed with
  | none => exact .pure (.refl tracks)
  | @some found shape shaped =>
    have int : Shaped origins s.types .int (.builtin .int) := tracks.grown.shaped_builtin (by decide)
    refine Leads.bind (Leads.get ?_)
    have same := shaped.eq_iff tracks.grown int
    simp only [shaped.isGeneric tracks.grown, same]
    split
    · exact .pure (.refl tracks)
    · have follows := (report_follows setting.code tracks (.indexNotInt found) index.root.span).2.2
      refine follows.cast (fun coded => ?_) rfl
      rw [coded _ _ (follows.keeps _ _ shaped), span]

/-- An operation gets the type of the account. -/
lemma operationType_judges (tracks : Tracks setting.facts origins table s) (operator : BinaryOperator)
    (span : Span) {left right : Option TypeId} {left' right' : Option Shape}
    (typed : Typed origins s.types left left') (typed' : Typed origins s.types right right') :
    Leads (operationType operator span left right) s fun type t =>
      Judges setting.facts origins table setting.code s t type (operationShape operator left' right')
        (setting.operandProblems span left' right') True := by
  have bool : Shaped origins s.types .bool (.builtin .bool) := tracks.grown.shaped_builtin (by decide)
  have unknown : Typed origins s.types (if operator.isBoolean then some .bool else none)
      (if operator.isBoolean then some (.builtin .bool) else none) := by
    split
    · exact .some bool
    · exact .none
  unfold operationType operationShape Setting.operandProblems
  cases typed with
  | none => exact .pure ⟨.refl tracks, unknown, fun _ => trivial⟩
  | @some left left' shaped =>
    cases typed' with
    | none => exact .pure ⟨.refl tracks, unknown, fun _ => trivial⟩
    | @some right right' shaped' =>
      have same := shaped.eq_iff tracks.grown shaped'
      by_cases e : left = right
      · simp only [e, same.mp e, ne_eq, not_true_eq_false, if_false]
        refine .pure ⟨.refl tracks, .some ?_, fun _ => trivial⟩
        split
        · exact bool
        · exact shaped'
      · simp only [ne_eq, e, mt same.mpr e, not_false_eq_true, if_true]
        have follows := (report_follows setting.code tracks (.operandsDiffer left right) span).2.2
        refine ⟨follows.cast (fun coded => ?_) rfl, .some (follows.keeps _ _ shaped), fun _ => trivial⟩
        rw [coded _ _ (follows.keeps _ _ shaped), coded _ _ (follows.keeps _ _ shaped')]

lemma targetProblems_assign (path : Chain) : targetProblems .assign (.chain path) =
    match path.links.getLast? with
    | some (.call _ _ _ close) => [⟨.assignsToCall, (path.span.combine close).toOption.getD close⟩]
    | _ => [] := rfl

/-- A call that is assigned to is a problem of the account. -/
lemma targetProblems_of_calledTarget? {operator : BinaryOperator} {target : Expr} {call? : Option Span}
    (answer : calledTarget? operator target = .ok call?) :
    targetProblems operator target = (call?.map fun call => ⟨.assignsToCall, call⟩).toList := by
  unfold calledTarget? at answer
  split at answer
  · next path =>
    split at answer
    · next last =>
      cases combined : path.span.combine _ with
      | error fault =>
        rw [combined] at answer
        cases answer
      | ok span =>
        rw [combined] at answer
        obtain rfl := Except.ok.inj answer
        unfold targetProblems
        simp only [last, combined]
        rfl
    · next other =>
      obtain rfl := Except.ok.inj answer
      rw [targetProblems_assign]
      split
      · next identifier written arguments close last =>
        exact absurd last (other identifier written arguments close)
      · rfl
  · next other =>
    obtain rfl := Except.ok.inj answer
    unfold targetProblems
    split
    · next path => exact absurd rfl (other path rfl)
    · rfl

/-! ## Expressions -/

mutual

/-- An expression is visited as the account judges it. -/
lemma visitExpr_judges :
    ∀ (x : Expr) {s : State}, Located origins table setting s (some scope) →
      Yields (visitExpr x) s fun r t =>
        Judges setting.facts origins table setting.code s t r.2 (x.judged setting).shape
          (x.judged setting).problems (r.1 = (x.judged setting).node) ∧
        r.1.span = (x.judged setting).node.span
  | .binary operator span left right type, s, located => by
    rw [visitExpr, Expr.judged]
    refine .bind (.within ((visitExpr_judges left located).mono fun r t first => ?_))
    obtain ⟨left', leftType⟩ := r
    obtain ⟨first, sameSpan⟩ := first
    have leftNode : Coded origins t.types setting.code → left' = (left.judged setting).node := first.same
    refine .bind (.askFor fun call? answer => ?_)
    -- What comes after the target was checked does not depend on what was found there.
    have rest : ∀ {u : State}, Follows setting.facts origins table setting.code t u
        (targetProblems operator left') [] → Yields (do
        let (right, rightType) ←
          within (Expr.binary operator span left' · type) (visitExpr right)
        let type ← operationType operator span leftType rightType
        return (Expr.binary operator span left' right type, type)) u fun r v =>
          Judges setting.facts origins table setting.code s v r.2
            (operationShape operator (left.judged setting).shape (right.judged setting).shape)
            ((left.judged setting).problems ++ targetProblems operator (left.judged setting).node ++
              (right.judged setting).problems ++
              setting.operandProblems span (left.judged setting).shape (right.judged setting).shape)
            (r.1 = .binary operator span (left.judged setting).node (right.judged setting).node
              ((operationShape operator (left.judged setting).shape (right.judged setting).shape).map
                setting.code)) ∧
          r.1.span = (left.judged setting).node.span := by
      intro u second
      have both := first.follows.trans second
      refine .bind (.within ((visitExpr_judges right (located.same both)).mono fun r v third => ?_))
      obtain ⟨right', rightType⟩ := r
      obtain ⟨third, -⟩ := third
      have rightNode : Coded origins v.types setting.code → right' = (right.judged setting).node :=
        third.same
      refine .bind (.lift ((operationType_judges third.follows.tracks operator span
        (first.typed.keeps (second.keeps.trans third.follows.keeps)) third.typed).mono
        fun type w last => .pure ⟨⟨?_, last.typed, fun coded => ?_⟩, sameSpan⟩))
      · refine ((both.trans third.follows).trans last.follows).cast (fun coded => ?_) rfl
        have coded := ((coded.before last.follows.keeps).before third.follows.keeps).before second.keeps
        rw [leftNode coded]
      · have coded' := coded.before last.follows.keeps
        rw [leftNode ((coded'.before third.follows.keeps).before second.keeps), rightNode coded',
          last.typed.coded coded]
    have target := targetProblems_of_calledTarget? answer
    cases call? with
    | none => exact rest (target ▸ .refl first.follows.tracks)
    | some call =>
      refine .bind (.lift ((report_follows setting.code first.follows.tracks _ _).mono
        fun _ u reported => ?_))
      exact rest (target ▸ reported.2.2)
  | .unary operator span operand type, s, located => by
    rw [visitExpr, Expr.judged]
    refine .bind (.within ((visitExpr_judges operand located).mono fun r t first => ?_))
    refine .pure ⟨⟨first.1.follows, first.1.typed, fun coded => ?_⟩, rfl⟩
    rw [first.1.same coded, first.1.typed.coded coded]
  | .chain path, s, located => by
    rw [visitExpr, Expr.judged]
    refine .bind (.within ((visitChain_judges path located).mono fun r t first => ?_))
    exact .pure ⟨⟨first.1.follows, first.1.typed, fun coded => congrArg Expr.chain (first.1.same coded)⟩,
      first.2⟩
  | .literal kind span type, s, located => by
    rw [visitExpr, Expr.judged]
    have shaped : Shaped origins s.types kind.type (.builtin kind.type) :=
      located.tracks.grown.shaped_builtin (by cases kind <;> decide)
    refine .pure ⟨⟨.refl located.tracks, .some shaped, fun coded => ?_⟩, rfl⟩
    rw [coded _ _ shaped]
  | .new keyword path, s, located => by
    rw [visitExpr, Expr.judged]
    refine .bind (.within ((visitNew_judges path located).mono fun r t first => ?_))
    exact .pure ⟨⟨first.follows, first.typed, fun coded => congrArg (Expr.new keyword) (first.same coded)⟩,
      rfl⟩
  | .newArray keyword element, s, located => by
    rw [visitExpr, Expr.judged]
    refine .bind (.within ((visitExpression_judges element located).mono fun r t first => ?_))
    obtain ⟨element', type⟩ := r
    obtain ⟨⟨follows, typed, same⟩, -⟩ := first
    have same : Coded origins t.types setting.code → element' = (element.judged setting).node := same
    simp only
    generalize (element.judged setting).shape = shape at typed
    cases typed with
    | none => exact .pure ⟨⟨follows, .none, fun coded => congrArg (Expr.newArray keyword) (same coded)⟩, rfl⟩
    | some shaped =>
      refine .bind (.lift ((arrayOf_follows setting.code follows.tracks shaped).mono
        fun array u second => .pure ⟨⟨?_, .some second.2, fun coded => ?_⟩, rfl⟩))
      · exact (follows.trans second.1).cast (fun _ => List.append_nil _) rfl
      · exact congrArg (Expr.newArray keyword) (same (coded.before second.1.keeps))
  | .nothing span, s, located => by
    rw [visitExpr, Expr.judged]
    exact .pure ⟨⟨.refl located.tracks, .some (located.tracks.grown.shaped_builtin (by decide)),
      fun _ => rfl⟩, rfl⟩
  | .missing span, s, located => by
    rw [visitExpr, Expr.judged]
    exact .pure ⟨⟨.refl located.tracks, .none, fun _ => rfl⟩, rfl⟩

lemma visitExpression_judges :
    ∀ (x : Expression) {s : State}, Located origins table setting s (some scope) →
      Yields (visitExpression x) s fun r t =>
        Judges setting.facts origins table setting.code s t r.2 (x.judged setting).shape
          (x.judged setting).problems (r.1 = (x.judged setting).node) ∧
        r.1.root.span = (x.judged setting).node.root.span
  | ⟨root, type⟩, s, located => by
    rw [visitExpression, Expression.judged]
    refine .bind (.within ((visitExpr_judges root located).mono fun r t first => ?_))
    refine .pure ⟨⟨first.1.follows, first.1.typed, fun coded => ?_⟩, first.2⟩
    rw [first.1.same coded, first.1.typed.coded coded]

lemma visitChain_judges :
    ∀ (x : Chain) {s : State}, Located origins table setting s (some scope) →
      Yields (visitChain x) s fun r t =>
        Judges setting.facts origins table setting.code s t r.2 (x.judged setting).shape
          (x.judged setting).problems (r.1 = (x.judged setting).node) ∧
        r.1.span = (x.judged setting).node.span
  | ⟨links, span, type⟩, s, located => by
    rw [visitChain, Chain.judged]
    refine .bind (.within ((visitLinks_judges links located .none).mono fun r t first => ?_))
    refine .pure ⟨⟨first.follows, first.typed, fun coded => ?_⟩, rfl⟩
    rw [first.same coded, first.typed.coded coded]

lemma visitNew_judges :
    ∀ (x : Chain) {s : State}, Located origins table setting s (some scope) →
      Yields (visitNew x) s fun r t =>
        Judges setting.facts origins table setting.code s t r.2 (x.judgedNew setting).shape
          (x.judgedNew setting).problems (r.1 = (x.judgedNew setting).node)
  | ⟨[], span, type⟩, s, located => by
    rw [visitNew, Chain.judgedNew]
    exact .pure ⟨.refl located.tracks, .none, fun _ => rfl⟩
  | ⟨first :: rest, span, type⟩, s, located => by
    rw [visitNew, Chain.judgedNew]
    refine .bind (.within ((visitMade_judges first located).mono fun r t made => ?_))
    obtain ⟨first', type⟩ := r
    have typed := made.typed
    have node : Coded origins t.types setting.code → first' = (first.judgedMade setting).node := made.same
    simp only
    generalize (first.judgedMade setting).shape = shape at typed
    cases typed with
    | none =>
      refine .pure ⟨made.follows, .none, fun coded => ?_⟩
      rw [node coded]
    | some shaped =>
      refine .bind (.within ((visitLinks_judges rest (located.same made.follows) (.some shaped)).mono
        fun r u others => ?_))
      refine .pure ⟨made.follows.trans others.follows, others.typed, fun coded => ?_⟩
      rw [node (coded.before others.follows.keeps), others.same coded, others.typed.coded coded]

lemma visitLinks_judges :
    ∀ (x : List Link) {owner : Option TypeId} {shape : Option Shape} {s : State},
      Located origins table setting s (some scope) → Typed origins s.types owner shape →
      Yields (visitLinks owner x) s fun r t =>
        Judges setting.facts origins table setting.code s t r.2 (linksJudged setting shape x).shape
          (linksJudged setting shape x).problems (r.1 = (linksJudged setting shape x).node)
  | [], owner, shape, s, located, typed => by
    rw [visitLinks, linksJudged]
    exact .pure ⟨.refl located.tracks, typed, fun _ => rfl⟩
  | link :: rest, owner, shape, s, located, typed => by
    rw [visitLinks, linksJudged]
    refine .bind (.within ((visitLink_judges link located typed).mono fun r t head => ?_))
    obtain ⟨link', type⟩ := r
    have typed := head.typed
    have node : Coded origins t.types setting.code → link' = (link.judged setting shape).node := head.same
    simp only
    generalize (link.judged setting shape).shape = shape' at typed
    cases typed with
    | none =>
      refine .pure ⟨head.follows, .none, fun coded => ?_⟩
      rw [node coded]
    | some shaped =>
      refine .bind (.within ((visitLinks_judges rest (located.same head.follows) (.some shaped)).mono
        fun r u others => ?_))
      refine .pure ⟨head.follows.trans others.follows, others.typed, fun coded => ?_⟩
      rw [node (coded.before others.follows.keeps), others.same coded]

lemma visitLink_judges :
    ∀ (x : Link) {owner : Option TypeId} {shape : Option Shape} {s : State},
      Located origins table setting s (some scope) → Typed origins s.types owner shape →
      Yields (visitLink owner x) s fun r t =>
        Judges setting.facts origins table setting.code s t r.2 (x.judged setting shape).shape
          (x.judged setting shape).problems (r.1 = (x.judged setting shape).node)
  | .name identifier, owner, shape, s, located, typed => by
    rw [visitLink, Link.judged]
    refine .bind (.within ((bindVariable_judges located typed identifier).mono fun r t bound => ?_))
    exact .pure ⟨bound.follows, bound.typed, fun coded => congrArg Link.name (bound.same coded)⟩
  | .index identifier index close, owner, shape, s, located, typed => by
    rw [visitLink, Link.judged]
    refine .bind (.within ((visitExpression_judges index located).mono fun r t first => ?_))
    obtain ⟨first, span⟩ := first
    refine .bind (.lift ((checkIndex_follows first.follows.tracks r.1 span first.typed).mono
      fun _ u checked => ?_))
    have inner := first.follows.trans checked
    refine .bind (.within ((bindVariable_judges (located.same inner) (typed.keeps inner.keeps)
      identifier).mono fun r v bound => ?_))
    refine .bind (.get (.pure ⟨inner.trans bound.follows, ?_, fun coded => ?_⟩))
    · exact bound.typed.element bound.follows.tracks.grown
    · have coded' := coded.before bound.follows.keeps
      rw [first.same (coded'.before checked.keeps), bound.same coded]
  | .call identifier written arguments close, owner, shape, s, located, typed => by
    rw [visitLink, Link.judged]
    refine .bind (.within ((visitArguments_judges arguments located).mono fun r t first => ?_))
    obtain ⟨first, found, same⟩ := first
    refine .bind (.within ((bindTypeArguments_judges (located.same first) written).mono
      fun r u second => ?_))
    obtain ⟨written', arity⟩ := r
    obtain ⟨second, rfl, same'⟩ := second
    have same' : Coded origins u.types setting.code →
        written' = (setting.judgeTypeArguments written).node := same'
    have inner := first.trans second
    refine .bind (.within ((bindFunction_judges (located.same inner) (typed.keeps inner.keeps) _
      (ArgumentsTyped.keeps found second.keeps) identifier).mono fun r v bound => ?_))
    refine .pure ⟨inner.trans bound.follows, bound.typed, fun coded => ?_⟩
    have coded' := coded.before bound.follows.keeps
    rw [same (coded'.before second.keeps), same' coded', bound.same coded]

lemma visitMade_judges :
    ∀ (x : Link) {s : State}, Located origins table setting s (some scope) →
      Yields (visitMade x) s fun r t =>
        Judges setting.facts origins table setting.code s t r.2 (x.judgedMade setting).shape
          (x.judgedMade setting).problems (r.1 = (x.judgedMade setting).node)
  | .name identifier, s, located => by
    rw [visitMade, Link.judgedMade]
    exact .pure ⟨.refl located.tracks, .none, fun _ => rfl⟩
  | .index identifier index close, s, located => by
    rw [visitMade, Link.judgedMade]
    refine .bind (.within ((visitExpression_judges index located).mono fun r t first => ?_))
    obtain ⟨first, span⟩ := first
    refine .bind (.lift ((checkIndex_follows first.follows.tracks r.1 span first.typed).mono
      fun _ u checked => ?_))
    obtain ⟨index', found⟩ := r
    have indexNode : Coded origins t.types setting.code → index' = (index.judged setting).node := first.same
    have inner := first.follows.trans checked
    refine .bind (.within ((bindConstructed_judges (located.same inner) 0 identifier).mono
      fun r v bound => ?_))
    obtain ⟨identifier', element⟩ := r
    obtain ⟨second, typed, same⟩ := bound
    have same : Coded origins v.types setting.code →
        identifier' = (setting.judgeConstructed 0 identifier).node := same
    have node : Coded origins v.types setting.code → Link.index identifier' index' close =
        .index (setting.judgeConstructed 0 identifier).node (index.judged setting).node close := by
      intro coded
      rw [same coded, indexNode ((coded.before second.keeps).before checked.keeps)]
    simp only
    -- An array is made only where the type of its elements is known.
    generalize (setting.judgeConstructed 0 identifier).shape = shape at typed
    cases typed with
    | none => exact .pure ⟨inner.trans second, .none, node⟩
    | some shaped =>
      refine .bind (.lift ((arrayOf_follows setting.code second.tracks shaped).mono
        fun array w third => .pure ⟨?_, .some third.2, fun coded => node (coded.before third.1.keeps)⟩))
      exact ((inner.trans second).trans third.1).cast (fun _ => List.append_nil _) rfl
  | .call identifier written arguments close, s, located => by
    rw [visitMade, Link.judgedMade]
    refine .bind (.within ((visitArguments_judges arguments located).mono fun r t first => ?_))
    obtain ⟨first, found, same⟩ := first
    refine .bind (.within ((bindTypeArguments_judges (located.same first) written).mono
      fun r u second => ?_))
    obtain ⟨written', arity⟩ := r
    obtain ⟨second, rfl, same'⟩ := second
    have same' : Coded origins u.types setting.code →
        written' = (setting.judgeTypeArguments written).node := same'
    have inner := first.trans second
    refine .bind (.within ((bindConstructed_judges (located.same inner) _ identifier).mono
      fun r v bound => ?_))
    refine .pure ⟨inner.trans bound.follows, bound.typed, fun coded => ?_⟩
    have coded' := coded.before bound.follows.keeps
    rw [same (coded'.before second.keeps), same' coded', bound.same coded]

lemma visitArguments_judges :
    ∀ (x : List Expression) {s : State}, Located origins table setting s (some scope) →
      Yields (visitArguments x) s fun r t =>
        Follows setting.facts origins table setting.code s t (argumentsJudged setting x).problems [] ∧
          ArgumentsTyped origins t.types r.2 (argumentsJudged setting x).shape ∧
            (Coded origins t.types setting.code → r.1 = (argumentsJudged setting x).node)
  | [], s, located => by
    rw [visitArguments, argumentsJudged]
    exact .pure ⟨.refl located.tracks, .nil, fun _ => rfl⟩
  | argument :: rest, s, located => by
    rw [visitArguments, argumentsJudged]
    refine .bind (.within ((visitExpression_judges argument located).mono fun r t head => ?_))
    obtain ⟨head, span⟩ := head
    refine .bind (.within ((visitArguments_judges rest (located.same head.follows)).mono
      fun r u others => ?_))
    obtain ⟨others, typed, same⟩ := others
    refine .pure ⟨head.follows.trans others, .cons ⟨head.typed.keeps others.keeps, span⟩ typed,
      fun coded => ?_⟩
    rw [head.same (coded.before others.keeps), same coded]

end

end ArrowScript.Analysis
