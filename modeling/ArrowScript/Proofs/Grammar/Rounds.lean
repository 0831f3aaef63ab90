import ArrowScript.Proofs.Grammar.Progress
import ArrowScript.Proofs.Grammar.ReadingExpressions

/-!
# Rounds of types and expressions

Each routine that calls itself is one round after another: a round is the body of the routine with the call
to itself left open. A round enters the routine again only where fewer tokens are left, and all that a
bound is used for is to count these rounds.
-/

namespace ArrowScript.Grammar

variable {α : Type} {s t : State} {m n bound : Nat}

/-! ## Lists -/

/-- One element of a list, up to its comma or the closing token. -/
def commaRound (element : Parser α) (closing : Token.Kind) (unseparated unclosed : SyntaxProblem)
    (again : Parser (List α)) : Parser (List α) := do
  let first ← element
  advance
  if ← standsOn closing then return [first]
  expect .comma unseparated
  if ← tryAdvance then return first :: (← again)
  expect closing unclosed
  return [first]

section Lists

variable {p q : Parser α} {closing : Token.Kind} {unseparated unclosed : SyntaxProblem}

lemma commaRound_alike {again again' : Parser (List α)} (element : Alike p q s)
    (rest : AlikeAhead s again again') :
    Alike (commaRound p closing unseparated unclosed again)
      (commaRound q closing unseparated unclosed again') s := by
  refine element.bind fun first t _ on => .advance <| .standsOn <| .ite (fun _ => .pure _) fun _ => ?_
  refine .expect fun u next same => .tryAdvance <| .ite (fun more => ?_) fun _ => ?_
  · have pos : 0 < u.pending.length := List.length_pos_iff.mpr (of_decide_eq_true more)
    have behind : Onward s u := (on.trans (.moved _ t)).trans next
    exact (rest _ (behind.ahead (.moved _ pos (.refl u)))).bind fun _ _ _ _ => .pure _
  · exact .expect fun _ _ _ => .pure _

lemma commaList_alike (element : AlikeFrom s p q) (enough : Enough m n s.pending.length) :
    Alike (commaList p closing unseparated unclosed m) (commaList q closing unseparated unclosed n) s :=
  alike_of_rounds (f := fun bound (_ : Unit) => commaList p closing unseparated unclosed bound)
    (g := fun bound _ => commaList q closing unseparated unclosed bound)
    (fun t => t.pending.length) (fun _ _ => .pure _)
    (fun _ _ _ _ on _ rest => commaRound_alike (element _ on) fun _ next => rest () _ next.toOnward next.fewer)
    m n () s (.refl s) enough

lemma inAngles_alike {empty : SyntaxProblem} (pos : 0 < s.pending.length) (element : AlikeAhead s p q)
    (enough : Enough (m + 1) (n + 1) s.pending.length) :
    Alike (inAngles p empty unclosed m) (inAngles q empty unclosed n) s := by
  refine .advance <| .standsOn <| .ite (fun _ => .report (.pure _)) fun _ => ?_
  have onto : Ahead s (s.moved .insensitive) := .moved _ pos (.refl s)
  exact commaList_alike (element.from onto) (enough.pred onto.fewer)

end Lists

/-! ## Written types -/

/-- A written type from its name on; `again` reads its type arguments. -/
def typeFromName (bound : Nat) (again : Parser TypeRef) : Parser TypeRef := do
  let named := TypeRef.named (← span) (← kind).isBuiltinName
  let arguments ← do
    if (← peek) = .less then
      advance
      typeArgumentsOf again bound
    else pure []
  return { named with arguments, array := ← arrayBrackets }

/-- One written type, whose name may have to be reported. -/
def typeRound (bound : Nat) (again : Parser TypeRef) : Parser TypeRef := do
  unless (← kind).isTypeName do report .invalidTypeName
  typeFromName bound again

section Types

variable {p q : Parser TypeRef}

lemma typeArgument_alike (type : Alike p q s) : Alike (typeArgument p) (typeArgument q) s :=
  .kind <| .ite (fun _ => type) fun _ => .report <| .span fun _ => .pure _

lemma typeArgumentsOf_alike (pos : 0 < s.pending.length) (type : AlikeAhead s p q)
    (enough : Enough (m + 1) (n + 1) s.pending.length) :
    Alike (typeArgumentsOf p m) (typeArgumentsOf q n) s :=
  inAngles_alike pos (fun t next => typeArgument_alike (type t next)) enough

lemma arrayBrackets_alike : Alike arrayBrackets arrayBrackets s := by
  refine .peekWith <| .ite (fun _ => ?_) fun _ => .pure _
  refine (Alike.self (.moved _ s)).bind fun _ t _ _ => .peekWith <| .ite (fun _ => ?_) fun _ => ?_
  · exact (Alike.self (.moved _ t)).bind fun _ _ _ _ => .pure _
  · exact .report <| .pure _

lemma typeFromName_alike (again : AlikeAhead s p q) (enough : Enough (m + 1) (n + 1) s.pending.length) :
    Alike (typeFromName m p) (typeFromName n q) s := by
  refine .span fun _ => .kind <| .peek <| .ite (fun less => .advance ?_) fun _ => ?_
  · have more : s.cursor.peekKind .insensitive ≠ .endOfFile := by rw [less]; decide
    have onto : Ahead s (s.moved .insensitive) := .moved _ (length_pos_of_peek more) (.refl s)
    refine (typeArgumentsOf_alike (length_moved_pos more) (again.from onto).ahead ?_).bind
      fun _ _ _ _ => arrayBrackets_alike.bind fun _ _ _ _ => .pure _
    exact enough.mono onto.length_le
  · exact (Alike.pure _).bind fun _ _ _ _ => arrayBrackets_alike.bind fun _ _ _ _ => .pure _

lemma typeRound_alike (again : AlikeAhead s p q) (enough : Enough (m + 1) (n + 1) s.pending.length) :
    Alike (typeRound m p) (typeRound n q) s :=
  .kind <| .ite (fun _ => typeFromName_alike again enough) fun _ =>
    .report <| typeFromName_alike (again.later (.noted _ _ s)) enough

lemma typeRef_alike (enough : Enough m n s.pending.length) : Alike (typeRef m) (typeRef n) s :=
  alike_of_rounds (f := fun bound (_ : Unit) => typeRef bound) (g := fun bound _ => typeRef bound)
    (fun t => t.pending.length) (fun _ _ => .span fun _ => .pure _)
    (fun _ _ _ _ _ enough rest =>
      typeRound_alike (fun _ next => rest () _ next.toOnward next.fewer) enough)
    m n () s (.refl s) enough

end Types

/-! ## Operations -/

/-- One operator and its right operand. -/
def operatorRound (operand : Parser Expr) (level : Level) (again : Expr → Parser Expr) (left : Expr) :
    Parser Expr := do
  let some operator := level (← peek) | return left
  advance
  let operatorSpan ← span
  advance
  let right ← operand
  again (.binary operator operatorSpan left right none)

/-- One unary operator. -/
def unaryRound (term again : Parser Expr) : Parser Expr := do
  let some operator := unaryOperator? (← kind) | term
  let operatorSpan ← span
  advance
  return .unary operator operatorSpan (← again) none

section Operations

variable {p q : Parser Expr}

lemma operatorRound_alike {level : Level} {again again' : Expr → Parser Expr} {left : Expr}
    (sound : level.Sound) (operand : AlikeAhead s p q)
    (rest : ∀ left, AlikeAhead s (again left) (again' left)) :
    Alike (operatorRound p level again left) (operatorRound q level again' left) s := by
  refine .peek ?_
  cases e : level (s.cursor.peekKind .insensitive) with
  | none => exact .pure _
  | some operator =>
    have onto : Ahead s (s.moved .insensitive) :=
      .moved _ (length_pos_of_peek (Token.Kind.ne_endOfFile_of_isMark (sound _ _ e))) (.refl s)
    refine .advance <| .span fun _ => .advance ?_
    have behind := onto.onward (.moved .insensitive _)
    exact (operand _ behind).bind fun _ _ _ on => rest _ _ (behind.onward on)

lemma operationsFrom_alike {level : Level} (sound : level.Sound) (operand : AlikeFrom s p q) (left : Expr)
    (enough : Enough m n s.pending.length) :
    Alike (operationsFrom p level m left) (operationsFrom q level n left) s :=
  alike_of_rounds (f := operationsFrom p level) (g := operationsFrom q level)
    (fun t => t.pending.length) (fun _ _ => .pure _)
    (fun _ _ _ _ on _ rest => operatorRound_alike sound (operand.later on).ahead
      fun left _ next => rest left _ next.toOnward next.fewer)
    m n left s (.refl s) enough

lemma operations_alike (operand : AlikeFrom s p q) (enough : Enough m n s.pending.length) :
    ∀ {levels : List Level}, levels ⊆ Level.all →
      AlikeFrom s (operations p m levels) (operations q n levels)
  | [], _ => operand
  | level :: tighter, known => by
    have inner := operations_alike operand enough (List.subset_of_cons_subset known)
    have sound := Level.sound_of_mem_all level (known List.mem_cons_self)
    intro t on
    exact (inner t on).bind fun left u _ next => operationsFrom_alike sound
      (inner.later (on.trans next)) left (enough.mono (on.trans next).length_le)

lemma unaryRound_alike {again again' : Parser Expr} (term : Alike p q s) (rest : AlikeAhead s again again') :
    Alike (unaryRound p again) (unaryRound q again') s := by
  refine .kind ?_
  cases e : unaryOperator? s.token.kind with
  | none => exact term
  | some operator =>
    have pos : 0 < s.pending.length := length_pos_of_kind fun none => by
      rw [none] at e
      cases e
    exact .span fun _ => .advance <| (rest _ (.moved _ pos (.refl s))).bind fun _ _ _ _ => .pure _

lemma unaryOperations_alike (term : AlikeFrom s p q) (enough : Enough m n s.pending.length) :
    Alike (unaryOperations p m) (unaryOperations q n) s :=
  alike_of_rounds (f := fun bound (_ : Unit) => unaryOperations p bound)
    (g := fun bound _ => unaryOperations q bound)
    (fun t => t.pending.length) (fun _ _ => .span fun _ => .pure _)
    (fun _ _ _ _ on _ rest => unaryRound_alike (term _ on) fun _ next => rest () _ next.toOnward next.fewer)
    m n () s (.refl s) enough

end Operations

/-! ## Chains -/

/-- One argument of a call, up to its comma or the closing parenthesis. -/
def argumentRound (expression : Parser Expression) (again : Parser (List Expression)) :
    Parser (List Expression) := do
  let first ← expression
  match ← peek with
  | .rightParen =>
    advance
    return [first]
  | .comma =>
    advance
    advance
    return first :: (← again)
  | .endOfFile | .leftBrace | .rightBrace | .rightBracket =>
    reportAt .callWithoutClosing (← peekSpan)
    return [first]
  | _ =>
    reportAt .argumentsUnseparated (← peekSpan)
    advance
    return first :: (← again)

/-- One link of a chain, up to its dot. -/
def linkRound (link? : Parser (Option Link)) (again : Parser (Option (List Link))) :
    Parser (Option (List Link)) := do
  let some first ← link? | return none
  if (← peek) ≠ .dot then return some [first]
  advance
  advance
  return (← again).map (first :: ·)

section Chains

variable {p q : Parser Expression}

lemma argumentRound_alike {again again' : Parser (List Expression)} (expression : Alike p q s)
    (rest : AlikeAhead s again again') : Alike (argumentRound p again) (argumentRound q again') s := by
  refine expression.bind fun first t _ on => .peek ?_
  split
  · exact .advance <| .pure _
  · next comma =>
    have onto : Ahead t (t.moved .insensitive) :=
      .moved _ (length_pos_of_peek (by rw [comma]; decide)) (.refl t)
    have behind := on.ahead (onto.onward (.moved .insensitive _))
    exact .advance <| .advance <| (rest _ behind).bind fun _ _ _ _ => .pure _
  case h_3 | h_4 | h_5 | h_6 => exact .peekSpan fun _ => .reportAt <| .pure _
  · next more _ _ _ =>
    refine .peekSpan fun x => .reportAt <| .advance ?_
    have onto : Ahead t ((t.noted .argumentsUnseparated x).moved .insensitive) :=
      .moved _ (length_pos_of_peek more) (.noted _ _ t)
    exact (rest _ (on.ahead onto)).bind fun _ _ _ _ => .pure _

/-- The rest of a chain is read at least two tokens behind the start of a link. -/
lemma linkRound_alike {link link' : Parser (Option Link)} {again again' : Parser (Option (List Link))}
    (alike : Alike link link' s)
    (rest : ∀ t, Onward s t → t.pending.length + 2 ≤ s.pending.length → Alike again again' t) :
    Alike (linkRound link again) (linkRound link' again') s := by
  refine alike.bind fun first t _ on => ?_
  cases first with
  | none => exact .pure _
  | some first =>
    refine .peek <| .ite (fun _ => .pure _) fun dot => .advance <| .advance ?_
    have two := two_le_length_of_peek (s := t) (by rw [not_not.mp dot]; decide)
    have once := length_moved .insensitive t
    have twice := length_moved .insensitive (t.moved .insensitive)
    have whole := on.length_le
    exact (rest _ ((on.trans (.moved _ _)).trans (.moved _ _)) (by omega)).bind fun _ _ _ _ => .pure _

lemma argumentList_alike (expression : AlikeFrom s p q) (enough : Enough m n s.pending.length) :
    Alike (argumentList p m) (argumentList q n) s :=
  alike_of_rounds (f := fun bound (_ : Unit) => argumentList p bound)
    (g := fun bound _ => argumentList q bound)
    (fun t => t.pending.length) (fun _ _ => .pure _)
    (fun _ _ _ _ on _ rest =>
      argumentRound_alike (expression _ on) fun _ next => rest () _ next.toOnward next.fewer)
    m n () s (.refl s) enough

lemma callArguments_alike (expression : AlikeFrom s p q) (enough : Enough m n s.pending.length) :
    Alike (callArguments p m) (callArguments q n) s := by
  refine .peek <| .ite (fun _ => .advance <| .span fun _ => .pure _) fun _ => .advance ?_
  have onto : Onward s (s.moved .insensitive) := .moved _ s
  exact (argumentList_alike (expression.later onto) (enough.mono onto.length_le)).bind
    fun _ _ _ _ => .span fun _ => .pure _

lemma indexLink_alike (pos : 0 < s.pending.length) (expression : AlikeAhead s p q) :
    Alike (indexLink p) (indexLink q) s := by
  refine .span fun _ => .advance <| .peek <| .ite (fun _ => ?_) fun _ => .advance ?_
  · exact .advance <| .report <| .span fun _ => .pure _
  · have onto : Ahead s (s.moved .insensitive) := .moved _ pos (.refl s)
    exact (expression _ (onto.onward (.moved _ _))).bind fun _ _ _ _ =>
      .closeWith fun _ _ _ => .pure _

lemma callLink_alike (pos : 0 < s.pending.length) (expression : AlikeAhead s p q)
    (enough : Enough (m + 1) (n + 1) s.pending.length) :
    Alike (callLink p m) (callLink q n) s := by
  have onto : Ahead s (s.moved .insensitive) := .moved _ pos (.refl s)
  have arguments : ∀ {t} (identifier : Identifier) (types : Option (List TypeRef)),
      Onward (s.moved .insensitive) t → Alike
        (callArguments p m >>= fun read => pure (Link.call identifier types read.1 read.2))
        (callArguments q n >>= fun read => pure (Link.call identifier types read.1 read.2))
        t := by
    intro t identifier types on
    have ahead := onto.onward on
    exact (callArguments_alike (expression.from ahead) (enough.pred ahead.fewer)).bind
      fun _ _ _ _ => .pure _
  refine .span fun _ => .advance <| .standsOn <| .ite (fun less => ?_) fun _ => ?_
  · have more : 0 < (s.moved .insensitive).pending.length :=
      length_pos_of_kind (by rw [of_decide_eq_true less]; decide)
    refine (typeArgumentsOf_alike more ?_ (enough.mono onto.length_le)).bind fun _ t _ on => .advance ?_
    · exact fun t next => typeRef_alike (enough.pred (onto.onward next.toOnward).fewer)
    · refine (Alike.pure _).bind fun _ _ run next => .expect fun _ same _ => arguments _ _ ?_
      exact ((on.trans (.moved _ t)).trans next).trans same
  · exact (Alike.pure _).bind fun _ _ _ next => .expect fun _ same _ => arguments _ _ (next.trans same)

lemma link?_alike (expression : AlikeAhead s p q) (enough : Enough (m + 1) (n + 1) s.pending.length) :
    Alike (link? p m) (link? q n) s := by
  have pos : isLinkName s.token.kind = true → 0 < s.pending.length := fun name =>
    length_pos_of_kind fun none => by
      rw [none] at name
      cases name
  refine .kind <| .peek <| .ite (fun index => ?_) fun _ => ?_
  · obtain ⟨name, -⟩ := Bool.and_eq_true_iff.mp index
    exact (indexLink_alike (pos name) expression).bind fun _ _ _ _ => .pure _
  refine .genericCallAhead fun _ => .ite (fun call => ?_) fun _ => .ite (fun _ => ?_) fun _ => ?_
  · obtain ⟨name, -⟩ := Bool.and_eq_true_iff.mp call
    exact (callLink_alike (pos name) expression enough).bind fun _ _ _ _ => .pure _
  · exact .span fun _ => .pure _
  · exact .report <| .pure _

/-- Links can use up one more token than is left of the bound, since a dot stands between two links. -/
lemma links?_alike {link link' : Parser (Option Link)} (alike : AlikeFrom s link link')
    (enough : Enough m n (s.pending.length - 1)) :
    Alike (links? link m) (links? link' n) s :=
  alike_of_rounds (f := fun bound (_ : Unit) => links? link bound)
    (g := fun bound _ => links? link' bound)
    (fun t => t.pending.length - 1) (fun _ _ => .pure _)
    (fun _ _ _ _ on _ rest => linkRound_alike (alike _ on) fun _ next two =>
      rest () _ next (by omega))
    m n () s (.refl s) enough

lemma chain?_alike (expression : AlikeAhead s p q) (enough : Enough m n (s.pending.length - 1)) :
    Alike (chain? p m) (chain? q n) s := by
  refine .span fun _ => (links?_alike (fun t on => ?_) enough).bind fun _ _ _ _ => .pure _
  exact link?_alike (expression.later on) (enough.succ.mono on.length_le)

end Chains

/-! ## Terms -/

/-- One expression; `again` reads the expressions inside. -/
def expressionRound (bound : Nat) (again : Parser Expression) : Parser Expression := do
  let operand := unaryOperations (term again bound) (bound + 1)
  return .untyped (← operations operand (bound + 1) Level.all)

section Terms

variable {p q : Parser Expression}

lemma newTerm_alike (pos : 0 < s.pending.length) (expression : AlikeAhead s p q)
    (enough : Enough (m + 1) (n + 1) s.pending.length) :
    Alike (newTerm p m) (newTerm q n) s := by
  have onto : Ahead s (s.moved .insensitive) := .moved _ pos (.refl s)
  refine .span fun _ => .advance <| .standsOn <| .ite (fun _ => .advance ?_) fun _ => ?_
  · refine (expression _ (onto.onward (.moved _ _))).bind fun _ _ _ _ => ?_
    exact .closeWith fun _ _ _ => .pure _
  · have fewer : Enough m n (s.moved .insensitive).pending.length := enough.pred onto.fewer
    refine (chain?_alike (expression.from onto).ahead (fewer.mono (Nat.sub_le _ _))).bind
      fun path t _ _ => ?_
    cases path with
    | none => exact .report <| .pure _
    | some path => exact .ite (fun _ => .pure _) fun _ => .report <| .pure _

lemma term_alike (expression : AlikeAhead s p q) (enough : Enough (m + 1) (n + 1) s.pending.length) :
    Alike (term p m) (term q n) s := by
  refine .span fun _ => .kind ?_
  split
  · exact .pure _
  have pos : s.token.kind ≠ .endOfFile → 0 < s.pending.length := length_pos_of_kind
  split
  · exact .pure _
  · next opens =>
    have onto : Ahead s (s.moved .insensitive) := .moved _ (pos (by rw [opens]; decide)) (.refl s)
    refine .advance <| (expression _ onto).bind fun _ _ _ _ => ?_
    exact .closeWith fun _ _ _ => .pure _
  · next keyword => exact newTerm_alike (pos (by rw [keyword]; decide)) expression enough
  · next name =>
    exact (chain?_alike expression (enough.inside (pos (by rw [name]; decide)))).bind
      fun _ _ _ _ => .pure _
  · next name =>
    exact (chain?_alike expression (enough.inside (pos (by rw [name]; decide)))).bind
      fun _ _ _ _ => .pure _
  · exact .report <| .pure _

lemma expressionRound_alike (again : AlikeAhead s p q)
    (enough : Enough (m + 1) (n + 1) s.pending.length) :
    Alike (expressionRound m p) (expressionRound n q) s := by
  refine (operations_alike (fun t on => ?_) enough (List.Subset.refl _) s (.refl s)).bind
    fun _ _ _ _ => .pure _
  have fewer := enough.mono on.length_le
  exact unaryOperations_alike
    (fun u next => term_alike (again.later (on.trans next)) (fewer.mono next.length_le)) fewer

lemma expression_alike (enough : Enough m n s.pending.length) :
    Alike (expression m) (expression n) s :=
  alike_of_rounds (f := fun bound (_ : Unit) => expression bound)
    (g := fun bound _ => expression bound)
    (fun t => t.pending.length) (fun _ _ => .span fun _ => .pure _)
    (fun _ _ _ _ _ enough rest =>
      expressionRound_alike (fun _ next => rest () _ next.toOnward next.fewer) enough)
    m n () s (.refl s) enough

end Terms

end ArrowScript.Grammar
