import ArrowScript.Proofs.Grammar.Rounds

/-!
# Rounds of statements and definitions

The routines that parse statements, taken apart in the same way. Statements are entered again behind an
opening brace, the other branch of a condition behind `else`, and the loops over statements, fields and
methods behind what they have just read.
-/

namespace ArrowScript.Grammar

variable {s t : State} {m n bound : Nat}

/-! ## Blocks -/

/-- One statement of a block. -/
def statementsRound (statement? : Parser (Option Statement)) (block : BlockKind)
    (again : Parser (List Statement)) : Parser (List Statement) := do
  if endsBlock block (← kind) then return []
  match ← statement? with
  | some first =>
    finishStatement
    return first :: (← again)
  | none =>
    if ← tryAdvance then again
    else return []

/-- A statement is finished behind the last token of it. -/
lemma onward_finishStatement (s : State) : Onward (s.moved .toLineEnds) (finishStatement s).2 := by
  have rest : ∀ u, Alike leaveLine leaveLine u := by
    intro u
    unfold leaveLine
    refine .kind ?_
    split
    · exact .self (.moved _ u)
    · exact .pure _
    · exact .pure _
    · exact .self (.noted _ _ u)
  exact (rest (s.moved .toLineEnds)).onward

section Blocks

variable {p q : Parser (Option Statement)}

lemma statementsRound_alike {kind : BlockKind} {again again' : Parser (List Statement)}
    (statement : Alike p q s) (rest : AlikeAhead s again again') :
    Alike (statementsRound p kind again) (statementsRound q kind again') s := by
  refine .kind <| .ite (fun _ => .pure _) fun goes => ?_
  have pos : 0 < s.pending.length := length_pos_of_kind fun none => goes (by simp [endsBlock, none])
  refine statement.bind fun first t _ on => ?_
  cases first with
  | none => exact .tryAdvance <| .ite (fun _ => rest _ (.moved _ pos on)) fun _ => .pure _
  | some first =>
    have finished := onward_finishStatement t
    refine (Alike.self ((Onward.moved _ t).trans finished)).bind fun _ u run _ => ?_
    have behind : Ahead s u := (Ahead.moved _ pos on).onward
      (by rw [← show (finishStatement t).2 = u from congrArg Prod.snd run]; exact finished)
    exact (rest _ behind).bind fun _ _ _ _ => .pure _

lemma statements_alike {kind : BlockKind} (statement : AlikeFrom s p q)
    (enough : Enough m n s.pending.length) :
    Alike (statements p kind m) (statements q kind n) s :=
  alike_of_rounds (f := fun bound (_ : Unit) => statements p kind bound)
    (g := fun bound _ => statements q kind bound)
    (fun t => t.pending.length) (fun _ _ => .pure _)
    (fun _ _ _ _ on _ rest =>
      statementsRound_alike (statement _ on) fun _ next => rest () _ next.toOnward next.fewer)
    m n () s (.refl s) enough

lemma block_alike {unopened : SyntaxProblem} (statement : AlikeFrom s p q)
    (enough : Enough m n s.pending.length) :
    Alike (block p m unopened) (block q n unopened) s := by
  refine .freshId fun id => .span fun _ => .expect fun t on _ => .advance ?_
  have behind : Onward s (t.moved .insensitive) := (Onward.numbered s).trans (on.trans (.moved _ t))
  refine (statements_alike (statement.later behind) (enough.mono behind.length_le)).bind
    fun _ _ _ _ => ?_
  exact .expect fun _ _ _ => .pure _

end Blocks

/-! ## Definitions -/

lemma typeParameter_alike : Alike typeParameter typeParameter s :=
  .expect fun t _ _ => .self (.refl t)

lemma parameter_alike (enough : Enough m n s.pending.length) :
    Alike (parameter m) (parameter n) s := by
  refine .expect fun t on _ => .span fun _ => .advance <| .expect fun u next _ => .advance ?_
  have behind : Onward s (u.moved .insensitive) :=
    ((on.trans (.moved _ t)).trans next).trans (.moved _ u)
  exact (typeRef_alike (enough.mono behind.length_le)).bind fun _ _ _ _ => .freshId fun _ => .pure _

lemma parameters_alike (enough : Enough m n s.pending.length) :
    Alike (parameters m) (parameters n) s :=
  .standsOn <| .ite (fun _ => .pure _) fun _ =>
    commaList_alike (fun _ on => parameter_alike (enough.mono on.length_le)) enough

lemma optionalTypeParameters_alike (enough : Enough m n s.pending.length) :
    Alike (optionalTypeParameters m) (optionalTypeParameters n) s := by
  refine .standsOn <| .ite (fun less => ?_) fun _ => .pure _
  have pos : 0 < s.pending.length :=
    length_pos_of_kind (by rw [of_decide_eq_true less]; decide)
  refine (inAngles_alike pos (fun _ _ => typeParameter_alike) ?_).bind fun _ _ _ _ => .advance <| .pure _
  exact (enough.mono (Nat.sub_le _ _)).succ

lemma optionalReturn_alike (enough : Enough m n s.pending.length) :
    Alike (optionalReturn m) (optionalReturn n) s := by
  refine .standsOn <| .ite (fun _ => .advance ?_) fun _ => .pure _
  have behind : Onward s (s.moved .insensitive) := .moved _ s
  exact (typeRef_alike (enough.mono behind.length_le)).bind fun _ _ _ _ => .advance <| .pure _

lemma functionDef_alike {p q : SyntaxProblem → Parser Block} (pos : 0 < s.pending.length)
    (block : ∀ problem, AlikeAhead s (p problem) (q problem))
    (enough : Enough (m + 1) (n + 1) s.pending.length) :
    Alike (functionDef p m) (functionDef q n) s := by
  refine .span fun _ => .freshId fun id => .advance <| .expect fun t on _ => .span fun _ => .advance ?_
  have named : Ahead s (t.moved .insensitive) :=
    ((Ahead.moved _ pos (.numbered s)).onward on).onward (.moved _ t)
  refine (optionalTypeParameters_alike (enough.pred named.fewer)).bind fun _ u _ next => ?_
  refine .expect fun v opens _ => .advance ?_
  have opened : Ahead s (v.moved .insensitive) :=
    ((named.onward next).onward opens).onward (.moved _ v)
  refine (parameters_alike (enough.pred opened.fewer)).bind fun _ w _ next => .advance ?_
  have closed := (opened.onward next).onward (.moved .insensitive w)
  refine (optionalReturn_alike (enough.pred closed.fewer)).bind fun _ _ _ next => ?_
  exact (block _ _ (closed.onward next)).bind fun _ _ _ _ => .pure _

lemma declaration_alike {name : Span} (enough : Enough m n s.pending.length) :
    Alike (declaration name m) (declaration name n) s := by
  have initial : ∀ (id : NodeId) (written : Option TypeRef) t, Onward s t → Alike
      (do
        if (← peekWith .toLineEnds) = .arrow then
          advance
          advance
          return ({ id, name, written, initial := some (← expression m), type := none } : Declaration)
        if written.isNone then report .untypedWithoutValue
        return { id, name, written, initial := none, type := none })
      (do
        if (← peekWith .toLineEnds) = .arrow then
          advance
          advance
          return ({ id, name, written, initial := some (← expression n), type := none } : Declaration)
        if written.isNone then report .untypedWithoutValue
        return { id, name, written, initial := none, type := none }) t := by
    intro id written t on
    refine .peekWith <| .ite (fun _ => .advance <| .advance ?_) fun _ =>
      .ite (fun _ => .report <| .pure _) fun _ => .pure _
    have behind := (on.trans (.moved .insensitive t)).trans (.moved .insensitive _)
    exact (expression_alike (enough.mono behind.length_le)).bind fun _ _ _ _ => .pure _
  refine .freshId fun id => .peekWith <| .ite (fun _ => .advance ?_) fun _ => ?_
  · have onto : Onward s (s.numbered.moved .insensitive) := (Onward.numbered s).trans (.moved _ _)
    refine (typeRef_alike (enough.mono onto.length_le)).bind fun _ t _ on => ?_
    exact (Alike.pure _).bind fun written u _ next => initial id written u ((onto.trans on).trans next)
  · exact (Alike.pure _).bind fun written u _ next => initial id written u ((Onward.numbered s).trans next)

lemma namedStatement?_alike (pos : 0 < s.pending.length) (enough : Enough (m + 1) (n + 1) s.pending.length) :
    Alike (namedStatement? m) (namedStatement? n) s := by
  have expressions : AlikeAhead s (expression m) (expression n) := fun _ next =>
    expression_alike (enough.pred next.fewer)
  refine (chain?_alike expressions (enough.inside pos)).bind fun target t _ on => ?_
  cases target with
  | none => exact .pure _
  | some target =>
    refine .peek ?_
    have behind : Ahead s (t.moved .insensitive) := .moved _ pos on
    split
    · refine .advance <| .ite (fun _ => ?_) fun _ => .report <| .pure _
      exact (declaration_alike (enough.pred behind.fewer)).bind fun _ _ _ _ => .pure _
    · refine .advance <| .span fun _ => .advance ?_
      exact (expressions _ (behind.onward (.moved _ _))).bind fun _ _ _ _ => .pure _
    · exact .ite (fun _ => .pure _) fun _ => .report <| .pure _

/-- One field or method. -/
def membersRound (functionDef : Parser FunctionDef) (named? : Parser (Option Statement))
    (again : Parser (List Declaration × List FunctionDef)) :
    Parser (List Declaration × List FunctionDef) := do
  match ← kind with
  | .endOfFile | .rightBrace => return ([], [])
  | .identifier =>
    let statement ← named?
    if let some (.variable field) := statement then
      advance
      let (fields, methods) ← again
      return (field :: fields, methods)
    if statement.isSome then report .memberNotVariable
    advance
    again
  | .kwFunction =>
    let method ← functionDef
    advance
    let (fields, methods) ← again
    return (fields, method :: methods)
  | _ =>
    report .memberNotDefinition
    advance
    again

lemma membersRound_alike {function function' : Parser FunctionDef}
    {named named' : Parser (Option Statement)}
    {again again' : Parser (List Declaration × List FunctionDef)}
    (functions : 0 < s.pending.length → Alike function function' s)
    (statement : 0 < s.pending.length → Alike named named' s) (rest : AlikeAhead s again again') :
    Alike (membersRound function named again) (membersRound function' named' again') s := by
  have pos : s.token.kind ≠ .endOfFile → 0 < s.pending.length := length_pos_of_kind
  refine .kind ?_
  split
  · exact .pure _
  · exact .pure _
  · next name =>
    have pos := pos (by rw [name]; decide)
    refine (statement pos).bind fun first t _ on => ?_
    -- Any member takes at least one token, so the bound for the others may be smaller.
    have behind : ∀ u, Onward t u → AlikeFrom (u.moved .insensitive) again again' := fun u next =>
      rest.from (.moved _ pos (on.trans next))
    split
    · refine .advance <| (behind t (.refl t)).here.bind fun _ _ _ _ => .pure _
    · refine .ite (fun _ => .report <| .advance ?_) fun _ => .advance ?_
      · exact (behind _ (.noted _ _ t)).here
      · exact (behind t (.refl t)).here
  · next keyword =>
    have pos := pos (by rw [keyword]; decide)
    refine (functions pos).bind fun method t _ on => .advance ?_
    exact (rest _ (.moved _ pos on)).bind fun _ _ _ _ => .pure _
  · next file _ _ _ =>
    exact .report <| .advance <| rest _ (.moved _ (pos file) (.noted _ _ s))

lemma members_alike {function function' : Parser FunctionDef} {named named' : Parser (Option Statement)}
    (functions : ∀ t, Onward s t → 0 < t.pending.length → Alike function function' t)
    (statement : ∀ t, Onward s t → 0 < t.pending.length → Alike named named' t)
    (enough : Enough m n s.pending.length) :
    Alike (members function named m) (members function' named' n) s :=
  alike_of_rounds (f := fun bound (_ : Unit) => members function named bound)
    (g := fun bound _ => members function' named' bound)
    (fun t => t.pending.length) (fun _ _ => .pure _)
    (fun _ _ _ t on _ rest => membersRound_alike (functions t on) (statement t on)
      fun _ next => rest () _ next.toOnward next.fewer)
    m n () s (.refl s) enough

lemma typeDef_alike {function function' : Parser FunctionDef} (pos : 0 < s.pending.length)
    (functions : ∀ t, Ahead s t → 0 < t.pending.length → Alike function function' t)
    (enough : Enough (m + 1) (n + 1) s.pending.length) :
    Alike (typeDef function m) (typeDef function' n) s := by
  refine .span fun _ => .freshId fun id => .advance <| .expect fun t on _ => .span fun _ => .advance ?_
  have named : Ahead s (t.moved .insensitive) :=
    ((Ahead.moved _ pos (.numbered s)).onward on).onward (.moved _ t)
  refine (optionalTypeParameters_alike (enough.pred named.fewer)).bind fun _ u _ next => ?_
  refine .expect fun v opens _ => .advance ?_
  have opened : Ahead s (v.moved .insensitive) :=
    ((named.onward next).onward opens).onward (.moved _ v)
  refine (members_alike (fun w next more => functions w (opened.onward next) more)
    (fun w next more => ?_) (enough.pred opened.fewer)).bind fun _ _ _ _ => .expect fun _ _ _ => .pure _
  exact namedStatement?_alike more (enough.mono (opened.onward next).length_le)

/-! ## Control -/

lemma returning_alike (pos : 0 < s.pending.length) (enough : Enough (m + 1) (n + 1) s.pending.length) :
    Alike (returning m) (returning n) s := by
  refine .span fun _ => .peekWith <| .ite (fun _ => .pure _) fun _ => .advance ?_
  have onto : Ahead s (s.moved .insensitive) := .moved _ pos (.refl s)
  exact (expression_alike (enough.pred onto.fewer)).bind fun _ _ _ _ => .pure _

section Control

variable {p q : SyntaxProblem → Parser Block}

lemma whileLoop_alike (pos : 0 < s.pending.length) (block : ∀ problem, AlikeAhead s (p problem) (q problem))
    (enough : Enough (m + 1) (n + 1) s.pending.length) :
    Alike (whileLoop p m) (whileLoop q n) s := by
  have onto : Ahead s (s.moved .insensitive) := .moved _ pos (.refl s)
  refine .span fun _ => .advance <| (expression_alike (enough.pred onto.fewer)).bind fun _ t _ on => ?_
  exact .advance <| (block _ _ ((onto.onward on).onward (.moved _ t))).bind fun _ _ _ _ => .pure _

lemma conditional_alike {otherwise otherwise' : Parser Otherwise} (pos : 0 < s.pending.length)
    (block : ∀ problem, AlikeAhead s (p problem) (q problem))
    (other : AlikeAhead s otherwise otherwise') (enough : Enough (m + 1) (n + 1) s.pending.length) :
    Alike (conditional p m otherwise) (conditional q n otherwise') s := by
  have onto : Ahead s (s.moved .insensitive) := .moved _ pos (.refl s)
  refine .span fun _ => .advance <| (expression_alike (enough.pred onto.fewer)).bind fun _ t _ on => ?_
  have behind := (onto.onward on).onward (.moved .insensitive t)
  refine .advance <| (block _ _ behind).bind fun _ _ _ next => ?_
  exact (other _ (behind.onward next)).bind fun _ _ _ _ => .pure _

/-- One `else` and the condition or block behind it. -/
def otherwiseRound (block : SyntaxProblem → Parser Block) (bound : Nat) (again : Parser Otherwise) :
    Parser Otherwise := do
  if (← peek) ≠ .kwElse then return .nothing
  advance
  advance
  match ← kind with
  | .kwIf => return .conditional (← conditional block bound again)
  | .leftBrace => return .block (← block .invalidElse)
  | _ =>
    report .invalidElse
    return .nothing

lemma otherwiseRound_alike {again again' : Parser Otherwise}
    (block : ∀ problem, AlikeAhead s (p problem) (q problem)) (rest : AlikeAhead s again again')
    (enough : Enough (m + 1) (n + 1) s.pending.length) :
    Alike (otherwiseRound p m again) (otherwiseRound q n again') s := by
  refine .peek <| .ite (fun _ => .pure _) fun keyword => .advance <| .advance <| .kind ?_
  have pos : 0 < s.pending.length := length_pos_of_peek (by rw [not_not.mp keyword]; decide)
  have onto : Ahead s ((s.moved .insensitive).moved .insensitive) :=
    (Ahead.moved _ pos (.refl s)).onward (.moved _ _)
  split
  · next condition =>
    have more : 0 < ((s.moved .insensitive).moved .insensitive).pending.length :=
      length_pos_of_kind (by rw [condition]; decide)
    exact (conditional_alike more (fun problem => ((block problem).from onto).ahead) (rest.from onto).ahead
      (enough.mono onto.length_le)).bind fun _ _ _ _ => .pure _
  · exact (block _ _ onto).bind fun _ _ _ _ => .pure _
  · exact .report <| .pure _

lemma otherwise_alike {bound bound' : Nat} (block : ∀ problem, AlikeFrom s (p problem) (q problem))
    (within : Enough bound bound' s.pending.length) (enough : Enough m n s.pending.length) :
    Alike (otherwise p bound m) (otherwise q bound' n) s :=
  alike_of_rounds (f := fun rounds (_ : Unit) => otherwise p bound rounds)
    (g := fun rounds _ => otherwise q bound' rounds)
    (fun t => t.pending.length) (fun _ _ => .pure _)
    (fun _ _ _ _ on _ rest => otherwiseRound_alike (fun problem => ((block problem).later on).ahead)
      (fun _ next => rest () _ next.toOnward next.fewer)
      (within.mono (Nat.le_trans (Nat.sub_le _ _) on.length_le)).succ)
    m n () s (.refl s) enough

end Control

lemma chainBehind?_alike {absent invalid : SyntaxProblem} (pos : 0 < s.pending.length)
    (enough : Enough (m + 1) (n + 1) s.pending.length) :
    Alike (chainBehind? absent invalid m) (chainBehind? absent invalid n) s := by
  refine .peekWith <| .ite (fun _ => .report <| .pure _) fun _ => .advance ?_
  have onto : Ahead s (s.moved .insensitive) := .moved _ pos (.refl s)
  have fewer := enough.pred onto.fewer
  have expressions : AlikeAhead (s.moved .insensitive) (expression m) (expression n) := fun _ next =>
    expression_alike (fewer.mono next.length_le)
  refine (chain?_alike expressions (fewer.mono (Nat.sub_le _ _))).bind fun target _ _ _ => ?_
  cases target with
  | none => exact .report <| .pure _
  | some target => exact .ite (fun _ => .pure _) fun _ => .report <| .pure _

/-! ## Statements -/

/-- One statement; `again` reads the statements of its blocks. -/
def statementRound (bound : Nat) (again : Parser (Option Statement)) : Parser (Option Statement) := do
  let block := block again bound
  match ← kind with
  | .kwType => return some (.type (← typeDef (functionDef block bound) bound))
  | .kwFunction => return some (.function (← functionDef block bound))
  | .kwReturn => return some (← returning bound)
  | .kwBreak => return some (.breaking (← span))
  | .kwContinue => return some (.continuing (← span))
  | .kwWhile => return some (← whileLoop block bound)
  | .kwIf => return some (.conditional (← conditional block bound (otherwise block bound bound)))
  | .kwImport => importing? bound
  | .kwPath => path? bound
  | .identifier => namedStatement? bound
  | .builtinType =>
    report .misplacedType
    return none
  | _ =>
    report .invalidStatement
    return none

lemma statementRound_alike {p q : Parser (Option Statement)} (again : AlikeAhead s p q)
    (enough : Enough (m + 1) (n + 1) s.pending.length) :
    Alike (statementRound m p) (statementRound n q) s := by
  -- Every block is behind a keyword, so both bounds may be one smaller there.
  have blocks : ∀ problem, AlikeAhead s (block p m problem) (block q n problem) := fun _ _ next =>
    block_alike (again.from next) (enough.pred next.fewer)
  have pos : s.token.kind ≠ .endOfFile → 0 < s.pending.length := length_pos_of_kind
  refine .kind ?_
  split
  · next keyword =>
    refine (typeDef_alike (pos (by rw [keyword]; decide)) (fun t next more => ?_) enough).bind
      fun _ _ _ _ => .pure _
    exact functionDef_alike more (fun problem => ((blocks problem).from next).ahead)
      (enough.mono next.length_le)
  · next keyword =>
    exact (functionDef_alike (pos (by rw [keyword]; decide)) blocks enough).bind fun _ _ _ _ => .pure _
  · next keyword =>
    exact (returning_alike (pos (by rw [keyword]; decide)) enough).bind fun _ _ _ _ => .pure _
  · exact .span fun _ => .pure _
  · exact .span fun _ => .pure _
  · next keyword =>
    exact (whileLoop_alike (pos (by rw [keyword]; decide)) blocks enough).bind fun _ _ _ _ => .pure _
  · next keyword =>
    refine (conditional_alike (pos (by rw [keyword]; decide)) blocks (fun t next => ?_) enough).bind
      fun _ _ _ _ => .pure _
    exact otherwise_alike (fun problem => (blocks problem).from next) (enough.pred next.fewer)
      (enough.pred next.fewer)
  · next keyword =>
    exact .span fun _ => (chainBehind?_alike (pos (by rw [keyword]; decide)) enough).bind
      fun _ _ _ _ => .pure _
  · next keyword =>
    exact .span fun _ => (chainBehind?_alike (pos (by rw [keyword]; decide)) enough).bind
      fun _ _ _ _ => .pure _
  · next name => exact namedStatement?_alike (pos (by rw [name]; decide)) enough
  · exact .report <| .pure _
  · exact .report <| .pure _

lemma statement?_alike (enough : Enough m n s.pending.length) :
    Alike (statement? m) (statement? n) s :=
  alike_of_rounds (f := fun bound (_ : Unit) => statement? bound)
    (g := fun bound _ => statement? bound)
    (fun t => t.pending.length) (fun _ _ => .pure _)
    (fun _ _ _ _ _ enough rest =>
      statementRound_alike (fun _ next => rest () _ next.toOnward next.fewer) enough)
    m n () s (.refl s) enough

lemma program_alike (enough : Enough m n s.pending.length) : Alike (program m) (program n) s := by
  refine .freshId fun _ => .span fun _ => ?_
  have statements : Alike (statements (statement? m) .program m) (statements (statement? n) .program n)
      s.numbered :=
    statements_alike (fun _ on => statement?_alike (enough.mono on.length_le)) enough
  exact statements.bind fun _ _ _ _ => .pure _

end ArrowScript.Grammar
