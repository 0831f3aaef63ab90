import ArrowScript.Proofs.Grammar.StatementRounds

/-!
# Termination

Parsing ends on every list of tokens. All that calls itself is grounded: it enters itself again only where
fewer tokens are left, so that the bound is never used up and a larger one changes nothing. Whatever state is
reached stands on a token of the list that an end of file closes, and never in front of an earlier one.
-/

namespace ArrowScript.Grammar

variable {s t : State} {α ι : Type}

/-- A routine is one round after another. A round leads onward, and what it does depends on the routine only
where fewer tokens are left; with more of a bound than there are tokens, the routine itself does not depend
on the bound. -/
structure Grounded (routine : Nat → ι → Parser α) (round : Nat → (ι → Parser α) → ι → Parser α) : Prop where
  rounds : ∀ bound i, routine (bound + 1) i = round bound (routine bound) i
  advances : ∀ bound (again again' : ι → Parser α) i s, (∀ j, AlikeAhead s (again j) (again' j)) →
    Alike (round bound again i) (round bound again' i) s
  onward : ∀ bound i s, Onward s (routine bound i s).2
  settled : ∀ bound more i s, s.pending.length < bound → s.pending.length < more →
    routine bound i s = routine more i s

/-- A routine without an index. -/
abbrev GroundedAlone (routine : Nat → Parser α) (round : Nat → Parser α → Parser α) : Prop :=
  Grounded (fun bound (_ : Unit) => routine bound) fun bound again _ => round bound (again ())

lemma Grounded.of_alike {routine : Nat → ι → Parser α} {round : Nat → (ι → Parser α) → ι → Parser α}
    (rounds : ∀ bound i, routine (bound + 1) i = round bound (routine bound) i)
    (advances : ∀ bound (again again' : ι → Parser α) i s, (∀ j, AlikeAhead s (again j) (again' j)) →
      Alike (round bound again i) (round bound again' i) s)
    (alike : ∀ m n i s, Enough m n s.pending.length → Alike (routine m i) (routine n i) s) :
    Grounded routine round where
  rounds := rounds
  advances := advances
  onward bound i s := (alike bound bound i s (.inl rfl)).onward
  settled bound more i s enough enough' := (alike bound more i s (.inr ⟨enough, enough'⟩)).same

/-! ## Loops and recursions -/

/-- The operands between binary operators. -/
abbrev operand (inner : Nat) : Parser Expr :=
  unaryOperations (term (expression inner) inner) (inner + 1)

/-- All that calls itself is grounded: the loops over lists, links, operators and statements, and the routines
that are reached again from themselves. -/
structure GroundedGrammar : Prop where
  parameters : ∀ inner, GroundedAlone
    (commaList (parameter inner) .rightParen .parametersUnseparated .functionWithoutClosing)
    fun _ => commaRound (parameter inner) .rightParen .parametersUnseparated .functionWithoutClosing
  typeParameters : GroundedAlone
    (commaList typeParameter .greater .commaExpected .typeParametersUnclosed)
    fun _ => commaRound typeParameter .greater .commaExpected .typeParametersUnclosed
  typeArguments : ∀ inner, GroundedAlone
    (commaList (typeArgument (typeRef inner)) .greater .commaExpected .typeArgumentsUnclosed)
    fun _ => commaRound (typeArgument (typeRef inner)) .greater .commaExpected .typeArgumentsUnclosed
  arguments : ∀ inner, GroundedAlone (argumentList (expression inner))
    fun _ => argumentRound (expression inner)
  links : ∀ inner, GroundedAlone (links? (link? (expression inner) inner))
    fun _ => linkRound (link? (expression inner) inner)
  operators : ∀ inner level tighter, level :: tighter <:+ Level.all →
    Grounded (operationsFrom (operations (operand inner) (inner + 1) tighter) level)
      fun _ => operatorRound (operations (operand inner) (inner + 1) tighter) level
  members : ∀ inner, GroundedAlone
    (members (functionDef (block (statement? inner) inner) inner) (namedStatement? inner))
    fun _ => membersRound (functionDef (block (statement? inner) inner) inner) (namedStatement? inner)
  statements : ∀ inner kind, GroundedAlone (statements (statement? inner) kind)
    fun _ => statementsRound (statement? inner) kind
  types : GroundedAlone typeRef typeRound
  unaries : ∀ inner, GroundedAlone (unaryOperations (term (expression inner) inner))
    fun _ => unaryRound (term (expression inner) inner)
  expressions : GroundedAlone expression expressionRound
  otherwises : ∀ inner, GroundedAlone (otherwise (block (statement? inner) inner) inner)
    fun _ => otherwiseRound (block (statement? inner) inner) inner
  statement : GroundedAlone statement? statementRound

/-- The loop over a list in commas is grounded whatever its elements are, as long as they lead onward. -/
lemma grounded_commaList {element : Parser α} {closing : Token.Kind} {unseparated unclosed : SyntaxProblem}
    (alike : ∀ s, Alike element element s) :
    GroundedAlone (commaList element closing unseparated unclosed)
      fun _ => commaRound element closing unseparated unclosed :=
  .of_alike (fun _ _ => rfl) (fun _ _ _ _ s rest => commaRound_alike (alike s) (rest ()))
    fun _ _ _ _ enough => commaList_alike (fun t _ => alike t) enough

/-- A bound cannot be told apart from itself. -/
lemma Enough.same {bound tokens : Nat} : Enough bound bound tokens :=
  .inl rfl

lemma expression_alike_self (inner : Nat) (s : State) : AlikeFrom s (expression inner) (expression inner) :=
  fun _ _ => expression_alike .same

lemma statement?_alike_self (inner : Nat) (s : State) :
    AlikeFrom s (statement? inner) (statement? inner) :=
  fun _ _ => statement?_alike .same

lemma block_alike_self (inner : Nat) (s : State) (problem : SyntaxProblem) :
    AlikeFrom s (block (statement? inner) inner problem) (block (statement? inner) inner problem) :=
  fun _ _ => block_alike (statement?_alike_self inner _) .same

lemma operand_alike_self (inner : Nat) (s : State) : AlikeFrom s (operand inner) (operand inner) :=
  fun _ _ => unaryOperations_alike
    (fun _ _ => term_alike (expression_alike_self inner _).ahead .same) .same

lemma grounded_operators (inner : Nat) {level : Level} {tighter : List Level}
    (known : level :: tighter <:+ Level.all) :
    Grounded (operationsFrom (operations (operand inner) (inner + 1) tighter) level)
      fun _ => operatorRound (operations (operand inner) (inner + 1) tighter) level := by
  have sound := Level.sound_of_mem_all level (known.subset List.mem_cons_self)
  have tight : tighter ⊆ Level.all := List.subset_of_cons_subset known.subset
  have operands : ∀ s, AlikeFrom s (operations (operand inner) (inner + 1) tighter)
      (operations (operand inner) (inner + 1) tighter) := fun s =>
    operations_alike (operand_alike_self inner s) .same tight
  refine .of_alike (fun _ _ => rfl) (fun _ _ _ left s rest => ?_) fun m n left s enough => ?_
  · exact operatorRound_alike sound (operands s).ahead rest
  · exact operationsFrom_alike sound (operands s) left enough

lemma grounded_members (inner : Nat) : GroundedAlone
    (members (functionDef (block (statement? inner) inner) inner) (namedStatement? inner))
    fun _ => membersRound (functionDef (block (statement? inner) inner) inner) (namedStatement? inner) := by
  have functions : ∀ t : State, 0 < t.pending.length → Alike
      (functionDef (block (statement? inner) inner) inner)
      (functionDef (block (statement? inner) inner) inner) t := fun t pos =>
    functionDef_alike pos (fun problem => (block_alike_self inner t problem).ahead) .same
  have named : ∀ t : State, 0 < t.pending.length → Alike (namedStatement? inner) (namedStatement? inner) t :=
    fun t pos => namedStatement?_alike pos .same
  refine .of_alike (fun _ _ => rfl) (fun _ _ _ _ s rest => ?_) fun m n _ s enough => ?_
  · exact membersRound_alike (functions s) (named s) (rest ())
  · exact members_alike (fun t _ => functions t) (fun t _ => named t) enough

lemma grounded_otherwise (inner : Nat) : GroundedAlone (otherwise (block (statement? inner) inner) inner)
    fun _ => otherwiseRound (block (statement? inner) inner) inner :=
  .of_alike (fun _ _ => rfl)
    (fun _ _ _ _ s rest => otherwiseRound_alike
      (fun problem => (block_alike_self inner s problem).ahead) (rest ()) .same)
    fun _ _ _ s enough => otherwise_alike (block_alike_self inner s) .same enough

/-- All that calls itself is grounded. -/
lemma groundedGrammar : GroundedGrammar where
  parameters inner := grounded_commaList fun _ => parameter_alike .same
  typeParameters := grounded_commaList fun _ => typeParameter_alike
  typeArguments inner := grounded_commaList fun _ => typeArgument_alike (typeRef_alike .same)
  arguments inner := .of_alike (fun _ _ => rfl)
    (fun _ _ _ _ s rest => argumentRound_alike (expression_alike_self inner s).here (rest ()))
    fun _ _ _ s enough => argumentList_alike (expression_alike_self inner s) enough
  links inner := by
    have links : ∀ s, AlikeFrom s (link? (expression inner) inner) (link? (expression inner) inner) :=
      fun s t _ => link?_alike (expression_alike_self inner t).ahead .same
    refine .of_alike (fun _ _ => rfl) (fun _ _ _ _ s rest => ?_) fun m n _ s enough => ?_
    · exact linkRound_alike (links s).here fun t on two => rest () t ⟨on, by omega⟩
    · exact links?_alike (links s) (enough.mono (Nat.sub_le _ _))
  operators inner _ _ known := grounded_operators inner known
  members := grounded_members
  statements inner kind := .of_alike (fun _ _ => rfl)
    (fun _ _ _ _ s rest => statementsRound_alike (statement?_alike_self inner s).here (rest ()))
    fun _ _ _ s enough => statements_alike (statement?_alike_self inner s) enough
  types := .of_alike (fun _ _ => rfl) (fun _ _ _ _ _ rest => typeRound_alike (rest ()) .same)
    fun _ _ _ _ enough => typeRef_alike enough
  unaries inner := by
    have terms : ∀ s, AlikeFrom s (term (expression inner) inner) (term (expression inner) inner) :=
      fun s t _ => term_alike (expression_alike_self inner t).ahead .same
    exact .of_alike (fun _ _ => rfl) (fun _ _ _ _ s rest => unaryRound_alike (terms s).here (rest ()))
      fun _ _ _ s enough => unaryOperations_alike (terms s) enough
  expressions := .of_alike (fun _ _ => rfl)
    (fun _ _ _ _ _ rest => expressionRound_alike (rest ()) .same)
    fun _ _ _ _ enough => expression_alike enough
  otherwises := grounded_otherwise
  statement := .of_alike (fun _ _ => rfl)
    (fun _ _ _ _ _ rest => statementRound_alike (rest ()) .same)
    fun _ _ _ _ enough => statement?_alike enough

/-! ## Places in the list of tokens -/

/-- The tokens with the end of file that closes them. -/
def Cursor.closed (tokens : List Token) : List Token :=
  (onFirst tokens).pending ++ [(onFirst tokens).closingToken]

/-- The state on the first token. -/
def State.first (tokens : List Token) : State :=
  { cursor := Cursor.onFirst tokens, nextId := 0, findings := #[] }

/-- The state that parsing starts in, past the trivia at the front. -/
def State.start (tokens : List Token) : State :=
  { cursor := (Cursor.onFirst tokens).skip .insensitive, nextId := 0, findings := #[] }

/-- The index of the current token. -/
def State.position (tokens : List Token) (s : State) : Nat :=
  (Cursor.closed tokens).length - 1 - s.pending.length

/-- Parsing of some tokens stays within them and does not depend on a bound. -/
structure StaysWithin (tokens : List Token) : Prop where
  /-- The list is closed by its own end of file or by one that is supplied. -/
  closed : Cursor.closed tokens = tokens ∨
    ∃ last : Token, last.kind = .endOfFile ∧ Cursor.closed tokens = tokens ++ [last]
  /-- Whatever state is reached from the first token stands on a token of the list. -/
  within : ∀ s, Onward (.first tokens) s → s.position tokens < (Cursor.closed tokens).length ∧
    (Cursor.closed tokens)[s.position tokens]? = some s.token
  /-- Going onward is going forward, and dropping a token is going forward strictly. -/
  forward : ∀ s t, Onward (.first tokens) s → Onward s t → s.position tokens ≤ t.position tokens ∧
    (Ahead s t ↔ s.position tokens < t.position tokens)
  /-- Every bound larger than the number of tokens gives the program and the findings. -/
  ends : ∀ bound, (Cursor.onFirst tokens).pending.length < bound →
    ∃ s, Onward (.first tokens) s ∧
      Runs (program bound) (.start tokens) (parse tokens).program.root s ∧
      (parse tokens).findings = s.findings.toList

lemma length_closed (tokens : List Token) :
    (Cursor.closed tokens).length = (State.first tokens).pending.length + 1 := by
  simp [Cursor.closed, State.first]

/-- An end of file is supplied only if there is none at the end. -/
lemma closed_eq (tokens : List Token) : Cursor.closed tokens = tokens ∨
    ∃ last : Token, last.kind = .endOfFile ∧ Cursor.closed tokens = tokens ++ [last] := by
  cases e : tokens.getLast? with
  | none =>
    obtain rfl := List.getLast?_eq_none_iff.mp e
    exact .inr ⟨_, rfl, rfl⟩
  | some last =>
    obtain ⟨front, rfl⟩ := List.getLast?_eq_some_iff.mp e
    by_cases file : last.kind = .endOfFile
    · left
      obtain ⟨kind, span⟩ := last
      obtain rfl : kind = .endOfFile := file
      simp [Cursor.closed, Cursor.onFirst, Cursor.closingToken]
    · right
      refine ⟨⟨.endOfFile, Cursor.endAfter last.span⟩, rfl, ?_⟩
      simp [Cursor.closed, Cursor.onFirst, Cursor.closingToken, file]

/-- The tokens left are a part of the closed list that begins at the position. -/
lemma closed_drop {tokens : List Token} (on : Onward (.first tokens) s) :
    (Cursor.closed tokens).drop (s.position tokens) = s.pending ++ [s.cursor.closingToken] := by
  obtain ⟨dropped, e⟩ := on.pending
  have position : s.position tokens = dropped.length := by
    have length := congrArg List.length e
    rw [List.length_append] at length
    rw [State.position, length_closed]
    omega
  have whole : Cursor.closed tokens = dropped ++ (s.pending ++ [s.cursor.closingToken]) := by
    have closing : s.cursor.closingToken = (Cursor.onFirst tokens).closingToken := by
      rw [Cursor.closingToken, on.closing]
      rfl
    rw [closing, ← List.append_assoc, e]
    rfl
  rw [position, whole, List.drop_left]

lemma start_onward (tokens : List Token) : Onward (.first tokens) (.start tokens) :=
  ⟨List.dropWhile_suffix _, rfl⟩

/-- Parsing of any tokens stays within them. -/
lemma staysWithin (tokens : List Token) : StaysWithin tokens where
  closed := closed_eq tokens
  within s on := by
    have length := length_closed tokens
    refine ⟨by unfold State.position; omega, ?_⟩
    have current : (s.pending ++ [s.cursor.closingToken])[0]? = some s.token := by
      cases e : s.pending with
      | nil => simp [State.token, Cursor.current, e]
      | cons token rest => simp [State.token, Cursor.current, e]
    rw [← current, ← closed_drop on, List.getElem?_drop, Nat.add_zero]
  forward s t on next := by
    have length := length_closed tokens
    have first := on.length_le
    have second := next.length_le
    unfold State.position
    constructor
    · omega
    · constructor
      · intro ahead
        have := ahead.fewer
        omega
      · intro less
        exact ⟨next, by omega⟩
  ends bound enough := by
    have left := (start_onward tokens).length_le
    -- Both bounds are large enough for what is left of the tokens.
    have alike : Alike (program ((Cursor.onFirst tokens).pending.length + 1)) (program bound)
        (.start tokens) :=
      program_alike (.inr ⟨Nat.lt_succ_of_le left, Nat.lt_of_le_of_lt left enough⟩)
    refine ⟨_, (start_onward tokens).trans alike.onward, ?_, rfl⟩
    exact alike.same.symm

/-- Parsing ends on every list of tokens and never leaves it: all loops and recursions of the grammar go
forward from one round to the next, and none goes backwards or depends on how often it may go round. -/
theorem parsing_terminates : GroundedGrammar ∧ ∀ tokens, StaysWithin tokens :=
  ⟨groundedGrammar, staysWithin⟩

end ArrowScript.Grammar
