import ArrowScript.Proofs.Grammar.CleanParse

/-!
# Layout of programs

Where the statements of a program stand in the tokens that it was read from. Each statement has tokens of its own, which
begin with its first one and hold its names and literals; the statements of a block follow each other with nothing but
trivia between them, and among that trivia a line ends. Blocks within a statement stand in the tokens of the statement,
side by side, and are laid out in the same way.
-/

namespace ArrowScript

/-- The token that a statement begins with. -/
def Statement.first : Statement → Token
  | .type definition => ⟨.kwType, definition.keyword⟩
  | .function definition => ⟨.kwFunction, definition.keyword⟩
  | .variable declaration => ⟨.identifier, declaration.name⟩
  | .returning keyword _ => ⟨.kwReturn, keyword⟩
  | .breaking keyword => ⟨.kwBreak, keyword⟩
  | .continuing keyword => ⟨.kwContinue, keyword⟩
  | .whileLoop keyword _ _ => ⟨.kwWhile, keyword⟩
  | .conditional choice => ⟨.kwIf, choice.keyword⟩
  | .importing keyword _ => ⟨.kwImport, keyword⟩
  | .path keyword _ => ⟨.kwPath, keyword⟩
  | .expression whole => ⟨.identifier, whole.root.span⟩

/-- Some tokens are those of a statement: they begin with its first one and hold its names and literals, as they are
written. -/
structure Statement.Takes (statement : Statement) (own : List Token) : Prop where
  first : own.head? = some statement.first
  leaves : ∃ pieces, statement.Written pieces ∧ leafSpans own = leavesOf pieces

/-- Nothing but trivia. -/
def OnlyTrivia (gap : List Token) : Prop :=
  ∀ token ∈ gap, token.kind.isTrivia

/-- A line ends, and from there on nothing but blanks and comments follow. -/
def BreaksLine (gap : List Token) : Prop :=
  ∃ front lineEnd behind, gap = front ++ lineEnd :: behind ∧ lineEnd.kind = .endOfLine ∧
    ∀ token ∈ behind, token.kind = .whitespace ∨ token.kind = .comment

/-- What stands around the statements of a block: braces, and trivia behind the opening one. A program has the end of
file behind it. -/
def BlockKind.Encloses (span : Span) (opening : List Token) (close : Token) : BlockKind → Prop
  | .braced => (∃ blank, opening = ⟨.leftBrace, span⟩ :: blank ∧ OnlyTrivia blank) ∧ close.kind = .rightBrace
  | .program => OnlyTrivia opening ∧ close.kind = .endOfFile

mutual

/-- Some tokens are a block whose statements, and those of all blocks in it, stand on lines of their own. -/
def Block.OnLines : Block → List Token → Prop
  | ⟨_, kind, statements, span⟩, tokens =>
    ∃ opening inner close, tokens = opening ++ (inner ++ [close]) ∧ kind.Encloses span opening close ∧
      statementsOnLines statements inner

/-- Some tokens are statements one after the other, each with trivia behind it; a line ends between two of them. -/
def statementsOnLines : List Statement → List Token → Prop
  | [], tokens => tokens = []
  | statement :: rest, tokens =>
    ∃ own gap others, tokens = own ++ (gap ++ others) ∧ statement.Takes own ∧ statement.OnLines own ∧
      OnlyTrivia gap ∧ (rest ≠ [] → BreaksLine gap) ∧ statementsOnLines rest others

/-- The blocks of a statement have their statements on lines of their own. -/
def Statement.OnLines : Statement → List Token → Prop
  | .type definition, tokens => definition.OnLines tokens
  | .function definition, tokens => definition.OnLines tokens
  | .whileLoop _ _ body, tokens => ∃ head own, tokens = head ++ own ∧ body.OnLines own
  | .conditional conditional, tokens => conditional.OnLines tokens
  | .variable _, _ | .returning .., _ | .breaking _, _ | .continuing _, _ | .importing .., _ | .path .., _
  | .expression _, _ => True

/-- The blocks of a conditional have their statements on lines of their own. -/
def Conditional.OnLines : Conditional → List Token → Prop
  | ⟨_, body, otherwise, _⟩, tokens =>
    ∃ head own rest, tokens = head ++ (own ++ rest) ∧ body.OnLines own ∧ otherwise.OnLines rest

/-- The blocks of what is done when a condition fails have their statements on lines of their own. -/
def Otherwise.OnLines : Otherwise → List Token → Prop
  | .nothing, tokens => tokens = []
  | .conditional conditional, tokens => ∃ head own, tokens = head ++ own ∧ conditional.OnLines own
  | .block block, tokens => ∃ head own, tokens = head ++ own ∧ block.OnLines own

/-- The body of a function, which ends it, has its statements on lines of their own. -/
def FunctionDef.OnLines : FunctionDef → List Token → Prop
  | ⟨_, _, _, _, _, body, _⟩, tokens => ∃ head own, tokens = head ++ own ∧ body.OnLines own

/-- Some tokens hold functions one after the other, whose bodies have their statements on lines of their own. -/
def functionsOnLines : List FunctionDef → List Token → Prop
  | [], _ => True
  | definition :: rest, tokens =>
    ∃ front own others, tokens = front ++ (own ++ others) ∧ definition.OnLines own ∧ functionsOnLines rest others

/-- The methods of a type have their statements on lines of their own. -/
def TypeDef.OnLines : TypeDef → List Token → Prop
  | ⟨_, _, _, _, methods, _, _⟩, tokens => functionsOnLines methods tokens

end

/-! ## Gaps -/

variable {tokens front behind gap : List Token} {token : Token}

lemma leafSpans_append (front behind : List Token) :
    leafSpans (front ++ behind) = leafSpans front ++ leafSpans behind := by
  simp [leafSpans]

/-- More tokens in front of a line end. -/
lemma BreaksLine.after (front : List Token) (breaks : BreaksLine gap) : BreaksLine (front ++ gap) := by
  obtain ⟨before, lineEnd, behind, rfl, ends, blank⟩ := breaks
  exact ⟨front ++ before, lineEnd, behind, (List.append_assoc ..).symm, ends, blank⟩

/-- Among trivia in which a line ends there is a last line end. -/
lemma OnlyTrivia.breaksLine (trivia : OnlyTrivia gap) (line : ∃ token ∈ gap, token.kind = .endOfLine) :
    BreaksLine gap := by
  induction gap with
  | nil =>
    obtain ⟨token, mem, -⟩ := line
    cases mem
  | cons first rest ih =>
    obtain ⟨head, tail⟩ := List.forall_mem_cons.mp trivia
    by_cases later : ∃ token ∈ rest, token.kind = .endOfLine
    · exact (ih tail later).after [first]
    · obtain ⟨token, mem, ends⟩ := line
      have last : token = first := (List.mem_cons.mp mem).resolve_right fun mem => later ⟨token, mem, ends⟩
      subst last
      refine ⟨[], token, rest, rfl, ends, fun other mem => ?_⟩
      -- trivia that ends no line
      have trivial := tail other mem
      have blank : other.kind ≠ .endOfLine := fun e => later ⟨other, mem, e⟩
      revert trivial blank
      cases other.kind <;> simp [Token.Kind.isTrivia]

/-- No statement begins with what ends a block. -/
lemma Statement.first_kind_ne (statement : Statement) :
    statement.first.kind ≠ .endOfFile ∧ statement.first.kind ≠ .rightBrace := by
  cases statement <;> simp [first]

/-- Statements begin with the first token of the first of them. -/
lemma head?_of_statementsOnLines {statement : Statement} {rest : List Statement}
    (h : statementsOnLines (statement :: rest) tokens) : tokens.head? = some statement.first := by
  rw [statementsOnLines] at h
  obtain ⟨own, gap, others, rfl, takes, -⟩ := h
  rw [List.head?_append, takes.first, Option.some_or]

end ArrowScript
