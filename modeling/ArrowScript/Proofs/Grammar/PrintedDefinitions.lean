import ArrowScript.Proofs.Grammar.PrintedExpressions

/-!
# Parsing printed definitions

Declarations, assignments, calls, functions and types are parsed from their printed text. What stands for a
statement or a member of a type is followed by a line end, behind which another one starts or the block
closes; nothing that can stand there continues what is before it.
-/

namespace ArrowScript.Grammar
open Lexeme

variable {s : State} {rest : List Lexeme} {bound : Nat}

/-! ## Line ends -/

/-- Kinds that a statement starts with. -/
def startsStatement : Token.Kind → Bool
  | .identifier | .kwType | .kwFunction | .kwReturn | .kwBreak | .kwContinue => true
  | .kwWhile | .kwIf | .kwImport | .kwPath => true
  | _ => false

/-- Kinds that may stand behind a line end. -/
def startsLine (k : Token.Kind) : Bool :=
  startsStatement k || k = .rightBrace || k = .endOfFile

/-- A text that ends a line, with a statement, a closing brace or nothing behind. -/
def EndsLine (rest : List Lexeme) : Prop :=
  ∃ tail, rest = sign .endOfLine :: tail ∧ startsLine (follow tail)

namespace EndsLine

/-- Past the line end something follows that may stand there. -/
lemma follow (h : EndsLine rest) : startsLine (follow rest) := by
  obtain ⟨tail, rfl, starts⟩ := h
  exact starts

/-- Only kinds that may stand behind a line end follow. -/
lemma follow_ne {k : Token.Kind} (h : EndsLine rest) (other : startsLine k = false) :
    Grammar.follow rest ≠ k := by
  intro e
  have starts := h.follow
  rw [e, other] at starts
  cases starts

/-- A peek that stops on line ends sees one. -/
lemma peek (h : EndsLine rest) (behind : s.Behind rest) :
    s.cursor.peekKind .toLineEnds = .endOfLine := by
  obtain ⟨tail, rfl, -⟩ := h
  exact behind.peekKind .toLineEnds

/-- A line end ends an expression. -/
lemma endsExpression (h : EndsLine rest) : EndsExpression rest := by
  have starts := h.follow
  rw [EndsExpression]
  revert starts
  cases Grammar.follow rest <;> decide

/-- A line end ends a written type. -/
lemma endsType (h : EndsLine rest) : EndsType rest where
  angle := h.follow_ne rfl
  bracket := by
    obtain ⟨tail, rfl, -⟩ := h
    nofun

end EndsLine

/-- A move past a line end leads to what stands behind it. -/
lemma State.Behind.nextLine (h : s.Behind (sign .endOfLine :: rest)) (opens : Opens isFirm rest) :
    (s.moved .insensitive).Shows rest := by
  have lands : landing .insensitive (sign .endOfLine :: rest) = rest := landing_of_opens _ opens
  exact lands ▸ h.moved .insensitive

/-- The first of some lines, or what follows if there are none. -/
lemma opens_lines {kinds : Token.Kind → Bool} {forms : List (List Lexeme)}
    (each : ∀ form ∈ forms, Opens kinds form) (opens : Opens kinds rest) :
    Opens kinds (lines forms ++ rest) := by
  cases forms with
  | nil => exact opens
  | cons form others =>
    rw [lines, List.append_assoc]
    exact (each form List.mem_cons_self).append _

/-- What may stand behind a line end is not trivia. -/
lemma isFirm_of_startsLine (k : Token.Kind) (h : startsLine k) : isFirm k := by
  cases k <;> first | rfl | cases h

/-- A line end behind which a line starts. -/
lemma endsLine_of_opens (opens : Opens startsLine rest) : EndsLine (sign .endOfLine :: rest) := by
  refine ⟨rest, rfl, ?_⟩
  rw [follow_of_opens (opens.mono isFirm_of_startsLine)]
  exact opens.headKind

/-! ## Names and type parameters -/

/-- A name of a definition is an identifier. -/
lemma kind_of_isDefinable {name : Span} (wf : isDefinable name) : nameKind name.content = .identifier :=
  of_decide_eq_true wf

/-- A text that starts with the name of a definition. -/
lemma opens_name {kinds : Token.Kind → Bool} {name : Span} (wf : isDefinable name)
    (identifier : kinds .identifier) : Opens kinds (.name name :: rest) :=
  ⟨_, _, rfl, by rwa [name_kind, kind_of_isDefinable wf]⟩

/-- The name of a definition is read as it is written. -/
lemma bare_definable {name : Span} (wf : isDefinable name) (h : s.Shows (.name name :: rest)) :
    s.token.span.bare = name.bare :=
  h.bare (by rw [name_kind, kind_of_isDefinable wf]; rfl) rfl

/-- A list in angle brackets, or what follows if there is none. -/
lemma opens_angled {kinds : Token.Kind → Bool} {forms : List (List Lexeme)} (less : kinds .less)
    (opens : Opens kinds rest) : Opens kinds (angled forms ++ rest) := by
  cases forms with
  | nil => exact opens
  | cons form others => exact ⟨_, _, rfl, less⟩

/-- Type parameters are parsed from their text, in front of a sign. -/
lemma optionalTypeParameters_gives {names : Option (List Span)} {k : Token.Kind}
    (wf : typeParametersWellFormed names) (enough : (typeParameterLexemes names).length ≤ bound)
    (firm : isFirm k) (less : k ≠ .less) (h : s.Shows (typeParameterLexemes names ++ sign k :: rest)) :
    Gives (optionalTypeParameters bound) s fun r t =>
      bareTypeParameters r = bareTypeParameters names ∧ t.Shows (sign k :: rest) := by
  simp only [optionalTypeParameters, gives_bind, gives_standsOn]
  cases names with
  | none =>
    have shows : s.Shows (sign k :: rest) := h
    rw [shows.sign, if_neg (by simpa using less)]
    exact ⟨rfl, shows⟩
  | some names =>
    simp only [typeParametersWellFormed, Option.all_some, Bool.and_eq_true, Bool.not_eq_true',
      List.isEmpty_eq_false_iff, List.all_eq_true] at wf
    obtain ⟨nonempty, wf⟩ := wf
    rw [typeParameterLexemes, Option.getD_some] at h enough
    have count : names.length ≤ _ :=
      length_le_separated (fun span => [Lexeme.name span]) .comma fun _ _ => List.cons_ne_nil _ _
    have text := angled_of_ne_nil (names.map fun span => [Lexeme.name span]) (by simpa)
    rw [text, List.length_cons, List.length_append] at enough
    have kind : s.token.kind = .less := by
      rw [h.kind, text]
      rfl
    rw [kind, decide_eq_true rfl, if_pos rfl]
    simp only [gives_bind, gives_advance, gives_pure]
    refine (inAngles_gives nonempty (by omega) (fun span mem => ?_) h).mono
      fun list t read => ⟨congrArg some read.1, read.2.behind.onto firm⟩
    have name := wf span mem
    refine ⟨opens_name name rfl, ?_⟩
    intro k rest s _ shows
    simp only [typeParameter, gives_bind]
    rw [gives_expect (shows.kind.trans (kind_of_isDefinable name)), gives_span]
    exact ⟨bare_definable name shows, shows.behind⟩

/-! ## Functions -/

/-- A parameter is parsed from its text. -/
lemma parameter_gives {parameter : Parameter} (wf : parameter.wellFormed)
    (enough : parameter.lexemes.length ≤ bound) (ends : EndsType rest)
    (h : s.Shows (parameter.lexemes ++ rest)) :
    Gives (Grammar.parameter bound) s fun r t => r.bare = parameter.bare ∧ t.Behind rest := by
  simp only [Parameter.wellFormed, Bool.and_eq_true] at wf
  obtain ⟨name, wf⟩ := wf
  simp only [Parameter.lexemes, List.cons_append, List.length_cons] at h enough
  have colon := h.behind.onto rfl
  simp only [Grammar.parameter, gives_bind]
  rw [gives_expect (h.kind.trans (kind_of_isDefinable name))]
  simp only [gives_span, gives_advance]
  rw [gives_expect colon.sign]
  refine (undoesTypes_typeRef bound parameter.written rest _ wf (by omega) ends
    (colon.behind.advanced ((firm_typeRef wf).append rest))).mono ?_
  rintro r t ⟨same, behind⟩
  rw [gives_freshId, gives_pure, Parameter.bare, Parameter.bare, same, bare_definable name h]
  exact ⟨rfl, behind.numbered⟩

/-- A parameter starts with its name. -/
lemma opens_parameter {kinds : Token.Kind → Bool} {parameter : Parameter} (wf : parameter.wellFormed)
    (identifier : kinds .identifier) : Opens kinds parameter.lexemes := by
  simp only [Parameter.wellFormed, Bool.and_eq_true] at wf
  exact opens_name wf.1 identifier

/-- Parameters, or what follows if there are none. -/
lemma opens_parameters {kinds : Token.Kind → Bool} {list : List Parameter}
    (wf : ∀ parameter ∈ list, parameter.wellFormed) (identifier : kinds .identifier)
    (opens : Opens kinds rest) :
    Opens kinds (separated .comma (list.map Parameter.lexemes) ++ rest) := by
  cases list with
  | nil => exact opens
  | cons first others =>
    exact (opens_separated (opens_parameter (wf first List.mem_cons_self) identifier)).append rest

/-- Parameters are parsed from their text up to the closing parenthesis. -/
lemma parameters_gives {list : List Parameter} (wf : ∀ parameter ∈ list, parameter.wellFormed)
    (enough : (separated .comma (list.map Parameter.lexemes)).length ≤ bound)
    (h : s.Shows (separated .comma (list.map Parameter.lexemes) ++ sign .rightParen :: rest)) :
    Gives (parameters bound) s fun r t =>
      r.map Parameter.bare = list.map Parameter.bare ∧ t.Shows (sign .rightParen :: rest) := by
  have named : ∀ parameter ∈ list, Opens (· = .identifier) parameter.lexemes :=
    fun parameter mem => opens_parameter (wf parameter mem) rfl
  have count := length_le_separated Parameter.lexemes .comma
    fun parameter mem => (named parameter mem).ne_nil
  simp only [parameters, gives_bind, gives_standsOn, h.kind, decide_eq_true_eq]
  cases list with
  | nil => exact ⟨rfl, h⟩
  | cons first others =>
    have starts : Opens (· = .identifier) (separated .comma ((first :: others).map Parameter.lexemes) ++
        sign .rightParen :: rest) :=
      (opens_separated (named first List.mem_cons_self)).append _
    rw [if_neg (starts.headKind_ne rfl)]
    refine commaList_gives rfl (by decide) (List.cons_ne_nil _ _) (by omega)
      (fun parameter mem => ⟨opens_parameter (wf parameter mem) rfl, ?_⟩) h
    intro k rest s sign shows
    have short := length_form_le_separated Parameter.lexemes .comma mem
    have ends : EndsType (.sign k :: rest) := by
      rcases sign with rfl | rfl <;> exact endsType_sign rfl (by decide) (by decide)
    exact parameter_gives (wf parameter mem) (by omega) ends shows

/-- The type that a function returns is parsed from its text, in front of an opening brace. -/
lemma optionalReturn_gives {returns : Option TypeRef} (wf : returns.all TypeRef.wellFormed)
    (enough : (returnLexemes returns).length ≤ bound)
    (h : s.Shows (returnLexemes returns ++ sign .leftBrace :: rest)) :
    Gives (optionalReturn bound) s fun r t =>
      r.map TypeRef.bare = returns.map TypeRef.bare ∧ t.Shows (sign .leftBrace :: rest) := by
  simp only [optionalReturn, gives_bind, gives_standsOn]
  cases returns with
  | none =>
    have shows : s.Shows (sign .leftBrace :: rest) := h
    rw [shows.sign, if_neg (by decide)]
    exact ⟨rfl, shows⟩
  | some type =>
    have shows : s.Shows (sign .colon :: (type.lexemes ++ sign .leftBrace :: rest)) := h
    rw [returnLexemes, Option.elim_some, List.length_cons] at enough
    have ends : EndsType (sign .leftBrace :: rest) := endsType_sign rfl (by decide) (by decide)
    rw [shows.sign, decide_eq_true rfl, if_pos rfl]
    simp only [gives_bind, gives_advance, gives_pure]
    refine (undoesTypes_typeRef bound type _ _ wf (by omega) ends
      (shows.behind.advanced ((firm_typeRef wf).append _))).mono ?_
    rintro r t ⟨same, behind⟩
    exact ⟨congrArg some same, behind.onto rfl⟩

/-- A routine parses the text of every block up to a length, whatever it would note in place of it. -/
def UndoesBlocks (block : SyntaxProblem → Parser Block) (bound : Nat) : Prop :=
  ∀ (problem : SyntaxProblem) (b : Block) (rest : List Lexeme) (s : State), b.wellFormed .braced →
    b.lexemes.length ≤ bound → s.Shows (b.lexemes ++ rest) →
      Gives (block problem) s fun r t => r.bare = b.bare ∧ t.Behind rest

/-- A block in braces starts with the opening one. -/
lemma lexemes_braced {b : Block} (wf : b.wellFormed .braced) :
    ∃ tail, b.lexemes = sign .leftBrace :: tail := by
  obtain ⟨id, kind, statements, span⟩ := b
  simp only [Block.wellFormed, Bool.and_eq_true, decide_eq_true_eq] at wf
  obtain ⟨rfl, -⟩ := wf
  exact ⟨_, Block.lexemes.eq_2 ..⟩

/-- A routine parses the text of every function up to a length. -/
def UndoesFunctions (function : Parser FunctionDef) (bound : Nat) : Prop :=
  ∀ (definition : FunctionDef) (rest : List Lexeme) (s : State), definition.wellFormed →
    definition.lexemes.length ≤ bound → s.Shows (definition.lexemes ++ rest) →
      Gives function s fun r t => r.bare = definition.bare ∧ t.Behind rest

/-- A function is parsed from its text if its body is. -/
lemma undoesFunctions_functionDef {block : SyntaxProblem → Parser Block}
    (undoes : UndoesBlocks block bound) : UndoesFunctions (functionDef block bound) bound := by
  rintro ⟨id, name, typeParameters, list, returns, body, keyword⟩ rest s wf enough h
  simp only [FunctionDef.wellFormed, Bool.and_eq_true, List.all_eq_true] at wf
  obtain ⟨⟨⟨⟨definable, wfTypes⟩, wfList⟩, wfReturns⟩, wfBody⟩ := wf
  obtain ⟨tail, brace⟩ := lexemes_braced wfBody
  simp only [FunctionDef.lexemes, List.cons_append, List.append_assoc, List.length_cons,
    List.length_append] at h enough
  obtain ⟨tail, brace⟩ := lexemes_braced wfBody
  have named := h.numbered.behind.advanced (opens_name definable rfl)
  simp only [functionDef, gives_bind, gives_span, gives_freshId, gives_advance]
  rw [gives_expect (named.kind.trans (kind_of_isDefinable definable))]
  refine (optionalTypeParameters_gives wfTypes (by omega) rfl (by decide)
    (named.behind.advanced (opens_angled rfl ⟨_, _, rfl, rfl⟩))).mono ?_
  rintro types t ⟨sameTypes, opening⟩
  rw [gives_expect opening.sign]
  refine (parameters_gives wfList (by omega)
    (opening.behind.advanced (opens_parameters wfList rfl ⟨_, _, rfl, rfl⟩))).mono ?_
  rintro parameters u ⟨sameList, closing⟩
  have behind := closing.behind
  rw [brace, List.cons_append] at behind
  have opens : Opens isFirm (returnLexemes returns ++ sign .leftBrace :: (tail ++ rest)) := by
    cases returns <;> exact ⟨_, _, rfl, rfl⟩
  refine (optionalReturn_gives wfReturns (by omega) (behind.advanced opens)).mono ?_
  rintro type v ⟨sameReturns, shows⟩
  rw [← List.cons_append, ← brace] at shows
  refine (undoes _ body rest v wfBody (by omega) shows).mono ?_
  rintro b w ⟨sameBody, behind⟩
  rw [gives_pure, FunctionDef.bare, FunctionDef.bare, bare_definable definable named, sameTypes,
    sameList, sameReturns, sameBody]
  exact ⟨rfl, behind⟩

/-! ## Declarations -/

/-- A declaration is parsed from its text, from the colon behind its name on. -/
lemma declaration_gives {name : Span} {written : Option TypeRef} {initial : Option Expression}
    (either : written.isSome || initial.isSome) (wfWritten : written.all TypeRef.wellFormed)
    (wfInitial : initial.all Expression.wellFormed)
    (enough : (written.elim [] TypeRef.lexemes ++
      initial.elim [] fun value => sign .arrow :: value.lexemes).length < bound)
    (ends : EndsLine rest)
    (h : s.Shows (sign .colon :: (written.elim [] TypeRef.lexemes ++
      ((initial.elim [] fun value => sign .arrow :: value.lexemes) ++ rest)))) :
    Gives (declaration name bound) s fun r t =>
      r.name = name ∧ r.written.map TypeRef.bare = written.map TypeRef.bare ∧
        r.initial.map Expression.bare = initial.map Expression.bare ∧ r.type = none ∧
          t.Behind rest := by
  rw [List.length_append] at enough
  -- the value comes last, whether or not there is a type
  have last : ∀ {read : Option TypeRef} {t : State} {id : NodeId},
      read.map TypeRef.bare = written.map TypeRef.bare →
      t.Behind ((initial.elim [] fun value => sign .arrow :: value.lexemes) ++ rest) →
      Gives (do
        if (← peekWith .toLineEnds) = .arrow then
          advance
          advance
          return { id, name, written := read, initial := some (← expression bound), type := none }
        if read.isNone then report .untypedWithoutValue
        return ({ id, name, written := read, initial := none, type := none } : Declaration)) t
        fun r u => r.name = name ∧ r.written.map TypeRef.bare = written.map TypeRef.bare ∧
          r.initial.map Expression.bare = initial.map Expression.bare ∧ r.type = none ∧
            u.Behind rest := by
    intro read t id same behind
    simp only [gives_bind, gives_peekWith]
    cases initial with
    | none =>
      have typed : read.isNone = false := by
        cases read with
        | some type => rfl
        | none =>
          cases written with
          | none => cases either
          | some type => cases same
      rw [if_neg (by rw [ends.peek behind]; decide), typed, if_neg Bool.false_ne_true]
      exact ⟨rfl, same, rfl, rfl, behind⟩
    | some value =>
      rw [Option.elim_some, List.length_cons] at enough
      have arrow : (t.moved .insensitive).Shows (sign .arrow :: (value.lexemes ++ rest)) :=
        behind.onto rfl
      have following : t.cursor.peekKind .toLineEnds = .arrow := behind.peekKind .toLineEnds
      rw [if_pos following]
      simp only [gives_bind, gives_advance]
      refine ((undoesExpressions_expression bound).whole wfInitial (by omega) ends.endsExpression
        (arrow.behind.advanced ((firm_expression wfInitial).append rest))).mono ?_
      rintro v u ⟨sameValue, behind⟩
      exact ⟨rfl, same, congrArg some sameValue, rfl, behind⟩
  have behind := h.numbered.behind
  simp only [declaration, gives_bind, gives_freshId, gives_peekWith]
  cases written with
  | none =>
    cases initial with
    | none => cases either
    | some value =>
      have following : s.numbered.cursor.peekKind .toLineEnds = .arrow := behind.peekKind .toLineEnds
      rw [following, if_neg (by decide), gives_bind]
      exact last rfl behind
  | some type =>
    rw [Option.elim_some] at enough behind
    have opens := (opens_typeRef wfWritten).append
      ((initial.elim [] fun value => sign .arrow :: value.lexemes) ++ rest)
    have firm := (firm_typeRef wfWritten).append
      ((initial.elim [] fun value => sign .arrow :: value.lexemes) ++ rest)
    have following : (s.numbered.cursor.peekKind .toLineEnds).isTypeName := by
      rw [behind.peekKind .toLineEnds, landing_of_opens .toLineEnds firm]
      exact opens.headKind
    have endsType : EndsType ((initial.elim [] fun value => sign .arrow :: value.lexemes) ++ rest) := by
      cases initial with
      | none => exact ends.endsType
      | some value => exact endsType_sign rfl (by decide) (by decide)
    rw [if_pos following]
    simp only [gives_bind, gives_advance, gives_pure]
    refine (undoesTypes_typeRef bound type _ _ wfWritten ?_ endsType (behind.advanced firm)).mono ?_
    · omega
    · rintro r t ⟨same, behind⟩
      exact last (congrArg some same) behind

/-! ## Statements that start with a name -/

/-- Whether a chain is one plain name can be seen without spans. -/
lemma isSingleName_bare (chain : Chain) : chain.bare.isSingleName = chain.isSingleName := by
  obtain ⟨links, span, type⟩ := chain
  match links with
  | [] => rfl
  | [.name _] | [.index ..] | [.call ..] => rfl
  | .name _ :: _ :: _ | .index .. :: _ :: _ | .call .. :: _ :: _ => rfl

/-- Whether a link is a call can be seen without spans. -/
lemma isCall_bare (link : Link) : link.bare.isCall = link.isCall := by
  cases link <;> rfl

/-- Whether a chain ends in a call can be seen without spans. -/
lemma endsInCall_bare (chain : Chain) : chain.bare.endsInCall = chain.endsInCall := by
  obtain ⟨links, span, type⟩ := chain
  rw [Chain.endsInCall, Chain.endsInCall, Chain.bare, bareLinks_eq_map, List.getLast?_map]
  cases links.getLast? with
  | none => rfl
  | some link => exact isCall_bare link

/-- A declaration is parsed from its text. -/
lemma namedStatement?_gives_declaration {d : Declaration} (wf : d.wellFormed)
    (enough : d.lexemes.length ≤ bound) (ends : EndsLine rest) (h : s.Shows (d.lexemes ++ rest)) :
    Gives (namedStatement? bound) s fun r t =>
      (∃ x, r = some (.variable x) ∧ x.bare = d.bare) ∧ t.Behind rest := by
  simp only [Declaration.wellFormed, Bool.and_eq_true] at wf
  obtain ⟨⟨⟨definable, either⟩, wfWritten⟩, wfInitial⟩ := wf
  simp only [Declaration.lexemes, List.cons_append, List.append_assoc, List.length_cons] at h enough
  have single : (Chain.mk [.name ⟨d.name, none⟩] d.name none).wellFormed := by
    simpa [Chain.wellFormed, linksWellFormed, Link.wellFormed] using definable
  have colon : EndsExpression (sign .colon :: (d.written.elim [] TypeRef.lexemes ++
      ((d.initial.elim [] fun value => sign .arrow :: value.lexemes) ++ rest))) :=
    endsExpression_sign rfl rfl
  simp only [namedStatement?, chain, gives_bind]
  refine (chain?_gives (undoesExpressions_expression bound) single ?_ colon.endsChain h).mono ?_
  · show 1 ≤ bound
    omega
  · rintro _ t ⟨⟨c, rfl, same, start⟩, behind⟩
    have name : c.isSingleName := by
      rw [← isSingleName_bare, same]
      rfl
    simp only [gives_bind, gives_peek]
    rw [behind.peek, follow_sign rfl]
    simp only [gives_bind, gives_advance]
    rw [if_pos name, gives_bind]
    refine (declaration_gives either wfWritten wfInitial (by omega) ends (behind.onto rfl)).mono ?_
    rintro ⟨id, _, written, initial, _⟩ u ⟨rfl, sameWritten, sameInitial, rfl, behind⟩
    refine ⟨⟨_, rfl, ?_⟩, behind⟩
    simp only [Declaration.bare]
    rw [start, bare_definable definable h, sameWritten, sameInitial]

/-- What may stand for a statement is an assignment or a call, and starts with an identifier. -/
lemma eq_of_actsWellFormed {e : Expr} (wf : e.actsWellFormed) :
    (∃ span target value type, e = .binary .assign span (.chain target) value type ∧
      target.startsWithIdentifier ∧ target.wellFormed ∧ value.wellFormed) ∨
    ∃ path, e = .chain path ∧ path.startsWithIdentifier ∧ path.wellFormed ∧ path.endsInCall := by
  unfold Expr.actsWellFormed at wf
  split at wf
  · next span target value type =>
    simp only [Bool.and_eq_true] at wf
    exact .inl ⟨span, target, value, type, rfl, wf.1.1, wf.1.2, wf.2⟩
  · next path =>
    simp only [Bool.and_eq_true] at wf
    exact .inr ⟨path, rfl, wf.1.1, wf.1.2, wf.2⟩
  · cases wf

/-- An assignment is parsed if its value is parsed from what is written for it. -/
lemma namedStatement?_gives_assignment {target : Chain} {value : Expr} {text : List Lexeme}
    (wf : target.wellFormed) (enough : target.lexemes.length ≤ bound) (firm : Opens isFirm text)
    (undoes : ∀ s : State, s.Shows (text ++ rest) →
      Gives (expression bound) s fun r t => r.root.bare = value.bare ∧ t.Behind rest)
    (h : s.Shows (target.lexemes ++ sign .arrow :: (text ++ rest))) :
    Gives (namedStatement? bound) s fun r t =>
      (∃ x, r = some (.expression x) ∧
        x.bare = .untyped (.binary .assign default (.chain target.bare) value.bare none)) ∧ t.Behind rest := by
  simp only [namedStatement?, chain, gives_bind]
  have arrow : EndsExpression (sign .arrow :: (text ++ rest)) := endsExpression_sign rfl rfl
  refine (chain?_gives (undoesExpressions_expression bound) wf enough arrow.endsChain h).mono ?_
  rintro _ t ⟨⟨c, rfl, sameTarget, -⟩, behind⟩
  have inside := (behind.onto rfl).behind.advanced (firm.append rest)
  simp only [gives_bind, gives_peek]
  rw [behind.peek, follow_sign rfl]
  simp only [gives_bind, gives_advance, gives_span]
  refine (undoes _ inside).mono ?_
  rintro r u ⟨sameValue, behind⟩
  refine ⟨⟨_, rfl, ?_⟩, behind⟩
  simp only [Expression.untyped, Expression.bare, Expr.bare, sameTarget, sameValue]

/-- An assignment or a call is parsed from its text. -/
lemma namedStatement?_gives_expression {e : Expression} (wf : e.root.actsWellFormed)
    (enough : e.lexemes.length ≤ bound) (ends : EndsLine rest) (h : s.Shows (e.lexemes ++ rest)) :
    Gives (namedStatement? bound) s fun r t =>
      (∃ x, r = some (.expression x) ∧ x.bare = e.bare) ∧ t.Behind rest := by
  have undoes := undoesExpressions_expression bound
  obtain ⟨root, type⟩ := e
  rcases eq_of_actsWellFormed wf with ⟨_, target, value, _, rfl, -, wfTarget, wfValue⟩ |
    ⟨path, rfl, -, wfPath, call⟩
  · simp only [Expression.lexemes, Expr.lexemes, List.append_assoc, List.cons_append,
      List.length_append, List.length_cons] at h enough
    exact namedStatement?_gives_assignment wfTarget (by omega) (firm_expr wfValue)
      (fun s shows => undoes.single value rest s wfValue (by omega) ends.endsExpression shows) h
  · simp only [namedStatement?, chain, gives_bind]
    refine (chain?_gives undoes wfPath enough ends.endsExpression.endsChain h).mono ?_
    rintro _ t ⟨⟨c, rfl, same, -⟩, behind⟩
    have call : c.endsInCall := by
      rw [← endsInCall_bare, same, endsInCall_bare]
      exact call
    simp only [gives_bind, gives_peek]
    rw [behind.peek]
    split
    · next colon => exact absurd colon (ends.follow_ne rfl)
    · next arrow => exact absurd arrow (ends.follow_ne rfl)
    · rw [if_pos call]
      exact ⟨⟨_, rfl, congrArg (Expression.untyped ∘ Expr.chain) same⟩, behind⟩

/-! ## Types -/

/-- A function starts with its keyword. -/
lemma opens_functionDef (definition : FunctionDef) :
    Opens (· = .kwFunction) definition.lexemes := by
  obtain ⟨id, name, typeParameters, list, returns, body, keyword⟩ := definition
  exact ⟨_, _, rfl, rfl⟩

/-- A declaration starts with its name. -/
lemma opens_declaration {d : Declaration} (wf : d.wellFormed) : Opens (· = .identifier) d.lexemes := by
  simp only [Declaration.wellFormed, Bool.and_eq_true] at wf
  exact opens_name wf.1.1.1 rfl

/-- Methods are parsed from their lines up to the closing brace. -/
lemma members_gives_methods {function : Parser FunctionDef} {named? : Parser (Option Statement)}
    (undoes : UndoesFunctions function bound) {methods : List FunctionDef} {rounds : Nat}
    (enough : methods.length ≤ rounds)
    (fit : ∀ method ∈ methods, method.wellFormed ∧ method.lexemes.length ≤ bound)
    (h : s.Shows (lines (methods.map FunctionDef.lexemes) ++ sign .rightBrace :: rest)) :
    Gives (members function named? rounds) s fun r t =>
      r.1 = [] ∧ r.2.map FunctionDef.bare = methods.map FunctionDef.bare ∧
        t.Shows (sign .rightBrace :: rest) := by
  induction methods generalizing rounds s with
  | nil =>
    have shows : s.Shows (sign .rightBrace :: rest) := h
    cases rounds with
    | zero => exact ⟨rfl, rfl, shows⟩
    | succ rounds =>
      simp only [members, gives_bind, gives_kind]
      rw [shows.sign]
      exact ⟨rfl, rfl, shows⟩
  | cons first methods ih =>
    obtain ⟨rounds, rfl⟩ := Nat.exists_eq_add_of_lt (Nat.lt_of_lt_of_le (Nat.succ_pos _) enough)
    rw [Nat.zero_add] at enough ⊢
    rw [List.map_cons, lines, List.append_assoc, List.cons_append] at h
    obtain ⟨wf, short⟩ := fit first List.mem_cons_self
    have kind := h.kind_of_opens ((opens_functionDef first).append _)
    simp only [members, gives_bind, gives_kind]
    rw [kind]
    simp only [gives_bind, gives_advance]
    refine (undoes first _ s wf short h).mono ?_
    rintro r t ⟨same, behind⟩
    -- A method ends with its line, and behind that stands another method or the closing brace.
    have opens : Opens isFirm (lines (methods.map FunctionDef.lexemes) ++ sign .rightBrace :: rest) := by
      refine opens_lines ?_ ⟨_, _, rfl, rfl⟩
      simp only [List.forall_mem_map]
      exact fun method _ => (opens_functionDef method).mono (by simp [isFirm, Token.Kind.isTrivia])
    refine (ih (by simpa using enough) (fun method mem => fit method (.tail _ mem))
      (behind.nextLine opens)).mono ?_
    rintro r' u ⟨fields, others, closed⟩
    exact ⟨fields, List.cons_eq_cons.mpr ⟨same, others⟩, closed⟩

/-- The first member of a type, or the closing brace if there are none. -/
lemma opens_members {fields : List Declaration} (methods : List FunctionDef) (rest : List Lexeme)
    (wf : ∀ field ∈ fields, field.wellFormed) :
    Opens startsLine (lines (fields.map Declaration.lexemes) ++
      (lines (methods.map FunctionDef.lexemes) ++ sign .rightBrace :: rest)) := by
  refine opens_lines ?_ (opens_lines ?_ ⟨_, _, rfl, rfl⟩)
  · simp only [List.forall_mem_map]
    exact fun field mem => (opens_declaration (wf field mem)).mono (by simp [startsLine, startsStatement])
  · simp only [List.forall_mem_map]
    exact fun method _ => (opens_functionDef method).mono (by simp [startsLine, startsStatement])

/-- Fields and methods are parsed from their lines up to the closing brace. -/
lemma members_gives {function : Parser FunctionDef} (undoes : UndoesFunctions function bound)
    {fields : List Declaration} {methods : List FunctionDef} {rounds : Nat}
    (enough : fields.length + methods.length ≤ rounds)
    (fitFields : ∀ field ∈ fields, field.wellFormed ∧ field.lexemes.length ≤ bound)
    (fitMethods : ∀ method ∈ methods, method.wellFormed ∧ method.lexemes.length ≤ bound)
    (h : s.Shows (lines (fields.map Declaration.lexemes) ++
      (lines (methods.map FunctionDef.lexemes) ++ sign .rightBrace :: rest))) :
    Gives (members function (namedStatement? bound) rounds) s fun r t =>
      r.1.map Declaration.bare = fields.map Declaration.bare ∧
        r.2.map FunctionDef.bare = methods.map FunctionDef.bare ∧ t.Shows (sign .rightBrace :: rest) := by
  induction fields generalizing rounds s with
  | nil =>
    refine (members_gives_methods undoes (by simpa using enough) fitMethods h).mono ?_
    rintro r t ⟨fields, same, closed⟩
    exact ⟨congrArg (List.map Declaration.bare) fields, same, closed⟩
  | cons first fields ih =>
    rw [List.length_cons] at enough
    obtain ⟨rounds, rfl⟩ := Nat.exists_eq_succ_of_ne_zero (n := rounds) (by omega)
    rw [List.map_cons, lines, List.append_assoc, List.cons_append] at h
    obtain ⟨wf, short⟩ := fitFields first List.mem_cons_self
    have kind := h.kind_of_opens ((opens_declaration wf).append _)
    have opens := opens_members methods rest fun field mem => (fitFields field (.tail _ mem)).1
    simp only [members, gives_bind, gives_kind]
    rw [kind]
    simp only [gives_bind]
    refine (namedStatement?_gives_declaration wf short (endsLine_of_opens opens) h).mono ?_
    rintro _ t ⟨⟨field, rfl, same⟩, behind⟩
    simp only [gives_bind, gives_advance]
    refine (ih (by omega) (fun field mem => fitFields field (.tail _ mem))
      (behind.nextLine (opens.mono isFirm_of_startsLine))).mono ?_
    rintro r u ⟨others, sameMethods, closed⟩
    exact ⟨List.cons_eq_cons.mpr ⟨same, others⟩, sameMethods, closed⟩

/-- A type is parsed from its text if its methods are. -/
lemma typeDef_gives {function : Parser FunctionDef} (undoes : UndoesFunctions function bound)
    {definition : TypeDef} (wf : definition.wellFormed)
    (enough : definition.lexemes.length ≤ bound) (h : s.Shows (definition.lexemes ++ rest)) :
    Gives (typeDef function bound) s fun r t => r.bare = definition.bare ∧ t.Behind rest := by
  obtain ⟨id, name, typeParameters, fields, methods, keyword, binding⟩ := definition
  simp only [TypeDef.wellFormed, methodsWellFormed_eq_all, Bool.and_eq_true, List.all_eq_true] at wf
  obtain ⟨⟨⟨definable, wfTypes⟩, wfFields⟩, wfMethods⟩ := wf
  simp only [TypeDef.lexemes, methodForms_eq_map, List.cons_append, List.append_assoc, List.nil_append,
    List.length_cons, List.length_append] at h enough
  have named := h.numbered.behind.advanced (opens_name definable rfl)
  simp only [typeDef, gives_bind, gives_span, gives_freshId, gives_advance]
  rw [gives_expect (named.kind.trans (kind_of_isDefinable definable))]
  refine (optionalTypeParameters_gives wfTypes (by omega) rfl (by decide)
    (named.behind.advanced (opens_angled rfl ⟨_, _, rfl, rfl⟩))).mono ?_
  rintro types t ⟨sameTypes, opening⟩
  rw [gives_expect opening.sign]
  have opens := opens_members methods rest wfFields
  have fewFields := length_le_lines Declaration.lexemes fields
  have fewMethods := length_le_lines FunctionDef.lexemes methods
  refine (members_gives undoes (by omega) (fun field mem => ⟨wfFields field mem, ?_⟩)
    (fun method mem => ⟨wfMethods method mem, ?_⟩)
    (opening.behind.advanced (opens.mono isFirm_of_startsLine))).mono ?_
  · have short := length_form_lt_lines Declaration.lexemes mem
    omega
  · have short := length_form_lt_lines FunctionDef.lexemes mem
    omega
  · rintro r u ⟨sameFields, sameMethods, closed⟩
    rw [gives_expect closed.sign, gives_pure, TypeDef.bare, TypeDef.bare,
      bare_definable definable named, sameTypes, sameFields, bareMethods_eq_map, bareMethods_eq_map,
      sameMethods]
    exact ⟨rfl, closed.behind⟩

end ArrowScript.Grammar
