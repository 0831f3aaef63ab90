import ArrowScript.Proofs.Grammar.InnerExpressions
import ArrowScript.Proofs.Grammar.Lookahead

/-!
# Parsing printed terms

Links, chains and terms are parsed from their text however the expressions inside of them are written, as long as
these are parsed from theirs. A `Style` is a way of writing those expressions; with it a term has a text. What
follows must not continue the part that is read: no dot and no bracket a chain, and no type arguments a name.
-/

namespace ArrowScript.Grammar
open Lexeme

variable {s : State} {rest : List Lexeme} {expression : Parser Expression} {bound : Nat}

/-! ## What texts start with -/

/-- Kinds that a term starts with. -/
def startsTerm : Token.Kind → Bool
  | .identifier | .builtinType | .nothing | .integer | .decimal | .boolean | .string => true
  | .leftParen | .kwNew => true
  | _ => false

/-- Kinds that an expression starts with. -/
def startsExpression (k : Token.Kind) : Bool :=
  startsTerm k || (unaryOperator? k).isSome

lemma isFirm_of_startsExpression (k : Token.Kind) (h : startsExpression k) : isFirm k := by
  cases k <;> first | rfl | cases h

lemma startsTerm_of_isLinkName (k : Token.Kind) (h : isLinkName k) : startsTerm k := by
  cases k <;> first | rfl | cases h

lemma startsExpression_of_startsTerm (k : Token.Kind) (h : startsTerm k) : startsExpression k := by
  rw [startsExpression, h, Bool.true_or]

lemma startsExpression_of_isLinkName (k : Token.Kind) (h : isLinkName k) : startsExpression k :=
  startsExpression_of_startsTerm k (startsTerm_of_isLinkName k h)

lemma eq_of_isLinkName {k : Token.Kind} (h : isLinkName k) : k = .identifier ∨ k = .builtinType := by
  cases k <;> first | exact .inl rfl | exact .inr rfl | cases h

/-- No term starts with an operator. -/
lemma unaryOperator?_of_startsTerm {k : Token.Kind} (h : startsTerm k) : unaryOperator? k = none := by
  cases k <;> first | rfl | cases h

/-- The sign of an operator before an operand stands for it. -/
lemma unaryOperator?_sign (operator : UnaryOperator) : unaryOperator? operator.sign = some operator := by
  cases operator <;> rfl

/-! ## What may follow -/

/-- A text that does not continue a link. -/
structure EndsLink (rest : List Lexeme) : Prop where
  bracket : follow rest ≠ .leftBracket
  paren : follow rest ≠ .leftParen
  angle : typeArgumentsBeforeCall (ahead rest) = false

/-- A text that does not continue a chain. -/
structure EndsChain (rest : List Lexeme) : Prop extends EndsLink rest where
  dot : follow rest ≠ .dot

/-- Kinds that continue an expression. -/
def continuesExpression (k : Token.Kind) : Bool :=
  k = .dot || k = .leftBracket || k = .leftParen || Level.all.any fun level => (level k).isSome

/-- A text that does not continue an expression. -/
def EndsExpression (rest : List Lexeme) : Prop :=
  continuesExpression (follow rest) = false

/-- The kinds of a text start with the kind that follows. -/
lemma head?_ahead (rest : List Lexeme) :
    (ahead rest).head? = some (follow rest) := by
  induction rest with
  | nil => rfl
  | cons x rest ih =>
    cases trivia : x.kind.isTrivia with
    | true =>
      rw [ahead, kindsOf, List.map_cons, List.filter_cons_of_neg (by simp [trivia]), follow, landing,
        List.dropWhile_cons_of_pos]
      · exact ih
      · revert trivia
        cases x.kind <;> decide
    | false =>
      rw [ahead, kindsOf_cons trivia, follow_of_opens ⟨_, _, rfl, by rw [isFirm, trivia]; rfl⟩]
      rfl

/-- Only a `<` can open type arguments. -/
lemma typeArgumentsBeforeCall_of_follow (h : follow rest ≠ .less) :
    typeArgumentsBeforeCall (ahead rest) = false := by
  have head := head?_ahead rest
  cases e : ahead rest with
  | nil => rfl
  | cons k kinds =>
    rw [e, List.head?_cons, Option.some_inj] at head
    unfold typeArgumentsBeforeCall
    split
    · next kinds' e' => exact absurd (head.symm.trans (List.cons.inj e').1) h
    · rfl

/-- What does not continue an expression does not continue a chain at its end. -/
lemma EndsExpression.endsChain (h : EndsExpression rest) : EndsChain rest := by
  rw [EndsExpression, continuesExpression] at h
  simp only [Bool.or_eq_false_iff, decide_eq_false_iff_not] at h
  obtain ⟨⟨⟨dot, bracket⟩, paren⟩, operators⟩ := h
  refine ⟨⟨bracket, paren, typeArgumentsBeforeCall_of_follow ?_⟩, dot⟩
  intro less
  rw [less] at operators
  cases operators

/-- A sign that continues no expression ends one. -/
lemma endsExpression_sign {k : Token.Kind} (firm : isFirm k) (h : continuesExpression k = false) :
    EndsExpression (sign k :: rest) := by
  rw [EndsExpression, follow_sign firm]
  exact h

/-- A sign that opens nothing and is no `<` ends a link. -/
lemma endsLink_sign {k : Token.Kind} (firm : isFirm k) (bracket : k ≠ .leftBracket)
    (paren : k ≠ .leftParen) (less : k ≠ .less) : EndsLink (sign k :: rest) := by
  have following : follow (sign k :: rest) = k := follow_sign firm
  rw [← following] at bracket paren less
  exact ⟨bracket, paren, typeArgumentsBeforeCall_of_follow less⟩


/-! ## Texts of terms -/

section Texts

variable (text : Expression → List Lexeme)

/-- A link as lexemes, with the expressions inside of it written as given. -/
def linkText : Link → List Lexeme
  | .name identifier => [.name identifier.span]
  | .index identifier index _ =>
    .name identifier.span :: sign .leftBracket :: (text index ++ [sign .rightBracket])
  | .call identifier types arguments _ =>
    .name identifier.span ::
      (angled (types.elim [] typeForms) ++
        sign .leftParen :: (separated .comma (arguments.map text) ++ [sign .rightParen]))

/-- A chain as lexemes. -/
def chainText (path : Chain) : List Lexeme :=
  separated .dot (path.links.map (linkText text))

/-- A term that is no operation as lexemes. -/
def termText : Expr → List Lexeme
  | .chain path => chainText text path
  | .literal kind span _ => [⟨kind.sign, span.content⟩]
  | .new _ path => sign .kwNew :: chainText text path
  | .newArray _ element => sign .kwNew :: sign .leftBracket :: (text element ++ [sign .rightBracket])
  | .nothing span => [⟨.nothing, span.content⟩]
  | .binary .. | .unary .. | .missing _ => []

variable {text}

/-- The name of a well-formed link can be that of a link. -/
lemma isLinkName_of_wellFormed {link : Link} (wf : link.wellFormed) :
    isLinkName (nameKind link.identifier.span.content) := by
  cases link with
  | name identifier =>
    rw [show nameKind (Link.name identifier).identifier.span.content = .identifier from of_decide_eq_true wf]
    rfl
  | index identifier index close =>
    simp only [Link.wellFormed, Bool.and_eq_true] at wf
    exact wf.1
  | call identifier types arguments close =>
    simp only [Link.wellFormed, Bool.and_eq_true] at wf
    exact wf.1.1

/-- A link starts with its name. -/
lemma opens_linkText {link : Link} (wf : link.wellFormed) : Opens isLinkName (linkText text link) := by
  have name := isLinkName_of_wellFormed wf
  cases link <;> exact ⟨_, _, rfl, name⟩

/-- A chain starts with the name of its first link. -/
lemma opens_chainText {path : Chain} (wf : path.wellFormed) : Opens isLinkName (chainText text path) := by
  obtain ⟨nonempty, wf⟩ := Chain.links_of_wellFormed wf
  obtain ⟨links, span, type⟩ := path
  obtain ⟨link, rest, rfl⟩ := List.exists_cons_of_ne_nil nonempty
  exact opens_separated (opens_linkText (wf link List.mem_cons_self))

/-- A term starts with a lexeme that is not trivia, closes nothing and is no operator. -/
lemma opens_termText {e : Expr} (primary : e.isPrimary) (wf : e.wellFormed) :
    Opens startsTerm (termText text e) := by
  cases e with
  | chain path => exact (opens_chainText wf).mono startsTerm_of_isLinkName
  | literal kind span type =>
    refine ⟨_, _, rfl, ?_⟩
    cases kind <;> rfl
  | new keyword path => exact ⟨_, _, rfl, rfl⟩
  | newArray keyword element => exact ⟨_, _, rfl, rfl⟩
  | nothing span => exact ⟨_, _, rfl, rfl⟩
  | binary | unary | missing => cases primary

/-- A move in front of a name that can be that of a link stops on it. -/
lemma firm_of_isLinkName {text : List Lexeme} (opens : Opens isLinkName text) : Opens isFirm text :=
  opens.mono fun k name => isFirm_of_startsExpression k (startsExpression_of_isLinkName k name)

/-- The search for the end of type arguments is not decided in a link if it is not in what is inside of it. -/
lemma defers_linkText {link : Link} (wf : link.wellFormed) (inner : ∀ e ∈ link.inner, Defers (text e)) :
    Defers (linkText text link) := by
  have name : Defers [Lexeme.name link.identifier.span] :=
    (balanced_name (isLinkName_of_wellFormed wf)).defers
  cases link with
  | name identifier => exact name
  | index identifier index close =>
    have index : Defers (text index) := inner index List.mem_cons_self
    have opening : Defers [sign .leftBracket] := (balanced_part rfl).defers
    have closing : Defers [sign .rightBracket] := (balanced_part rfl).defers
    exact name.append (opening.append (index.append closing))
  | call identifier types arguments close =>
    simp only [Link.wellFormed, Bool.and_eq_true] at wf
    have angles : Balanced (angled (types.elim [] typeForms)) := by
      refine balanced_angled fun form mem => ?_
      cases types with
      | none => cases mem
      | some types =>
        simp only [typeArgumentsWellFormed, Option.all_some, Bool.and_eq_true] at wf
        exact balanced_types types wf.1.2.2 form mem
    -- Behind the type arguments stands the parenthesis that ends the search.
    exact name.append (angles.defers.append (defers_of_stops ⟨_, _, rfl, rfl⟩))

/-- The search is not decided in a chain if it is not in what is inside of its links. -/
lemma defers_chainText {path : Chain} (wf : path.wellFormed) (inner : ∀ e ∈ path.inner, Defers (text e)) :
    Defers (chainText text path) := by
  obtain ⟨nonempty, wf⟩ := Chain.links_of_wellFormed wf
  have links : ∀ link ∈ path.links, Defers (linkText text link) := fun link mem =>
    defers_linkText (wf link mem) fun e inside => inner e (List.mem_flatMap.mpr ⟨link, mem, inside⟩)
  obtain ⟨list, span, type⟩ := path
  obtain ⟨link, rest, rfl⟩ := List.exists_cons_of_ne_nil nonempty
  cases rest with
  | nil => exact links link List.mem_cons_self
  | cons second rest =>
    exact (links link List.mem_cons_self).append (defers_of_stops ⟨_, _, rfl, rfl⟩)

/-- The search is not decided in a term if it is not in what is inside of it. -/
lemma defers_termText {e : Expr} (primary : e.isPrimary) (wf : e.wellFormed)
    (inner : ∀ x ∈ e.inner, Defers (text x)) : Defers (termText text e) := by
  cases e with
  | chain path => exact defers_chainText wf inner
  | literal kind span type =>
    refine defers_of_stops ⟨_, _, rfl, ?_⟩
    cases kind <;> rfl
  | new keyword path => exact defers_of_stops ⟨_, _, rfl, rfl⟩
  | newArray keyword element => exact defers_of_stops ⟨_, _, rfl, rfl⟩
  | nothing span => exact (balanced_part rfl).defers
  | binary | unary | missing => cases primary

end Texts

/-- The name of a link is read as it is written. -/
lemma bare_unbound {identifier : Identifier} (name : isLinkName (nameKind identifier.span.content))
    (h : s.Shows (.name identifier.span :: rest)) :
    (Identifier.unbound s.token.span).bare = identifier.bare := by
  have leaf : (nameKind identifier.span.content).isLeaf := by
    revert name
    cases nameKind identifier.span.content <;> first | (intro; rfl) | nofun
  exact congrArg Identifier.unbound (h.bare leaf rfl)

/-- What follows the name of a call is recognised as that of a call. -/
lemma recognisesCall (rest : List Lexeme) {types : Option (List TypeRef)}
    (wf : typeArgumentsWellFormed types) {text : List Lexeme}
    (e : text = angled (types.elim [] typeForms) ++ sign .leftParen :: rest) :
    follow text ≠ .leftBracket ∧
      (follow text = .leftParen ∨ typeArgumentsBeforeCall (ahead text)) := by
  subst e
  cases types with
  | none =>
    refine ⟨?_, .inl (follow_sign rfl)⟩
    exact ne_of_eq_of_ne (follow_sign rfl) (by decide)
  | some types =>
    simp only [typeArgumentsWellFormed, Option.all_some, Bool.and_eq_true, Bool.not_eq_true',
      List.isEmpty_eq_false_iff] at wf
    refine ⟨?_, .inr (typeArgumentsBeforeCall_angled wf.1 wf.2)⟩
    rw [Option.elim_some, angled_of_ne_nil _ (by simpa [typeForms_eq_map] using wf.1), List.cons_append,
      follow_sign rfl]
    decide

/-- Whether a chain starts with brackets can be seen without spans. -/
lemma startsWithBrackets_bare (chain : Chain) :
    chain.bare.startsWithBrackets = chain.startsWithBrackets := by
  obtain ⟨links, span, type⟩ := chain
  cases links with
  | nil => rfl
  | cons link rest => cases link <;> rfl

/-- The sign of a literal stands for its kind. -/
lemma literalKind?_sign (kind : LiteralKind) : literalKind? kind.sign = some kind := by
  cases kind <;> rfl

/-! ## Styles -/

/-- A way of writing the expressions inside of links. -/
structure Style where
  /-- The expressions that are written in this way. -/
  Fits : Expression → Prop
  text : Expression → List Lexeme
  /-- Whether the search for the end of type arguments has to fail behind every expression. -/
  settled : Prop
  opens : ∀ e, Fits e → Opens startsExpression (text e)
  defers : settled → ∀ e, Fits e → Defers (text e)

namespace Style

variable (style : Style)

/-- Behind an expression the search fails if it has to. -/
def Settles (rest : List Lexeme) : Prop :=
  style.settled → Settled rest

/-- A routine parses the text of every expression that is shorter than a bound, in front of what does not
continue it. -/
def Undoes (expression : Parser Expression) (bound : Nat) : Prop :=
  ∀ (e : Expression) (rest : List Lexeme) (s : State), style.Fits e → (style.text e).length < bound →
    EndsExpression rest → style.Settles rest → s.Shows (style.text e ++ rest) →
      Gives expression s fun r t => r.bare = e.bare ∧ t.Behind rest

/-- A routine parses all of some expressions from their forms up to a length, in front of what does not continue
them. -/
def UndoesForms (Fits : Expr → Prop) (form : Expr → List Lexeme) (operand : Parser Expr)
    (bound : Nat) : Prop :=
  ∀ (e : Expr) (rest : List Lexeme) (s : State), Fits e → (form e).length ≤ bound →
    EndsChain rest → style.Settles rest → s.Shows (form e ++ rest) →
      Gives operand s fun r t => r.bare = e.bare ∧ t.Behind rest

variable {style}

/-- The search fails behind what stops it. -/
lemma settles_sign {k : Token.Kind} (stops : stopsSearch k) : style.Settles (sign k :: rest) :=
  fun _ => settled_of_stops ⟨_, _, rfl, stops⟩

/-- The search fails behind a closing bracket if it does so behind what follows it. -/
lemma Settles.bracket (h : style.Settles rest) : style.Settles (sign .rightBracket :: rest) :=
  fun must => (h must).part rfl

/-- The search fails behind a comma in the arguments of a call, as the parenthesis stops it. -/
lemma settles_comma {arguments : List Expression} (fits : ∀ argument ∈ arguments, style.Fits argument) :
    style.Settles (sign .comma :: (separated .comma (arguments.map style.text) ++ sign .rightParen :: rest)) := by
  intro must
  have defers : Defers (separated .comma (arguments.map style.text)) := by
    refine defers_separated rfl (List.forall_mem_map.mpr fun argument mem => ?_)
    exact style.defers must argument (fits argument mem)
  exact (defers.settled (settled_of_stops ⟨_, _, rfl, rfl⟩)).part rfl

/-- A move in front of an expression stops on its first lexeme. -/
lemma firm {e : Expression} (fits : style.Fits e) : Opens isFirm (style.text e) :=
  (style.opens e fits).mono isFirm_of_startsExpression

/-! ## Links -/

/-- An index in brackets is parsed from its text. -/
lemma indexLink_gives (undoes : style.Undoes expression bound) {identifier : Identifier} {index : Expression}
    {close : Span} (wf : (Link.index identifier index close).wellFormed) (fits : style.Fits index)
    (enough : (linkText style.text (.index identifier index close)).length ≤ bound) (settles : style.Settles rest)
    (h : s.Shows (linkText style.text (.index identifier index close) ++ rest)) :
    Gives (indexLink expression) s fun r t =>
      r.bare = (Link.index identifier index close).bare ∧ t.Behind rest := by
  have name : isLinkName (nameKind identifier.span.content) := isLinkName_of_wellFormed wf
  simp only [linkText, List.cons_append, List.append_assoc, List.nil_append, List.length_cons,
    List.length_append] at h enough
  have bracket := h.behind.onto rfl
  have firm := (firm fits).append (sign .rightBracket :: rest)
  have inside := bracket.behind.advanced firm
  simp only [indexLink, gives_bind, gives_span, gives_advance, gives_peek]
  rw [if_neg]
  · simp only [gives_bind, gives_advance]
    have ends : EndsExpression (sign .rightBracket :: rest) := endsExpression_sign rfl rfl
    refine (undoes index _ _ fits (by omega) ends settles.bracket inside).mono ?_
    rintro r t ⟨same, behind⟩
    rw [gives_closeWith (behind.peek.trans (follow_sign rfl)), gives_pure, Link.bare, Link.bare, same,
      bare_unbound name h]
    exact ⟨rfl, (behind.onto rfl).behind⟩
  · rw [bracket.behind.peek, follow_of_opens firm]
    exact ((style.opens index fits).append _).headKind_ne rfl

/-- Arguments of a call are parsed from their text up to the closing parenthesis. -/
lemma argumentList_gives (undoes : style.Undoes expression bound) {arguments : List Expression}
    {rounds : Nat} (nonempty : arguments ≠ []) (enough : arguments.length ≤ rounds)
    (fit : ∀ argument ∈ arguments, style.Fits argument ∧ (style.text argument).length < bound)
    (h : s.Shows (separated .comma (arguments.map style.text) ++ sign .rightParen :: rest)) :
    Gives (argumentList expression rounds) s fun list t =>
      list.map Expression.bare = arguments.map Expression.bare ∧
        t.Shows (sign .rightParen :: rest) := by
  induction arguments generalizing rounds s with
  | nil => exact absurd rfl nonempty
  | cons first arguments ih =>
    obtain ⟨rounds, rfl⟩ := Nat.exists_eq_add_of_lt (Nat.lt_of_lt_of_le (Nat.succ_pos _) enough)
    rw [Nat.zero_add] at enough ⊢
    obtain ⟨fits, short⟩ := fit first List.mem_cons_self
    simp only [argumentList, gives_bind, gives_peek]
    cases arguments with
    | nil =>
      have ends : EndsExpression (sign .rightParen :: rest) := endsExpression_sign rfl rfl
      refine (undoes first _ s fits short ends (settles_sign rfl) h).mono ?_
      rintro r t ⟨same, behind⟩
      rw [behind.peek, follow_sign rfl]
      exact ⟨congrArg (· :: []) same, behind.onto rfl⟩
    | cons second arguments =>
      rw [List.map_cons, List.map_cons, separated_cons_cons, List.append_assoc, List.cons_append,
        ← List.map_cons] at h
      have ends : EndsExpression (sign .comma ::
          (separated .comma ((second :: arguments).map style.text) ++
            sign .rightParen :: rest)) := endsExpression_sign rfl rfl
      have fits : ∀ argument ∈ second :: arguments, style.Fits argument := fun argument mem =>
        (fit argument (List.mem_cons_of_mem first mem)).1
      refine (undoes first _ s (fit first List.mem_cons_self).1 short ends (settles_comma fits) h).mono ?_
      rintro r t ⟨same, behind⟩
      rw [behind.peek, follow_sign rfl]
      simp only [gives_bind, gives_advance]
      have firm := firm (fits second List.mem_cons_self)
      have next := (behind.onto rfl).behind.advanced ((opens_separated firm).append _)
      refine (ih (by simp) (by simpa using enough) (fun argument mem => fit argument (.tail _ mem))
        next).mono ?_
      rintro list u ⟨others, closed⟩
      exact ⟨List.cons_eq_cons.mpr ⟨same, others⟩, closed⟩

/-- The arguments of a call in parentheses are parsed from their text. -/
lemma callArguments_gives (undoes : style.Undoes expression bound) {arguments : List Expression}
    (fits : ∀ argument ∈ arguments, style.Fits argument)
    (enough : (separated .comma (arguments.map style.text)).length < bound)
    (h : s.Shows (sign .leftParen ::
      (separated .comma (arguments.map style.text) ++ sign .rightParen :: rest))) :
    Gives (callArguments expression bound) s fun r t =>
      r.1.map Expression.bare = arguments.map Expression.bare ∧ t.Behind rest := by
  simp only [callArguments, gives_bind, gives_peek, h.behind.peek]
  by_cases empty : arguments = []
  · subst empty
    rw [List.map_nil, separated, List.nil_append] at h ⊢
    rw [follow_sign rfl, if_pos rfl]
    exact ⟨rfl, (h.behind.onto rfl).behind⟩
  · obtain ⟨first, others, rfl⟩ := List.exists_cons_of_ne_nil empty
    have opens : Opens startsExpression (separated .comma ((first :: others).map style.text) ++
        sign .rightParen :: rest) :=
      (opens_separated (style.opens first (fits first List.mem_cons_self))).append _
    have firm := opens.mono isFirm_of_startsExpression
    have count := length_le_separated style.text .comma
      fun argument mem => (style.opens argument (fits argument mem)).ne_nil
    rw [if_neg]
    · simp only [gives_bind, gives_advance, gives_span, gives_pure]
      refine (argumentList_gives undoes empty (by omega) (fun argument mem => ⟨fits argument mem, ?_⟩)
        (h.behind.advanced firm)).mono fun list t read => ⟨read.1, read.2.behind⟩
      have short := length_form_le_separated style.text .comma mem
      omega
    · rw [follow_of_opens firm]
      exact opens.headKind_ne rfl

/-- A call is parsed from its text. -/
lemma callLink_gives (undoes : style.Undoes expression bound) {identifier : Identifier}
    {types : Option (List TypeRef)} {arguments : List Expression} {close : Span}
    (wf : (Link.call identifier types arguments close).wellFormed)
    (fits : ∀ argument ∈ arguments, style.Fits argument)
    (enough : (linkText style.text (.call identifier types arguments close)).length ≤ bound)
    (h : s.Shows (linkText style.text (.call identifier types arguments close) ++ rest)) :
    Gives (callLink expression bound) s fun r t =>
      r.bare = (Link.call identifier types arguments close).bare ∧ t.Behind rest := by
  simp only [Link.wellFormed, Bool.and_eq_true] at wf
  obtain ⟨⟨name, wfTypes⟩, -⟩ := wf
  simp only [linkText, List.cons_append, List.append_assoc, List.nil_append, List.length_cons,
    List.length_append] at h enough
  have named := bare_unbound name h
  -- the arguments come last, whether or not there are types
  have last : ∀ {read : Option (List TypeRef)} {t : State},
      read.map bareTypes = types.map bareTypes →
      t.Shows (sign .leftParen ::
        (separated .comma (arguments.map style.text) ++ sign .rightParen :: rest)) →
      Gives (do
        expect .leftParen .callWithoutOpening
        let list ← callArguments expression bound
        return Link.call (.unbound s.token.span) read list.1 list.2) t fun r u =>
          r.bare = (Link.call identifier types arguments close).bare ∧ u.Behind rest := by
    intro read t same shows
    rw [gives_bind, gives_expect shows.sign, gives_bind]
    refine (callArguments_gives undoes fits (by omega) shows).mono ?_
    rintro r u ⟨others, behind⟩
    rw [gives_pure, Link.bare, Link.bare, bareArguments_eq_map, bareArguments_eq_map, named, same,
      others]
    exact ⟨rfl, behind⟩
  simp only [callLink, gives_bind, gives_span, gives_advance, gives_standsOn]
  cases types with
  | none =>
    have opening := h.behind.onto rfl
    rw [opening.sign, if_neg (by decide)]
    exact last rfl opening
  | some types =>
    simp only [typeArgumentsWellFormed, Option.all_some, Bool.and_eq_true, Bool.not_eq_true',
      List.isEmpty_eq_false_iff, typesWellFormed_eq_all, List.all_eq_true] at wfTypes
    have text := angled_of_ne_nil (typeForms types) (by simpa [typeForms_eq_map] using wfTypes.1)
    have less : (s.moved .insensitive).Shows (angled (typeForms types) ++ sign .leftParen ::
        (separated .comma (arguments.map style.text) ++ sign .rightParen :: rest)) :=
      h.behind.advanced (by rw [Option.elim_some, text]; exact ⟨_, _, rfl, rfl⟩)
    have kind : (s.moved .insensitive).token.kind = .less := by
      rw [less.kind, text]
      rfl
    rw [kind, decide_eq_true rfl, if_pos rfl]
    simp only [gives_bind, gives_advance, gives_pure]
    refine (typeArgumentsOf_gives wfTypes.1 wfTypes.2 ?_ (undoesTypes_typeRef bound) less).mono ?_
    · rw [Option.elim_some] at enough
      omega
    · rintro list t ⟨same, closed⟩
      refine last ?_ (closed.behind.onto rfl)
      rw [Option.map_some, Option.map_some, bareTypes_eq_map, bareTypes_eq_map, same]

/-- A link is parsed from its text. -/
lemma link?_gives (undoes : style.Undoes expression bound) {link : Link} (wf : link.wellFormed)
    (fits : ∀ e ∈ link.inner, style.Fits e) (enough : (linkText style.text link).length ≤ bound)
    (ends : EndsLink rest) (settles : style.Settles rest)
    (h : s.Shows (linkText style.text link ++ rest)) :
    Gives (link? expression bound) s fun r t => (∃ l, r = some l ∧ l.bare = link.bare) ∧ t.Behind rest := by
  have opens : Opens isLinkName (linkText style.text link) := opens_linkText wf
  have name := (opens.append rest).headKind
  rw [← h.kind] at name
  simp only [link?, gives_bind, gives_kind, gives_peek, name, Bool.true_and, decide_eq_true_eq]
  cases link with
  | name identifier =>
    have kind : nameKind identifier.span.content = .identifier := of_decide_eq_true wf
    have behind : s.Behind rest := h.behind
    rw [behind.peek, if_neg ends.bracket]
    simp only [gives_bind, gives_genericCallAhead]
    rw [behind.lookahead, ends.angle, Bool.or_false, if_neg (by simpa using ends.paren),
      if_pos (h.kind.trans kind), gives_bind, gives_span, gives_pure]
    refine ⟨⟨_, rfl, ?_⟩, behind⟩
    exact congrArg Link.name (bare_unbound (kind ▸ rfl) h)
  | index identifier index close =>
    rw [if_pos (h.behind.peek.trans (follow_sign rfl)), gives_bind]
    have fits : style.Fits index := fits index List.mem_cons_self
    exact (indexLink_gives undoes wf fits enough settles h).mono fun r t read => ⟨⟨r, rfl, read.1⟩, read.2⟩
  | call identifier types arguments close =>
    have types := wf
    simp only [Link.wellFormed, Bool.and_eq_true] at types
    obtain ⟨bracket, call⟩ := recognisesCall (separated .comma (arguments.map style.text) ++
      sign .rightParen :: rest) types.1.2 rfl
    have behind := h.behind
    simp only [List.append_eq, List.append_assoc, List.cons_append, List.nil_append] at behind
    rw [behind.peek, if_neg bracket]
    simp only [gives_bind, gives_genericCallAhead]
    rw [behind.lookahead, if_pos (by simpa using call), gives_bind]
    exact (callLink_gives undoes wf fits enough h).mono fun r t read => ⟨⟨r, rfl, read.1⟩, read.2⟩

/-! ## Chains -/

/-- Links with dots are parsed from their text. -/
lemma links?_gives (undoes : style.Undoes expression bound) {links : List Link} {rounds : Nat}
    (nonempty : links ≠ []) (enough : links.length ≤ rounds)
    (wf : ∀ link ∈ links, link.wellFormed) (fits : ∀ link ∈ links, ∀ e ∈ link.inner, style.Fits e)
    (short : ∀ link ∈ links, (linkText style.text link).length ≤ bound) (ends : EndsChain rest)
    (settles : style.Settles rest) (h : s.Shows (separated .dot (links.map (linkText style.text)) ++ rest)) :
    Gives (links? (link? expression bound) rounds) s fun r t =>
      (∃ list, r = some list ∧ list.map Link.bare = links.map Link.bare) ∧ t.Behind rest := by
  induction links generalizing rounds s with
  | nil => exact absurd rfl nonempty
  | cons first links ih =>
    obtain ⟨rounds, rfl⟩ := Nat.exists_eq_add_of_lt (Nat.lt_of_lt_of_le (Nat.succ_pos _) enough)
    rw [Nat.zero_add] at enough ⊢
    have wfFirst := wf first List.mem_cons_self
    have fitsFirst := fits first List.mem_cons_self
    have shortFirst := short first List.mem_cons_self
    simp only [links?, gives_bind]
    cases links with
    | nil =>
      refine (link?_gives undoes wfFirst fitsFirst shortFirst ends.toEndsLink settles h).mono ?_
      rintro _ t ⟨⟨l, rfl, same⟩, behind⟩
      simp only [gives_bind, gives_peek]
      rw [behind.peek, if_pos ends.dot]
      exact ⟨⟨[l], rfl, congrArg (· :: []) same⟩, behind⟩
    | cons second links =>
      rw [List.map_cons, List.map_cons, separated_cons_cons, List.append_assoc, List.cons_append,
        ← List.map_cons] at h
      have dot : EndsLink (sign .dot :: (separated .dot ((second :: links).map (linkText style.text)) ++ rest)) :=
        endsLink_sign rfl (by decide) (by decide) (by decide)
      refine (link?_gives undoes wfFirst fitsFirst shortFirst dot (settles_sign rfl) h).mono ?_
      rintro _ t ⟨⟨l, rfl, same⟩, behind⟩
      simp only [gives_bind, gives_peek]
      rw [behind.peek, if_neg (by simpa using follow_sign rfl)]
      simp only [gives_bind, gives_advance]
      have firm : Opens isFirm (linkText style.text second) :=
        firm_of_isLinkName (opens_linkText (wf second (by simp)))
      have next := (behind.onto rfl).behind.advanced ((opens_separated firm).append rest)
      refine (ih (by simp) (by simpa using enough) (fun link mem => wf link (.tail _ mem))
        (fun link mem => fits link (.tail _ mem)) (fun link mem => short link (.tail _ mem)) next).mono ?_
      rintro _ u ⟨⟨list, rfl, others⟩, behind⟩
      exact ⟨⟨l :: list, rfl, List.cons_eq_cons.mpr ⟨same, others⟩⟩, behind⟩

/-- A chain is parsed from its text; it keeps the span of its first token. -/
lemma chain?_gives (undoes : style.Undoes expression bound) {path : Chain} (wf : path.wellFormed)
    (fits : ∀ e ∈ path.inner, style.Fits e) (enough : (chainText style.text path).length ≤ bound)
    (ends : EndsChain rest) (settles : style.Settles rest)
    (h : s.Shows (chainText style.text path ++ rest)) :
    Gives (chain? expression bound) s fun r t =>
      (∃ c, r = some c ∧ c.bare = path.bare ∧ c.span = s.token.span) ∧ t.Behind rest := by
  obtain ⟨nonempty, wf⟩ := Chain.links_of_wellFormed wf
  obtain ⟨links, span, type⟩ := path
  rw [chainText] at h enough
  have count := length_le_separated (linkText style.text) .dot
    fun link mem => (opens_linkText (wf link mem)).ne_nil
  simp only [chain?, gives_bind, gives_span]
  refine (links?_gives undoes nonempty (by omega) wf (fun link mem e inside => ?_) (fun link mem => ?_) ends
    settles h).mono ?_
  · exact fits e (List.mem_flatMap.mpr ⟨link, mem, inside⟩)
  · have short := length_form_le_separated (linkText style.text) .dot mem
    omega
  · rintro _ t ⟨⟨list, rfl, same⟩, behind⟩
    refine ⟨⟨_, rfl, ?_, rfl⟩, behind⟩
    rw [Chain.bare, Chain.bare, bareLinks_eq_map, bareLinks_eq_map, same]

/-! ## Terms -/

/-- A new value is parsed from its text. -/
lemma newTerm_gives_new (undoes : style.Undoes expression bound) {keyword : Span} {path : Chain}
    (wf : (Expr.new keyword path).wellFormed) (fits : ∀ e ∈ path.inner, style.Fits e)
    (enough : (termText style.text (.new keyword path)).length ≤ bound)
    (ends : EndsChain rest) (settles : style.Settles rest)
    (h : s.Shows (termText style.text (.new keyword path) ++ rest)) :
    Gives (newTerm expression bound) s fun r t =>
      r.bare = (Expr.new keyword path).bare ∧ t.Behind rest := by
  simp only [Expr.wellFormed, Bool.and_eq_true] at wf
  rw [termText, List.length_cons] at enough
  rw [termText, List.cons_append] at h
  have inside := h.behind.advanced ((firm_of_isLinkName (opens_chainText wf.2)).append rest)
  simp only [newTerm, gives_bind, gives_span, gives_advance, gives_standsOn]
  rw [if_neg]
  · rw [gives_bind]
    refine (chain?_gives undoes wf.2 fits (by omega) ends settles inside).mono ?_
    rintro _ t ⟨⟨c, rfl, same, -⟩, behind⟩
    have brackets : c.startsWithBrackets := by
      rw [← startsWithBrackets_bare, same, startsWithBrackets_bare]
      exact wf.1
    simp only [brackets, if_true]
    exact ⟨congrArg (Expr.new default) same, behind⟩
  · rw [inside.kind, decide_eq_true_eq]
    exact ((opens_chainText wf.2).append rest).headKind_ne rfl

/-- A new array is parsed from its text. -/
lemma newTerm_gives_newArray (undoes : style.Undoes expression bound) {keyword : Span}
    {element : Expression} (fits : style.Fits element)
    (enough : (termText style.text (.newArray keyword element)).length ≤ bound) (settles : style.Settles rest)
    (h : s.Shows (termText style.text (.newArray keyword element) ++ rest)) :
    Gives (newTerm expression bound) s fun r t =>
      r.bare = (Expr.newArray keyword element).bare ∧ t.Behind rest := by
  simp only [termText, List.length_cons, List.length_append, List.cons_append, List.append_assoc,
    List.nil_append] at enough h
  have bracket := h.behind.onto rfl
  have inside := bracket.behind.advanced ((firm fits).append _)
  simp only [newTerm, gives_bind, gives_span, gives_advance, gives_standsOn]
  rw [bracket.sign, decide_eq_true rfl, if_pos rfl]
  simp only [gives_bind, gives_advance, gives_discard]
  have ends : EndsExpression (sign .rightBracket :: rest) := endsExpression_sign rfl rfl
  refine (undoes element _ _ fits (by omega) ends settles.bracket inside).mono ?_
  rintro r t ⟨same, behind⟩
  rw [gives_closeWith (behind.peek.trans (follow_sign rfl)), gives_pure, Expr.bare, Expr.bare, same]
  exact ⟨rfl, (behind.onto rfl).behind⟩

/-- A term that is no operation is parsed from its text. -/
lemma term_gives (undoes : style.Undoes expression bound) {e : Expr} (primary : e.isPrimary)
    (wf : e.wellFormed) (fits : ∀ x ∈ e.inner, style.Fits x) (enough : (termText style.text e).length ≤ bound)
    (ends : EndsChain rest) (settles : style.Settles rest)
    (h : s.Shows (termText style.text e ++ rest)) :
    Gives (term expression bound) s fun r t => r.bare = e.bare ∧ t.Behind rest := by
  unfold Grammar.term
  simp only [gives_bind, gives_span, gives_kind]
  cases e with
  | chain path =>
    have found := chain?_gives undoes wf fits enough ends settles h
    have name : isLinkName s.token.kind := h.kind ▸ ((opens_chainText wf).append rest).headKind
    rcases eq_of_isLinkName name with kind | kind <;>
    · rw [kind]
      simp only [literalKind?, gives_bind]
      refine found.mono ?_
      rintro _ t ⟨⟨c, rfl, same, -⟩, behind⟩
      exact ⟨congrArg Expr.chain same, behind⟩
  | literal kind span type =>
    have written : s.token.span.bare = span.bare := h.bare (by cases kind <;> rfl) rfl
    have sign : s.token.kind = kind.sign := h.kind
    rw [sign, literalKind?_sign]
    simp only [gives_pure, Expr.bare, written, true_and]
    exact h.behind
  | new keyword path =>
    rw [h.kind]
    exact newTerm_gives_new undoes wf fits enough ends settles h
  | newArray keyword element =>
    rw [h.kind]
    have fits : style.Fits element := fits element List.mem_cons_self
    exact newTerm_gives_newArray undoes fits enough settles h
  | nothing span =>
    rw [h.kind]
    exact ⟨congrArg Expr.nothing (h.bare rfl rfl), h.behind⟩
  | binary | unary | missing => cases primary

/-! ## Operations -/

/-- Operators before a term are parsed from their text, which is that of the operand behind their sign. -/
lemma unaryOperations_gives {Fits : Expr → Prop} {form : Expr → List Lexeme} {term : Parser Expr}
    (operand : ∀ operator span e type, Fits (.unary operator span e type) →
      Fits e ∧ form (.unary operator span e type) = sign operator.sign :: form e)
    (opens : ∀ e, Fits e → Opens startsExpression (form e))
    (opensTerm : ∀ e, Fits e → e.isTerm → Opens startsTerm (form e))
    (undoes : style.UndoesForms (fun e => e.isTerm ∧ Fits e) form term bound) {rounds : Nat}
    (le : rounds ≤ bound) :
    style.UndoesForms Fits form (unaryOperations term (rounds + 1)) rounds := by
  induction rounds with
  | zero =>
    intro e rest s fits enough
    exact absurd (List.length_eq_zero_iff.mp (Nat.le_zero.mp enough)) (opens e fits).ne_nil
  | succ rounds ih =>
    intro e rest s fits enough ends settles h
    unfold unaryOperations
    simp only [gives_bind, gives_kind]
    cases term : e.isTerm with
    | true =>
      have none : unaryOperator? s.token.kind = none := by
        have starts := ((opensTerm e fits term).append rest).headKind
        rw [← h.kind] at starts
        exact unaryOperator?_of_startsTerm starts
      rw [none]
      exact undoes e rest s ⟨term, fits⟩ (by omega) ends settles h
    | false =>
      cases e with
      | unary operator span inner type =>
        obtain ⟨fits, text⟩ := operand operator span inner type fits
        rw [text, List.cons_append] at h
        rw [text, List.length_cons] at enough
        rw [h.sign, unaryOperator?_sign]
        simp only [gives_bind, gives_span, gives_advance]
        -- the operand has one lexeme less, and is taken in the rounds that are left
        have firm := (opens inner fits).mono isFirm_of_startsExpression
        refine (ih (by omega) inner rest _ fits (by omega) ends settles
          (h.behind.advanced (firm.append rest))).mono ?_
        rintro r t ⟨same, behind⟩
        exact ⟨congrArg (Expr.unary operator default · none) same, behind⟩
      | _ => cases term

end Style

/-- What is in parentheses is parsed as a term if it is parsed in front of the closing one. -/
lemma term_gives_of_parentheses {e : Expr} {text : List Lexeme} (firm : Opens isFirm text)
    (undoes : ∀ s : State, s.Shows (text ++ sign .rightParen :: rest) →
      Gives expression s fun r t => r.root.bare = e.bare ∧ t.Behind (sign .rightParen :: rest))
    (h : s.Shows (sign .leftParen :: (text ++ sign .rightParen :: rest))) :
    Gives (term expression bound) s fun r t => r.bare = e.bare ∧ t.Behind rest := by
  unfold Grammar.term
  simp only [gives_bind, gives_span, gives_kind]
  rw [h.sign]
  simp only [literalKind?, gives_bind, gives_advance, gives_discard]
  refine (undoes _ (h.behind.advanced (firm.append _))).mono ?_
  rintro r t ⟨same, behind⟩
  rw [gives_closeWith (behind.peek.trans (follow_sign rfl)), gives_pure, same]
  exact ⟨rfl, (behind.onto rfl).behind⟩

/-- Where no operator of a level follows, the operand so far is all. -/
lemma operationsFrom_done {operand : Parser Expr} {level : Level} {rounds : Nat} {left : Expr}
    {post : Expr → State → Prop} (h : s.Behind rest) (done : level (follow rest) = none) :
    Gives (operationsFrom operand level rounds left) s post ↔ post left s := by
  cases rounds with
  | zero => exact Iff.rfl
  | succ rounds =>
    simp only [operationsFrom, gives_bind, gives_peek]
    rw [h.peek, done]
    exact Iff.rfl

/-- What does not continue an expression is no operator of any level. -/
lemma EndsExpression.operators (h : EndsExpression rest) :
    ∀ level ∈ Level.all, level (follow rest) = none := by
  rw [EndsExpression, continuesExpression] at h
  simp only [Bool.or_eq_false_iff, List.any_eq_false] at h
  intro level mem
  simpa using h.2 level mem

end ArrowScript.Grammar
