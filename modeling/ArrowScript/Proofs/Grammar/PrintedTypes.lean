import ArrowScript.Proofs.Grammar.Showing

/-!
# Parsing printed types

Lists with commas, and written types among them, are parsed from their printed text as what was printed.
Every routine starts on the first lexeme of that text and ends on its last one; what follows must not
continue the text.
-/

namespace ArrowScript.Grammar
open Lexeme

variable {α γ : Type} {s : State} {rest : List Lexeme} {form : α → List Lexeme} {bare : α → γ}

/-! ## Lists with commas -/

/-- An element of a list is parsed from its text in front of one of some signs. -/
def ReadsBefore (signs : Token.Kind → Prop) (element : Parser α) (form : α → List Lexeme)
    (bare : α → γ) (item : α) : Prop :=
  ∀ k rest s, signs k → s.Shows (form item ++ sign k :: rest) →
    Gives element s fun a t => bare a = bare item ∧ t.Behind (sign k :: rest)

/-- A list starts with its first element. -/
lemma opens_separated {kinds : Token.Kind → Bool} {k : Token.Kind} {first : α} {items : List α}
    (opens : Opens kinds (form first)) : Opens kinds (separated k ((first :: items).map form)) := by
  cases items with
  | nil => exact opens
  | cons second items => exact opens.append _

/-- A list with commas is parsed from its text up to the closing token. -/
lemma commaList_gives {element : Parser α} {closing : Token.Kind}
    {unseparated unclosed : SyntaxProblem} (firm : isFirm closing) (other : closing ≠ .comma)
    {items : List α} {bound : Nat} (nonempty : items ≠ []) (enough : items.length ≤ bound)
    (reads : ∀ item ∈ items, Opens isFirm (form item) ∧
      ReadsBefore (fun k => k = .comma ∨ k = closing) element form bare item)
    (h : s.Shows (separated .comma (items.map form) ++ sign closing :: rest)) :
    Gives (commaList element closing unseparated unclosed bound) s fun list t =>
      list.map bare = items.map bare ∧ t.Shows (sign closing :: rest) := by
  induction items generalizing bound s with
  | nil => exact absurd rfl nonempty
  | cons first items ih =>
    obtain ⟨bound, rfl⟩ := Nat.exists_eq_add_of_lt (Nat.lt_of_lt_of_le (Nat.succ_pos _) enough)
    rw [Nat.zero_add] at enough ⊢
    obtain ⟨-, read⟩ := reads first List.mem_cons_self
    simp only [commaList, gives_bind, gives_advance, gives_standsOn]
    cases items with
    | nil =>
      refine (read closing rest s (.inr rfl) h).mono ?_
      rintro a t ⟨same, behind⟩
      have closed := behind.onto firm
      rw [decide_eq_true closed.sign, if_pos rfl]
      exact ⟨congrArg (· :: []) same, closed⟩
    | cons second items =>
      rw [List.map_cons, List.map_cons, separated_cons_cons, List.append_assoc, List.cons_append,
        ← List.map_cons] at h
      refine (read .comma _ s (.inl rfl) h).mono ?_
      rintro a t ⟨same, behind⟩
      have comma := behind.onto rfl
      rw [comma.sign, decide_eq_false other.symm, if_neg Bool.false_ne_true, gives_bind,
        gives_expect comma.sign, gives_bind, gives_tryAdvance_of_shows comma, if_pos rfl, gives_bind]
      have opens := (reads second (by simp)).1
      have next := comma.behind.advanced ((opens_separated opens).append _)
      refine (ih (by simp) (by simpa using enough) (fun item mem => reads item (.tail _ mem))
        next).mono ?_
      rintro list u ⟨others, closed⟩
      exact ⟨List.cons_eq_cons.mpr ⟨same, others⟩, closed⟩

/-! ## Written types -/

/-- A text that does not continue a written type. -/
structure EndsType (rest : List Lexeme) : Prop where
  angle : follow rest ≠ .less
  bracket : headKind (landing .toLayout rest) ≠ .leftBracket

/-- The brackets of an array are parsed if they are printed. -/
lemma arrayBrackets_gives {array : Bool} (ends : EndsType rest)
    (h : s.Behind ((if array then [sign .leftBracket, sign .rightBracket] else []) ++ rest)) :
    Gives arrayBrackets s fun b t => b = array ∧ t.Behind rest := by
  cases array with
  | false =>
    simp only [arrayBrackets, gives_bind, gives_peekWith]
    rw [if_neg]
    · exact ⟨rfl, h⟩
    · rw [h.peekKind .toLayout]
      exact ends.bracket
  | true =>
    have left := h.moved .toLayout
    have right := left.behind.moved .toLayout
    simp only [arrayBrackets, gives_bind, gives_peekWith]
    rw [if_pos]
    · simp only [gives_bind, gives_discard, gives_advanceWith, gives_peekWith]
      rw [if_pos]
      · exact ⟨rfl, right.behind⟩
      · exact left.behind.peekKind .toLayout
    · exact h.peekKind .toLayout

/-- A list in angle brackets is parsed from its text. -/
lemma inAngles_gives {element : Parser α} {empty unclosed : SyntaxProblem} {items : List α}
    {bound : Nat} (nonempty : items ≠ []) (enough : items.length ≤ bound)
    (reads : ∀ item ∈ items, Opens Token.Kind.isLeaf (form item) ∧
      ReadsBefore (fun k => k = .comma ∨ k = .greater) element form bare item)
    (h : s.Shows (angled (items.map form) ++ rest)) :
    Gives (inAngles element empty unclosed bound) s fun list t =>
      list.map bare = items.map bare ∧ t.Shows (sign .greater :: rest) := by
  obtain ⟨first, others, rfl⟩ := List.exists_cons_of_ne_nil nonempty
  have opens : Opens Token.Kind.isLeaf (separated .comma ((first :: others).map form) ++
      sign .greater :: rest) :=
    (opens_separated (reads first List.mem_cons_self).1).append _
  have text : angled ((first :: others).map form) ++ rest =
      sign .less :: (separated .comma ((first :: others).map form) ++ sign .greater :: rest) := by
    rw [angled_of_ne_nil _ (by simp), List.cons_append, List.append_assoc, List.singleton_append]
  rw [text] at h
  have inside := h.behind.advanced (opens.mono isFirm_of_isLeaf)
  have leaf := opens.headKind
  rw [← inside.kind] at leaf
  simp only [inAngles, gives_bind, gives_advance, gives_standsOn]
  rw [if_neg]
  · refine commaList_gives rfl (by decide) nonempty enough (fun item mem => ?_) inside
    exact ⟨(reads item mem).1.mono isFirm_of_isLeaf, (reads item mem).2⟩
  · intro empty
    rw [of_decide_eq_true empty] at leaf
    cases leaf

/-- A written type starts with its name. -/
lemma opens_typeRef {type : TypeRef} (wf : type.wellFormed) :
    Opens Token.Kind.isTypeName type.lexemes := by
  obtain ⟨name, builtin, arguments, array, binding⟩ := type
  simp only [TypeRef.wellFormed, Bool.and_eq_true] at wf
  exact ⟨_, _, rfl, wf.1.1⟩

/-- A move in front of a written type stops on its name. -/
lemma firm_typeRef {type : TypeRef} (wf : type.wellFormed) : Opens isFirm type.lexemes :=
  (opens_typeRef wf).mono fun k name => isFirm_of_isLeaf k (isLeaf_of_isTypeName name)

/-- A sign that is neither kind of opening bracket does not continue a written type. -/
lemma endsType_sign {k : Token.Kind} (firm : isFirm k) (angle : k ≠ .less)
    (bracket : k ≠ .leftBracket) : EndsType (sign k :: rest) where
  angle := by
    rw [follow_sign firm]
    exact angle
  bracket := by
    rw [landing_of_opens .toLayout ⟨_, _, rfl, firm⟩]
    exact bracket

/-- A routine parses the text of every written type that is shorter than a bound. -/
def UndoesTypes (type : Parser TypeRef) (bound : Nat) : Prop :=
  ∀ (written : TypeRef) (rest : List Lexeme) (s : State), written.wellFormed →
    written.lexemes.length < bound → EndsType rest → s.Shows (written.lexemes ++ rest) →
      Gives type s fun r t => r.bare = written.bare ∧ t.Behind rest

/-- Type arguments are parsed from their text if each of them is. -/
lemma typeArgumentsOf_gives {type : Parser TypeRef} {arguments : List TypeRef} {bound : Nat}
    (nonempty : arguments ≠ []) (wf : ∀ argument ∈ arguments, argument.wellFormed)
    (enough : (angled (typeForms arguments)).length ≤ bound)
    (undoes : UndoesTypes type bound)
    (h : s.Shows (angled (typeForms arguments) ++ rest)) :
    Gives (typeArgumentsOf type bound) s fun list t =>
      list.map TypeRef.bare = arguments.map TypeRef.bare ∧ t.Shows (sign .greater :: rest) := by
  rw [typeForms_eq_map] at h enough
  have named : ∀ argument ∈ arguments, Opens Token.Kind.isTypeName argument.lexemes :=
    fun argument mem => opens_typeRef (wf argument mem)
  have count := length_le_separated TypeRef.lexemes .comma fun argument mem => (named argument mem).ne_nil
  rw [angled_of_ne_nil _ (by simpa using nonempty), List.length_cons, List.length_append,
    List.length_singleton] at enough
  refine inAngles_gives nonempty (by omega) (fun argument mem => ?_) h
  refine ⟨(named argument mem).mono fun k => isLeaf_of_isTypeName, ?_⟩
  intro k rest s sign shows
  have short := length_form_le_separated TypeRef.lexemes .comma mem
  have name := ((named argument mem).append (.sign k :: rest)).headKind
  rw [← shows.kind] at name
  have ends : EndsType (.sign k :: rest) := by
    rcases sign with rfl | rfl <;> exact endsType_sign rfl (by decide) (by decide)
  simp only [typeArgument, gives_bind, gives_kind]
  rw [if_pos name]
  exact undoes argument _ s (wf argument mem) (by omega) ends shows

/-- A written type is parsed from its text. -/
lemma undoesTypes_typeRef (bound : Nat) : UndoesTypes (typeRef bound) bound := by
  induction bound with
  | zero =>
    intro written rest s wf enough
    cases enough
  | succ bound ih =>
    rintro ⟨name, builtin, arguments, array, binding⟩ rest s wf enough ends h
    simp only [TypeRef.wellFormed, Bool.and_eq_true, typesWellFormed_eq_all, List.all_eq_true,
      decide_eq_true_eq] at wf
    obtain ⟨⟨named, flag⟩, wf⟩ := wf
    rw [TypeRef.lexemes] at h enough
    simp only [List.cons_append, List.append_assoc] at h
    have kind : s.token.kind = nameKind name.content := h.kind
    have written : s.token.span.bare = name.bare := h.bare (isLeaf_of_isTypeName named) rfl
    -- the brackets of an array come last, whether or not there are arguments
    have last : ∀ {list : List TypeRef} {t : State},
        list.map TypeRef.bare = arguments.map TypeRef.bare →
        t.Behind ((if array then [sign .leftBracket, sign .rightBracket] else []) ++ rest) →
        Gives arrayBrackets t fun b u =>
          TypeRef.bare ⟨s.token.span, (nameKind name.content).isBuiltinName, list, b, none⟩ =
            TypeRef.bare ⟨name, builtin, arguments, array, binding⟩ ∧ u.Behind rest := by
      intro list t same brackets
      refine (arrayBrackets_gives ends brackets).mono ?_
      rintro _ u ⟨rfl, behind⟩
      rw [TypeRef.bare, TypeRef.bare, bareTypes_eq_map, bareTypes_eq_map, written, same, flag]
      exact ⟨rfl, behind⟩
    simp only [typeRef, gives_bind, gives_kind]
    rw [kind, if_pos named]
    simp only [gives_bind, gives_kind, gives_span, gives_peek, kind, h.behind.peek]
    by_cases empty : arguments = []
    · subst empty
      have following : follow ((if array then [sign .leftBracket, sign .rightBracket] else []) ++ rest)
          ≠ .less := by
        cases array with
        | false => exact ends.angle
        | true =>
          rw [if_pos rfl, List.cons_append, follow_sign rfl]
          decide
      rw [typeForms, angled, List.nil_append, if_neg following]
      exact last rfl h.behind
    · have text := angled_of_ne_nil (typeForms arguments) (by simpa [typeForms_eq_map])
      have less := h.behind
      rw [text, List.cons_append] at less
      have less := less.onto rfl
      rw [← List.cons_append, ← text] at less
      have following : follow (angled (typeForms arguments) ++
          ((if array then [sign .leftBracket, sign .rightBracket] else []) ++ rest)) = .less := by
        rw [text, List.cons_append, follow_sign rfl]
      rw [if_pos following, gives_bind, gives_advance, gives_bind]
      refine (typeArgumentsOf_gives empty wf ?_ ih less).mono ?_
      · rw [List.length_cons, List.length_append] at enough
        omega
      · rintro list t ⟨same, closed⟩
        exact last same closed.behind

end ArrowScript.Grammar
