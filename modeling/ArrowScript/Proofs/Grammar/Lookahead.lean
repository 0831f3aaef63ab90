import ArrowScript.Proofs.Grammar.PrintedTypes

/-!
# Looking ahead

A `<` behind a name opens type arguments if what follows is closed and followed by a call, however far
that is. In printed text it is found out rightly: written types are balanced, so that type arguments are
always recognised. The search is not decided in a text that it either passes through, to whatever depth, or
fails in; where it fails behind such a text, a comparison with it never passes for type arguments.
-/

namespace ArrowScript.Grammar
open Lexeme

variable {depth : Nat} {k : Token.Kind} {rest : List Token.Kind} {text : List Lexeme}

/-! ## The search -/

/-- The search goes on over parts of a list of types. -/
lemma closesBeforeCall_cons (less : k ≠ .less) (greater : k ≠ .greater) :
    closesBeforeCall depth (k :: rest) = (isTypeListPart k && closesBeforeCall depth rest) := by
  cases depth <;> simp [closesBeforeCall, greater]

/-- Parts of a list of types are passed over. -/
lemma closesBeforeCall_part (part : isTypeListPart k) :
    closesBeforeCall depth (k :: rest) = closesBeforeCall depth rest := by
  rw [closesBeforeCall_cons, part, Bool.true_and] <;> rintro rfl <;> cases part

/-- Kinds that stop the search for the end of type arguments. -/
def stopsSearch (k : Token.Kind) : Bool :=
  !(k.isTrivia || isTypeListPart k || k = .less || k = .greater)

/-- The search fails where it stops. -/
lemma closesBeforeCall_stop {kinds : List Token.Kind} (stops : Opens stopsSearch text) :
    closesBeforeCall depth (kindsOf text ++ kinds) = false := by
  obtain ⟨x, rest, rfl, stops⟩ := stops
  simp only [stopsSearch, Bool.not_eq_true', Bool.or_eq_false_iff, decide_eq_false_iff_not] at stops
  obtain ⟨⟨⟨firm, part⟩, less⟩, greater⟩ := stops
  rw [kindsOf_cons firm, List.cons_append, closesBeforeCall_cons less greater, part, Bool.false_and]

/-! ## Types are balanced -/

/-- The search passes over a text as a whole. -/
def Balanced (text : List Lexeme) : Prop :=
  ∀ depth rest, closesBeforeCall depth (kindsOf text ++ rest) = closesBeforeCall depth rest

/-- The search passes over texts one after the other. -/
lemma Balanced.append {first second : List Lexeme} (h : Balanced first) (g : Balanced second) :
    Balanced (first ++ second) := by
  intro depth rest
  rw [kindsOf_append, List.append_assoc, h, g]

/-- The search passes over what starts with a text that it passes over. -/
lemma Balanced.cons {x : Lexeme} (h : Balanced [x]) (g : Balanced text) : Balanced (x :: text) :=
  h.append g

/-- The search passes over a part of a list of types. -/
lemma balanced_part {x : Lexeme} (part : isTypeListPart x.kind) : Balanced [x] := by
  intro depth rest
  rw [kindsOf_cons, List.cons_append, closesBeforeCall_part part]
  · rfl
  · revert part
    cases x.kind <;> first | (intro; rfl) | nofun

/-- The search passes over a list of balanced texts. -/
lemma balanced_separated {forms : List (List Lexeme)} (h : ∀ form ∈ forms, Balanced form) :
    Balanced (separated .comma forms) := by
  fun_induction separated .comma forms with
  | case1 => exact fun _ _ => rfl
  | case2 form => exact h form List.mem_cons_self
  | case3 form rest _ ih =>
    apply (h form List.mem_cons_self).append
    apply (balanced_part rfl).cons
    exact ih fun form mem => h form (.tail _ mem)

/-- Angle brackets around a list of balanced texts match. -/
lemma balanced_angled {forms : List (List Lexeme)} (h : ∀ form ∈ forms, Balanced form) :
    Balanced (angled forms) := by
  intro depth rest
  cases forms with
  | nil => rfl
  | cons form others =>
    rw [angled_of_ne_nil _ (List.cons_ne_nil _ _), kindsOf_cons rfl, kindsOf_append, List.cons_append,
      List.append_assoc, sign_kind, closesBeforeCall, balanced_separated h]
    rfl

mutual

/-- Written types are balanced. -/
lemma balanced_typeRef : ∀ (type : TypeRef), type.wellFormed → Balanced type.lexemes
  | ⟨name, builtin, arguments, array, binding⟩, wf => by
    simp only [TypeRef.wellFormed, Bool.and_eq_true] at wf
    rw [TypeRef.lexemes]
    apply Balanced.cons
    · apply balanced_part
      revert wf
      rw [name_kind]
      cases nameKind name.content <;> first | (intro; rfl) | (intro wf; cases wf.1.1)
    · apply (balanced_angled (balanced_types arguments wf.2)).append
      cases array with
      | false => exact fun _ _ => rfl
      | true =>
        exact (balanced_part rfl).cons (balanced_part rfl)

lemma balanced_types :
    ∀ (types : List TypeRef), typesWellFormed types → ∀ form ∈ typeForms types, Balanced form
  | [], _, form, mem => by cases mem
  | type :: rest, wf, form, mem => by
    simp only [typesWellFormed, Bool.and_eq_true] at wf
    rcases List.mem_cons.mp mem with rfl | mem
    · exact balanced_typeRef type wf.1
    · exact balanced_types rest wf.2 form mem

end

/-- Type arguments in front of an opening parenthesis are recognised. -/
lemma typeArgumentsBeforeCall_angled {types : List TypeRef} {tail : List Lexeme}
    (nonempty : types ≠ []) (wf : typesWellFormed types) :
    typeArgumentsBeforeCall
      (kindsOf (angled (typeForms types) ++ sign .leftParen :: tail) ++ rest) := by
  rw [angled_of_ne_nil _ (by simpa [typeForms_eq_map]), List.cons_append, kindsOf_cons rfl,
    List.cons_append, sign_kind, typeArgumentsBeforeCall, List.append_assoc, kindsOf_append,
    List.append_assoc, balanced_separated (balanced_types types wf)]
  rfl

/-- The name of a link is passed over. -/
lemma balanced_name {span : Span} (name : isLinkName (nameKind span.content)) :
    Balanced [.name span] := by
  apply balanced_part
  revert name
  rw [name_kind]
  cases nameKind span.content <;> first | (intro; rfl) | nofun

/-! ## Texts that the search is not decided in -/

/-- Where the search succeeds, it does so behind a text, though perhaps at another depth. -/
def Defers (text : List Lexeme) : Prop :=
  ∀ depth rest, closesBeforeCall depth (kindsOf text ++ rest) → ∃ other, closesBeforeCall other rest

/-- The search fails in front of a text, whatever depth it comes with. -/
def Settled (text : List Lexeme) : Prop :=
  ∀ depth, closesBeforeCall depth (ahead text) = false

/-- What is passed over does not decide the search. -/
lemma Balanced.defers (h : Balanced text) : Defers text :=
  fun depth rest closes => ⟨depth, h depth rest ▸ closes⟩

/-- A text in which the search fails at once. -/
lemma defers_of_stops (stops : Opens stopsSearch text) : Defers text := by
  intro depth rest closes
  rw [closesBeforeCall_stop stops] at closes
  cases closes

/-- Texts one after the other. -/
lemma Defers.append {first second : List Lexeme} (h : Defers first) (g : Defers second) :
    Defers (first ++ second) := by
  intro depth rest closes
  rw [kindsOf_append, List.append_assoc] at closes
  obtain ⟨other, closes⟩ := h depth _ closes
  exact g other rest closes

/-- A list whose sign is a part of a list of types does not decide the search if its elements do not. -/
lemma defers_separated {forms : List (List Lexeme)} (part : isTypeListPart k) (h : ∀ form ∈ forms, Defers form) :
    Defers (separated k forms) := by
  fun_induction separated k forms with
  | case1 => exact fun depth rest closes => ⟨depth, closes⟩
  | case2 form => exact h form List.mem_cons_self
  | case3 form rest _ ih =>
    apply (h form List.mem_cons_self).append
    apply ((balanced_part part).defers).append
    exact ih fun form mem => h form (.tail _ mem)

/-- The search fails in front of what stops it. -/
lemma settled_of_stops (stops : Opens stopsSearch text) : Settled text :=
  fun _ => closesBeforeCall_stop stops

/-- The search fails in front of a text that does not decide it, if it does so behind. -/
lemma Defers.settled {rest : List Lexeme} (h : Defers text) (g : Settled rest) : Settled (text ++ rest) := by
  intro depth
  by_contra closes
  rw [Bool.not_eq_false, ahead, kindsOf_append, List.append_assoc] at closes
  obtain ⟨other, closes⟩ := h depth _ closes
  rw [← ahead, g other] at closes
  cases closes

/-- The search fails in front of a part of a list of types, if it does so behind. -/
lemma Settled.part {rest : List Lexeme} (h : Settled rest) (part : isTypeListPart k) :
    Settled (sign k :: rest) :=
  (balanced_part part).defers.settled h

/-- A comparison with a text that does not decide the search is not taken for type arguments. -/
lemma typeArgumentsBeforeCall_less {rest : List Lexeme} (h : Defers text) (g : Settled rest) :
    typeArgumentsBeforeCall (ahead (sign .less :: (text ++ rest))) = false := by
  rw [ahead, kindsOf_cons rfl, List.cons_append, sign_kind, typeArgumentsBeforeCall]
  exact h.settled g 0

end ArrowScript.Grammar
