import ArrowScript.Proofs.Grammar.Printing

/-!
# Expressions inside of terms

A term without operators holds other expressions only as indices, arguments and elements, which `inner` lists.
`Hereditary.all` is induction over expressions in which a term is reached from what is inside of it. What is inside
of a term is well-formed if the term is, and has no operators that the term does not have.
-/

namespace ArrowScript

/-- The expressions inside of a link. -/
def Link.inner : Link → List Expression
  | .name _ => []
  | .index _ inside _ => [inside]
  | .call _ _ arguments _ => arguments

/-- The expressions inside of a chain. -/
def Chain.inner (path : Chain) : List Expression :=
  path.links.flatMap Link.inner

namespace Expr

/-- Whether an expression is a term that has no operator and lacks nothing. -/
def isPrimary : Expr → Bool
  | .chain _ | .literal .. | .new .. | .newArray .. | .nothing _ => true
  | .binary .. | .unary .. | .missing _ => false

/-- The expressions inside of a term. -/
def inner : Expr → List Expression
  | .chain path | .new _ path => path.inner
  | .newArray _ element => [element]
  | .literal .. | .nothing _ | .binary .. | .unary .. | .missing _ => []

/-- A property that an operation has if its operands have it, and a term if what is inside of it does. -/
structure Hereditary (P : Expr → Prop) : Prop where
  binary : ∀ operator span left right type, P left → P right → P (.binary operator span left right type)
  unary : ∀ operator span operand type, P operand → P (.unary operator span operand type)
  primary : ∀ e : Expr, e.isPrimary → (∀ x ∈ e.inner, P x.root) → P e
  missing : ∀ span, P (.missing span)

variable {P : Expr → Prop}

mutual

/-- All expressions have a hereditary property. -/
lemma Hereditary.all (h : Hereditary P) : ∀ e : Expr, P e
  | .binary operator span left right type => h.binary operator span left right type (h.all left) (h.all right)
  | .unary operator span operand type => h.unary operator span operand type (h.all operand)
  | .chain path => h.primary (.chain path) rfl (h.in_chain path)
  | .literal kind span type => h.primary (.literal kind span type) rfl (List.forall_mem_nil _)
  | .new keyword path => h.primary (.new keyword path) rfl (h.in_chain path)
  | .newArray keyword element => h.primary (.newArray keyword element) rfl fun _ mem =>
    List.mem_singleton.mp mem ▸ h.in_expression element
  | .nothing span => h.primary (.nothing span) rfl (List.forall_mem_nil _)
  | .missing span => h.missing span

lemma Hereditary.in_expression (h : Hereditary P) : ∀ e : Expression, P e.root
  | ⟨root, _⟩ => h.all root

lemma Hereditary.in_chain (h : Hereditary P) : ∀ path : Chain, ∀ x ∈ path.inner, P x.root
  | ⟨links, _, _⟩ => h.in_links links

lemma Hereditary.in_links (h : Hereditary P) : ∀ links : List Link, ∀ x ∈ links.flatMap Link.inner, P x.root
  | [] => List.forall_mem_nil _
  | link :: rest => List.forall_mem_append.mpr ⟨h.in_link link, h.in_links rest⟩

lemma Hereditary.in_link (h : Hereditary P) : ∀ link : Link, ∀ x ∈ link.inner, P x.root
  | .name _ => List.forall_mem_nil _
  | .index _ inside _ => fun _ mem => List.mem_singleton.mp mem ▸ h.in_expression inside
  | .call _ _ arguments _ => h.in_arguments arguments

lemma Hereditary.in_arguments (h : Hereditary P) : ∀ arguments : List Expression, ∀ x ∈ arguments, P x.root
  | [] => List.forall_mem_nil _
  | argument :: rest => List.forall_mem_cons.mpr ⟨h.in_expression argument, h.in_arguments rest⟩

end

end Expr

/-! ## Well-formed terms -/

/-- A well-formed chain has links, and they are well-formed. -/
lemma Chain.links_of_wellFormed {path : Chain} (wf : path.wellFormed) :
    path.links ≠ [] ∧ ∀ link ∈ path.links, link.wellFormed := by
  obtain ⟨links, span, type⟩ := path
  simpa [Chain.wellFormed, linksWellFormed_eq_all] using wf

/-- What is inside of a well-formed link is well-formed. -/
lemma Link.wellFormed_inner {link : Link} (wf : link.wellFormed) : ∀ e ∈ link.inner, e.wellFormed := by
  cases link with
  | name identifier => exact List.forall_mem_nil _
  | index identifier index close =>
    simp only [Link.wellFormed, Bool.and_eq_true] at wf
    exact fun _ mem => List.mem_singleton.mp mem ▸ wf.2
  | call identifier types arguments close =>
    simp only [Link.wellFormed, argumentsWellFormed_eq_all, Bool.and_eq_true, List.all_eq_true] at wf
    exact wf.2

/-- What is inside of a well-formed chain is well-formed. -/
lemma Chain.wellFormed_inner {path : Chain} (wf : path.wellFormed) : ∀ e ∈ path.inner, e.wellFormed := by
  intro e mem
  obtain ⟨link, among, inside⟩ := List.mem_flatMap.mp mem
  exact Link.wellFormed_inner ((Chain.links_of_wellFormed wf).2 link among) e inside

/-- An expression has an operator between operands, one before an operand, or none. -/
lemma Expr.cases_of_wellFormed {e : Expr} (wf : e.wellFormed) :
    (∃ operator span left right type, e = .binary operator span left right type) ∨
      (∃ operator span operand type, e = .unary operator span operand type) ∨ e.isPrimary := by
  cases e with
  | binary operator span left right type => exact .inl ⟨_, _, _, _, _, rfl⟩
  | unary operator span operand type => exact .inr (.inl ⟨_, _, _, _, rfl⟩)
  | missing => cases wf
  | chain | literal | new | newArray | nothing => exact .inr (.inr rfl)

/-- What is inside of a well-formed term is well-formed. -/
lemma Expr.wellFormed_inner {e : Expr} (wf : e.wellFormed) : ∀ x ∈ e.inner, x.wellFormed := by
  cases e with
  | chain path => exact Chain.wellFormed_inner wf
  | new keyword path =>
    simp only [Expr.wellFormed, Bool.and_eq_true] at wf
    exact Chain.wellFormed_inner wf.2
  | newArray keyword element => exact fun _ mem => List.mem_singleton.mp mem ▸ wf
  | literal | nothing | binary | unary | missing => exact List.forall_mem_nil _

/-! ## Operators inside of terms -/

mutual

/-- The binary operators in an expression. -/
def Expr.operators : Expr → List BinaryOperator
  | .binary operator _ left right _ => operator :: (left.operators ++ right.operators)
  | .unary _ _ operand _ => operand.operators
  | .chain path => path.operators
  | .new _ path => path.operators
  | .newArray _ element => element.operators
  | .literal .. | .nothing _ | .missing _ => []

/-- The binary operators in a whole expression. -/
def Expression.operators : Expression → List BinaryOperator
  | ⟨root, _⟩ => root.operators

/-- The binary operators in a chain. -/
def Chain.operators : Chain → List BinaryOperator
  | ⟨links, _, _⟩ => linkOperators links

/-- The binary operators in some links. -/
def linkOperators : List Link → List BinaryOperator
  | [] => []
  | link :: rest => link.operators ++ linkOperators rest

/-- The binary operators in a link. -/
def Link.operators : Link → List BinaryOperator
  | .name _ => []
  | .index _ index _ => index.operators
  | .call _ _ arguments _ => argumentOperators arguments

/-- The binary operators in some arguments. -/
def argumentOperators : List Expression → List BinaryOperator
  | [] => []
  | argument :: rest => argument.operators ++ argumentOperators rest

end

lemma linkOperators_eq_flatMap (links : List Link) : linkOperators links = links.flatMap Link.operators := by
  induction links with
  | nil => rfl
  | cons link rest ih => rw [linkOperators, ih, List.flatMap_cons]

lemma argumentOperators_eq_flatMap (arguments : List Expression) :
    argumentOperators arguments = arguments.flatMap Expression.operators := by
  induction arguments with
  | nil => rfl
  | cons argument rest ih => rw [argumentOperators, ih, List.flatMap_cons]

/-- The operators in a link are those inside of it. -/
lemma Link.operators_eq (link : Link) : link.operators = link.inner.flatMap Expression.operators := by
  cases link with
  | name identifier => rfl
  | index identifier index close => simp [Link.operators, Link.inner]
  | call identifier types arguments close => rw [Link.operators, argumentOperators_eq_flatMap, Link.inner]

/-- The operators in a chain are those inside of it. -/
lemma Chain.operators_eq (path : Chain) : path.operators = path.inner.flatMap Expression.operators := by
  obtain ⟨links, span, type⟩ := path
  rw [Chain.operators, linkOperators_eq_flatMap, Chain.inner, List.flatMap_assoc]
  exact List.flatMap_congr fun link _ => link.operators_eq

/-- The operators in a term are those inside of it. -/
lemma Expr.operators_eq {e : Expr} (primary : e.isPrimary) :
    e.operators = e.inner.flatMap Expression.operators := by
  cases e with
  | chain path => rw [Expr.operators, path.operators_eq, Expr.inner]
  | literal kind span type => rfl
  | new keyword path => rw [Expr.operators, path.operators_eq, Expr.inner]
  | newArray keyword element => simp [Expr.operators, Expr.inner]
  | nothing span => rfl
  | binary | unary | missing => cases primary

/-- An operator that does not occur in a term does not occur inside of it. -/
lemma Expr.not_mem_inner {e : Expr} {operator : BinaryOperator} (primary : e.isPrimary)
    (absent : operator ∉ e.operators) : ∀ x ∈ e.inner, operator ∉ x.operators := by
  intro x mem occurs
  rw [Expr.operators_eq primary] at absent
  exact absent (List.mem_flatMap.mpr ⟨x, mem, occurs⟩)

end ArrowScript
