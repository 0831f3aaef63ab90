import ArrowScript.Proofs.Analysis.Registered
import ArrowScript.Proofs.Analysis.WellTyped

/-!
# Soundness for expressions

An expression in which the account finds no problem is well typed by the types that are recorded in it
(`Expr.Blank.judged_wellTyped`). The account compares shapes where the types of their handles are compared, and
the handles are recorded. What is left alone, behind an unknown type, is blank and has no types that could
disagree.
-/

namespace ArrowScript
open Analysis Grammar

variable {origins : List Origin} {typing : Typing} {setting : Setting}

/-! ## Blank expressions -/

section
variable (typing)

/-- Nothing is recorded for a blank expression but that nothing is nothing. -/
lemma Expr.Blank.recorded : ∀ {x : Expr}, x.Blank → ∀ type ∈ x.recorded typing.registry, type = .nothing
  | .binary .., blank, _, mem => by
    rw [Expr.Blank] at blank
    obtain ⟨-, -, -, rfl⟩ := blank
    cases mem
  | .unary .., blank, _, mem => by
    rw [Expr.Blank] at blank
    obtain ⟨-, rfl⟩ := blank
    cases mem
  | .chain ⟨links, span, type⟩, blank, _, mem | .new _ ⟨links, span, type⟩, blank, _, mem => by
    rw [Expr.Blank, Chain.Blank] at blank
    obtain ⟨-, rfl⟩ := blank
    cases mem
  | .literal .., blank, _, mem => by
    rw [Expr.Blank] at blank
    subst blank
    cases mem
  | .newArray _ ⟨root, type⟩, blank, _, mem => by
    rw [Expr.Blank, Expression.Blank] at blank
    obtain ⟨-, rfl⟩ := blank
    cases mem
  | .nothing _, _, _, mem => (Option.some.inj mem).symm
  | .missing _, _, _, mem => by cases mem

mutual

/-- A blank expression is well typed. -/
lemma Expr.Blank.wellTyped : ∀ {x : Expr}, x.Blank → x.WellTyped typing
  | .binary operator span left right type, blank => by
    rw [Expr.Blank] at blank
    rw [Expr.WellTyped]
    refine ⟨blank.2.1.wellTyped, blank.2.2.1.wellTyped, fun first mem second mem' => ?_,
      fun assigns => absurd assigns blank.1⟩
    rw [blank.2.1.recorded typing first mem, blank.2.2.1.recorded typing second mem']
  | .unary _ _ operand _, blank => by
    rw [Expr.Blank] at blank
    rw [Expr.WellTyped]
    exact blank.1.wellTyped
  | .chain path, blank | .new _ path, blank => by
    rw [Expr.Blank] at blank
    rw [Expr.WellTyped]
    exact blank.wellTyped
  | .newArray _ element, blank => by
    rw [Expr.Blank] at blank
    rw [Expr.WellTyped]
    exact blank.wellTyped
  | .literal .., _ | .nothing _, _ | .missing _, _ => by
    rw [Expr.WellTyped]
    trivial

lemma Expression.Blank.wellTyped : ∀ {x : Expression}, x.Blank → x.WellTyped typing
  | ⟨root, type⟩, blank => by
    rw [Expression.Blank] at blank
    rw [Expression.WellTyped]
    exact blank.1.wellTyped

lemma Chain.Blank.wellTyped : ∀ {x : Chain}, x.Blank → x.WellTyped typing
  | ⟨links, span, type⟩, blank => by
    rw [Chain.Blank] at blank
    rw [Chain.WellTyped]
    exact linksBlank_wellTyped blank.1

lemma linksBlank_wellTyped : ∀ {x : List Link}, linksBlank x → linksWellTyped typing x
  | [], _ => by
    rw [linksWellTyped]
    trivial
  | link :: rest, blank => by
    rw [linksBlank] at blank
    rw [linksWellTyped]
    exact ⟨blank.1.wellTyped, linksBlank_wellTyped blank.2⟩

lemma Link.Blank.wellTyped : ∀ {x : Link}, x.Blank → x.WellTyped typing
  | .name identifier, _ => by
    rw [Link.WellTyped]
    trivial
  | .index identifier ⟨root, type⟩ close, blank => by
    rw [Link.Blank] at blank
    rw [Link.WellTyped]
    refine ⟨blank.2.wellTyped, fun type mem => ?_⟩
    rw [Expression.Blank] at blank
    obtain ⟨-, -, rfl⟩ := blank
    cases mem
  | .call identifier written arguments close, blank => by
    rw [Link.Blank] at blank
    rw [Link.WellTyped]
    refine ⟨argumentsBlank_wellTyped blank.2.2, fun node bound => ?_⟩
    rw [blank.1] at bound
    cases bound

lemma argumentsBlank_wellTyped : ∀ {x : List Expression}, argumentsBlank x → argumentsWellTyped typing x
  | [], _ => by
    rw [argumentsWellTyped]
    trivial
  | argument :: rest, blank => by
    rw [argumentsBlank] at blank
    rw [argumentsWellTyped]
    exact ⟨blank.1.wellTyped, argumentsBlank_wellTyped blank.2⟩

end

end

/-! ## Settings -/

namespace Analysis

/-- The functions that can be seen in a layer are functions of the program, and the parameters that are recorded
there are those of the facts. -/
def Layer.Documented (typing : Typing) (facts : Facts) (code : Shape → TypeId) (layer : Layer) : Prop :=
  ∀ key entry, layer.functionOf key = some entry → ∃ definition ∈ typing.functions,
    definition.id = entry.node ∧ facts.parameters entry.node = definition.parameters.map Parameter.id ∧
      ∀ parameter ∈ definition.parameters,
        parameter.written.binding = (facts.declared parameter.id).map code ∧
          parameter.rename typing.registry.clip = parameter

/-- The types that are recorded for some shape are registered. -/
def Setting.Recorded (setting : Setting) (registry : TypeRegistry) (shape : Option Shape) : Prop :=
  (shape.map setting.code).map registry.clip = shape.map setting.code

/-- Shapes that are judged in a setting can be told from the types that are recorded for them. -/
structure Setting.Sound (origins : List Origin) (typing : Typing) (setting : Setting) : Prop where
  grown : Grown origins typing.registry
  coded : Coded origins typing.registry setting.code
  injective : Function.Injective setting.code
  members : ∀ node layer, setting.facts.members node = some layer →
    layer.Documented typing setting.facts setting.code
  around : setting.around.Documented typing setting.facts setting.code
  returned : setting.Recorded typing.registry setting.returned

/-- Nothing is wrong with what is judged, and the types in it are registered. -/
structure Judged.Clean {ν σ : Type} (place : ν → ν) (judged : Judged ν σ) : Prop where
  problems : judged.problems = []
  stays : place judged.node = judged.node

namespace Setting.Sound

variable (sound : setting.Sound origins typing)

include sound

/-- A recorded shape is the one that its type stands for. -/
lemma shaped {shape : Option Shape} (recorded : setting.Recorded typing.registry shape) :
    ∀ form ∈ shape, Shaped origins typing.registry (setting.code form) form := by
  rintro form rfl
  have stays : typing.registry.clip (setting.code form) = setting.code form := Option.some.inj recorded
  refine sound.coded.shaped sound.injective sound.grown ?_
  rw [← stays]
  exact sound.grown.known_clip _

/-- Recorded types are accepted if their shapes are no mismatch. -/
lemma accepts {problem : TypeId → TypeId → SemanticProblem} {expected found : Option Shape} {span : Span}
    (matches' : setting.mismatch problem expected found span = [])
    (first : setting.Recorded typing.registry expected) (second : setting.Recorded typing.registry found) :
    typing.Accepts (expected.map setting.code) (found.map setting.code) := by
  intro type mem type' mem'
  obtain ⟨form, rfl, rfl⟩ := Option.mem_map.mp mem
  obtain ⟨form', rfl, rfl⟩ := Option.mem_map.mp mem'
  rw [((sound.shaped first) form rfl).compatible sound.grown ((sound.shaped second) form' rfl)]
  unfold mismatch at matches'
  simp only at matches'
  split at matches'
  · assumption
  · cases matches'

/-- A recorded type may be an index if its shape is no problem. -/
lemma indexes {index : Expression} {found : Option Shape} (fits : setting.indexProblems index found = [])
    (recorded : setting.Recorded typing.registry found) : typing.Indexes (found.map setting.code) := by
  intro type mem
  obtain ⟨form, rfl, rfl⟩ := Option.mem_map.mp mem
  have shaped := sound.shaped recorded form rfl
  unfold indexProblems at fits
  simp only at fits
  split at fits
  · next whole =>
    rcases Bool.or_eq_true_iff.mp whole with whole | generic
    · obtain rfl := of_decide_eq_true whole
      exact .inl (sound.coded _ _ (sound.grown.shaped_builtin (by decide)))
    · exact .inr ((shaped.isGeneric sound.grown).trans generic)
  · cases fits

omit sound in
/-- Operands have the same shape if they are no problem. -/
lemma eq_of_operands {span : Span} {left right : Option Shape} (same : setting.operandProblems span left right = []) :
    ∀ first ∈ left, ∀ second ∈ right, first = second := by
  rintro first rfl second rfl
  unfold operandProblems at same
  simp only at same
  split at same
  · cases same
  · next eq => exact not_not.mp eq

/-- Arguments are accepted one by one if there are as many as parameters and none is a mismatch. -/
lemma accepts_arguments {function : String} {arguments : List Expression} {shapes : List (Option Shape × Span)}
    (types : List.Forall₂ (fun argument shape => argument.type = shape.1.map setting.code ∧
      setting.Recorded typing.registry shape.1) arguments shapes) :
    ∀ {parameters : List Parameter} {position : Nat}, (∀ parameter ∈ parameters,
      parameter.written.binding = (setting.facts.declared parameter.id).map setting.code ∧
        parameter.rename typing.registry.clip = parameter) →
      shapes.length = parameters.length →
      setting.argumentMismatches function position (parameters.map Parameter.id) shapes = [] →
      List.Forall₂ (fun parameter argument => typing.Accepts parameter.written.binding argument.type)
        parameters arguments := by
  induction types with
  | nil =>
    intro parameters position bindings count fits
    obtain rfl := List.length_eq_zero_iff.mp count.symm
    exact .nil
  | @cons argument shape rest shapes type types ih =>
    intro parameters position bindings count fits
    obtain ⟨found, span⟩ := shape
    cases parameters with
    | nil => cases count
    | cons parameter others =>
      rw [List.map_cons, argumentMismatches] at fits
      obtain ⟨first, fits⟩ := List.append_eq_nil_iff.mp fits
      obtain ⟨binding, stays⟩ := bindings parameter List.mem_cons_self
      -- The parameter is filled in with a type that is registered, as its definition stays the same.
      have recorded : setting.Recorded typing.registry (setting.facts.declared parameter.id) := by
        rw [Recorded, ← binding, ← TypeRef.binding_rename]
        exact congrArg (TypeRef.binding ∘ Parameter.written) stays
      refine .cons ?_ (ih (fun other mem => bindings other (List.mem_cons_of_mem _ mem)) (Nat.succ.inj count) fits)
      rw [type.1, binding]
      exact sound.accepts first recorded type.2

/-- What can be seen in a setting is documented. -/
lemma documented {owner : Option Shape} {layer : Layer} (seen : setting.seen owner = some layer) :
    layer.Documented typing setting.facts setting.code := by
  cases owner with
  | none =>
    obtain rfl := Option.some.inj seen
    exact sound.around
  | some owner =>
    obtain ⟨node, -, members⟩ := Option.bind_eq_some_iff.mp seen
    exact sound.members node layer members

/-- The arguments of a call go with the parameters of the function that it is bound to. -/
lemma passes {owner : Option Shape} {arity : Nat} {identifier : Identifier} {arguments : List Expression}
    {shapes : List (Option Shape × Span)}
    (types : List.Forall₂ (fun argument shape => argument.type = shape.1.map setting.code ∧
      setting.Recorded typing.registry shape.1) arguments shapes)
    (fits : (setting.judgeFunction owner arity shapes identifier).problems = []) {node : NodeId}
    (bound : (setting.judgeFunction owner arity shapes identifier).node.binding = some (.function node)) :
    typing.Passes node arguments := by
  unfold judgeFunction at fits bound
  split at fits
  · next entry found =>
    simp only [found, Option.some.injEq, Binding.function.injEq] at bound
    obtain rfl := bound
    obtain ⟨layer, seen, found⟩ := Option.bind_eq_some_iff.mp found
    obtain ⟨definition, there, id, parameters, bindings⟩ := sound.documented seen _ _ found
    obtain ⟨many, fits⟩ := List.append_eq_nil_iff.mp fits
    rw [parameters] at many fits
    refine ⟨definition, there, id, sound.accepts_arguments types bindings ?_ fits⟩
    by_contra different
    rw [List.length_map, if_pos different] at many
    cases many
  · cases fits

end Setting.Sound

end Analysis

/-! ## Expressions -/

/-- The judged shape of an expression is recorded with it. -/
lemma Expression.type_judged (x : Expression) :
    (x.judged setting).node.type = (x.judged setting).shape.map setting.code := by
  obtain ⟨root, type⟩ := x
  rw [Expression.judged]

/-- The shape of an expression with registered types is that of a registered type. -/
lemma Expression.recorded_of_stays {x : Expression}
    (stays : (x.judged setting).node.rename typing.registry.clip = (x.judged setting).node) :
    setting.Recorded typing.registry (x.judged setting).shape := by
  rw [Setting.Recorded, ← x.type_judged]
  replace stays := congrArg Expression.type stays
  generalize (x.judged setting).node = node at stays ⊢
  obtain ⟨root, type⟩ := node
  rwa [Expression.rename] at stays

/-- What a clean operation consists of. -/
lemma binary_clean {operator : BinaryOperator} {span : Span} {left right : Expr} {type : Option TypeId}
    (clean : ((Expr.binary operator span left right type).judged setting).Clean (Expr.rename typing.registry.clip)) :
    (left.judged setting).Clean (Expr.rename typing.registry.clip) ∧
      (right.judged setting).Clean (Expr.rename typing.registry.clip) ∧
      targetProblems operator (left.judged setting).node = [] ∧
      setting.operandProblems span (left.judged setting).shape (right.judged setting).shape = [] := by
  obtain ⟨problems, stays⟩ := clean
  rw [Expr.judged] at problems stays
  simp only [List.append_eq_nil_iff] at problems
  obtain ⟨⟨⟨first, target⟩, second⟩, operands⟩ := problems
  rw [Expr.rename] at stays
  obtain ⟨-, -, left, right, -⟩ := Expr.binary.inj stays
  exact ⟨⟨first, left⟩, ⟨second, right⟩, target, operands⟩

/-- A chain that is assigned to does not end in a call if that is no problem. -/
lemma endsInCall_of_targetProblems {path : Chain} (fine : targetProblems .assign (.chain path) = []) :
    path.endsInCall = false := by
  unfold targetProblems at fine
  unfold Chain.endsInCall
  simp only at fine
  cases e : path.links.getLast? with
  | none => rfl
  | some last =>
    rw [e] at fine
    cases last with
    | call => cases fine
    | name | index => rfl

section
variable (sound : setting.Sound origins typing)

include sound

/-- The type that is recorded for a clean expression is that of its shape. -/
lemma Expr.Blank.recorded_judged {x : Expr} (blank : x.Blank)
    (clean : (x.judged setting).Clean (Expr.rename typing.registry.clip)) :
    ∀ type ∈ (x.judged setting).node.recorded typing.registry,
      ∃ form ∈ (x.judged setting).shape, setting.code form = type := by
  cases x with
  | binary | unary | literal =>
    rw [Expr.judged]
    exact fun type mem => Option.mem_map.mp mem
  | chain path =>
    obtain ⟨links, span, type⟩ := path
    rw [Expr.judged, Chain.judged]
    exact fun type mem => Option.mem_map.mp mem
  | new keyword path =>
    obtain ⟨links, span, type⟩ := path
    cases links with
    | nil =>
      rw [Expr.Blank, Chain.Blank] at blank
      obtain ⟨-, rfl⟩ := blank
      rw [Expr.judged, Chain.judgedNew]
      rintro type ⟨⟩
    | cons first rest =>
      rw [Expr.judged, Chain.judgedNew]
      simp only
      split
      · rintro type ⟨⟩
      · exact fun type mem => Option.mem_map.mp mem
  | newArray keyword element =>
    obtain ⟨-, stays⟩ := clean
    rw [Expr.judged, Expr.rename] at stays
    -- What is recorded for the array is found from the recorded type of its elements.
    have recorded := Expression.recorded_of_stays (Expr.newArray.inj stays).2
    rw [Expr.judged, Expr.recorded, Expression.type_judged]
    intro type mem
    obtain ⟨_, known, array⟩ := Option.bind_eq_some_iff.mp mem
    obtain ⟨form, there, rfl⟩ := Option.mem_map.mp known
    refine ⟨form.array, Option.mem_map_of_mem _ there, sound.coded _ _ (.array ?_ (sound.shaped recorded form there))⟩
    exact element?_of_array? array
  | nothing =>
    rw [Expr.judged]
    rintro type mem
    obtain rfl := Option.some.inj mem
    exact ⟨_, rfl, sound.coded _ _ (sound.grown.shaped_builtin (by decide))⟩
  | missing =>
    rw [Expr.judged]
    rintro type ⟨⟩

/-- An operation is well typed if it is clean and its operands are well typed. -/
lemma binary_sound {operator : BinaryOperator} {span : Span} {left right : Expr} {type : Option TypeId}
    (blank : left.Blank) (blank' : right.Blank)
    (clean : ((Expr.binary operator span left right type).judged setting).Clean (Expr.rename typing.registry.clip))
    (first : (left.judged setting).Clean (Expr.rename typing.registry.clip) →
      (left.judged setting).node.WellTyped typing)
    (second : (right.judged setting).Clean (Expr.rename typing.registry.clip) →
      (right.judged setting).node.WellTyped typing) :
    ((Expr.binary operator span left right type).judged setting).node.WellTyped typing := by
  obtain ⟨clean, clean', target, operands⟩ := binary_clean clean
  rw [Expr.judged, Expr.WellTyped]
  refine ⟨first clean, second clean', fun type mem type' mem' => ?_, ?_⟩
  · obtain ⟨form, there, rfl⟩ := blank.recorded_judged sound clean type mem
    obtain ⟨form', there', rfl⟩ := blank'.recorded_judged sound clean' type' mem'
    rw [Setting.Sound.eq_of_operands operands form there form' there']
  · rintro rfl path e
    rw [e] at target
    exact endsInCall_of_targetProblems target

end

mutual

/-- A clean expression is well typed. -/
lemma Expr.Blank.judged_wellTyped (sound : setting.Sound origins typing) :
    ∀ {x : Expr}, x.Blank → (x.judged setting).Clean (Expr.rename typing.registry.clip) →
    (x.judged setting).node.WellTyped typing
  | .binary operator span left right type, blank, clean => by
    rw [Expr.Blank] at blank
    exact binary_sound sound blank.2.1 blank.2.2.1 clean
      (blank.2.1.judged_wellTyped sound) (blank.2.2.1.judged_wellTyped sound)
  | .unary operator span operand type, blank, ⟨problems, stays⟩ => by
    rw [Expr.Blank] at blank
    rw [Expr.judged] at problems stays
    rw [Expr.rename] at stays
    rw [Expr.judged, Expr.WellTyped]
    exact blank.1.judged_wellTyped sound ⟨problems, (Expr.unary.inj stays).2.2.1⟩
  | .chain path, blank, ⟨problems, stays⟩ => by
    rw [Expr.Blank] at blank
    rw [Expr.judged] at problems stays
    rw [Expr.rename] at stays
    rw [Expr.judged, Expr.WellTyped]
    exact blank.judged_wellTyped sound ⟨problems, Expr.chain.inj stays⟩
  | .new keyword path, blank, ⟨problems, stays⟩ => by
    rw [Expr.Blank] at blank
    rw [Expr.judged] at problems stays
    rw [Expr.rename] at stays
    rw [Expr.judged, Expr.WellTyped]
    exact blank.judgedNew_wellTyped sound ⟨problems, (Expr.new.inj stays).2⟩
  | .newArray keyword element, blank, ⟨problems, stays⟩ => by
    rw [Expr.Blank] at blank
    rw [Expr.judged] at problems stays
    rw [Expr.rename] at stays
    rw [Expr.judged, Expr.WellTyped]
    exact blank.judged_wellTyped sound ⟨problems, (Expr.newArray.inj stays).2⟩
  | .literal .., _, _ | .nothing _, _, _ | .missing _, _, _ => by
    rw [Expr.judged, Expr.WellTyped]
    trivial

lemma Expression.Blank.judged_wellTyped (sound : setting.Sound origins typing) : ∀ {x : Expression}, x.Blank →
    (x.judged setting).Clean (Expression.rename typing.registry.clip) → (x.judged setting).node.WellTyped typing
  | ⟨root, type⟩, blank, ⟨problems, stays⟩ => by
    rw [Expression.Blank] at blank
    rw [Expression.judged] at problems stays
    rw [Expression.rename] at stays
    rw [Expression.judged, Expression.WellTyped]
    exact blank.1.judged_wellTyped sound ⟨problems, (Expression.mk.inj stays).1⟩

lemma Chain.Blank.judged_wellTyped (sound : setting.Sound origins typing) :
    ∀ {x : Chain}, x.Blank → (x.judged setting).Clean (Chain.rename typing.registry.clip) →
    (x.judged setting).node.WellTyped typing
  | ⟨links, span, type⟩, blank, ⟨problems, stays⟩ => by
    rw [Chain.Blank] at blank
    rw [Chain.judged] at problems stays
    rw [Chain.rename] at stays
    rw [Chain.judged, Chain.WellTyped]
    exact linksBlank_judged_wellTyped sound blank.1 ⟨problems, (Chain.mk.inj stays).1⟩

lemma Chain.Blank.judgedNew_wellTyped (sound : setting.Sound origins typing) : ∀ {x : Chain}, x.Blank →
    (x.judgedNew setting).Clean (Chain.rename typing.registry.clip) → (x.judgedNew setting).node.WellTyped typing
  | ⟨[], span, type⟩, _, _ => by
    rw [Chain.judgedNew, Chain.WellTyped, linksWellTyped]
    trivial
  | ⟨first :: rest, span, type⟩, blank, ⟨problems, stays⟩ => by
    rw [Chain.Blank, linksBlank] at blank
    rw [Chain.judgedNew] at problems stays ⊢
    simp only at problems stays ⊢
    split at problems
    · next unknown =>
      simp only [unknown, Chain.rename, linksRename] at stays ⊢
      rw [Chain.WellTyped, linksWellTyped]
      obtain ⟨head, -⟩ := List.cons.inj (Chain.mk.inj stays).1
      exact ⟨blank.1.1.judgedMade_wellTyped sound ⟨problems, head⟩, linksBlank_wellTyped typing blank.1.2⟩
    · next owner known =>
      simp only [known, Chain.rename, linksRename] at stays ⊢
      rw [Chain.WellTyped, linksWellTyped]
      obtain ⟨head, tail⟩ := List.cons.inj (Chain.mk.inj stays).1
      obtain ⟨problems, others⟩ := List.append_eq_nil_iff.mp problems
      exact ⟨blank.1.1.judgedMade_wellTyped sound ⟨problems, head⟩, linksBlank_judged_wellTyped sound blank.1.2 ⟨others, tail⟩⟩

lemma linksBlank_judged_wellTyped (sound : setting.Sound origins typing) :
    ∀ {x : List Link} {owner : Option Shape}, linksBlank x →
    (linksJudged setting owner x).Clean (linksRename typing.registry.clip) →
      linksWellTyped typing (linksJudged setting owner x).node
  | [], owner, _, _ => by
    rw [linksJudged, linksWellTyped]
    trivial
  | link :: rest, owner, blank, ⟨problems, stays⟩ => by
    rw [linksBlank] at blank
    rw [linksJudged] at problems stays ⊢
    simp only at problems stays ⊢
    split at problems
    · next unknown =>
      simp only [unknown, linksRename] at stays ⊢
      rw [linksWellTyped]
      obtain ⟨head, -⟩ := List.cons.inj stays
      exact ⟨blank.1.judged_wellTyped sound ⟨problems, head⟩, linksBlank_wellTyped typing blank.2⟩
    · next known =>
      simp only [known, linksRename] at stays ⊢
      rw [linksWellTyped]
      obtain ⟨head, tail⟩ := List.cons.inj stays
      obtain ⟨problems, others⟩ := List.append_eq_nil_iff.mp problems
      exact ⟨blank.1.judged_wellTyped sound ⟨problems, head⟩, linksBlank_judged_wellTyped sound blank.2 ⟨others, tail⟩⟩

lemma Link.Blank.judged_wellTyped (sound : setting.Sound origins typing) : ∀ {x : Link} {owner : Option Shape}, x.Blank →
    (x.judged setting owner).Clean (Link.rename typing.registry.clip) →
      (x.judged setting owner).node.WellTyped typing
  | .name identifier, owner, _, _ => by
    rw [Link.judged, Link.WellTyped]
    trivial
  | .index identifier index close, owner, blank, ⟨problems, stays⟩ => by
    rw [Link.Blank] at blank
    rw [Link.judged] at problems stays
    rw [Link.rename] at stays
    simp only [List.append_eq_nil_iff] at problems
    have stays := (Link.index.inj stays).2.1
    rw [Link.judged, Link.WellTyped, Expression.type_judged]
    exact ⟨blank.2.judged_wellTyped sound ⟨problems.1.1, stays⟩, sound.indexes problems.1.2 (Expression.recorded_of_stays stays)⟩
  | .call identifier written arguments close, owner, blank, ⟨problems, stays⟩ => by
    rw [Link.Blank] at blank
    rw [Link.judged] at problems stays
    rw [Link.rename] at stays
    simp only [List.append_eq_nil_iff] at problems
    have stays := (Link.call.inj stays).2.2.1
    obtain ⟨wellTyped, types⟩ := argumentsBlank_judged_wellTyped sound blank.2.2 ⟨problems.1.1, stays⟩
    rw [Link.judged, Link.WellTyped]
    exact ⟨wellTyped, fun node bound => sound.passes types problems.2 bound⟩

lemma Link.Blank.judgedMade_wellTyped (sound : setting.Sound origins typing) : ∀ {x : Link}, x.Blank →
    (x.judgedMade setting).Clean (Link.rename typing.registry.clip) → (x.judgedMade setting).node.WellTyped typing
  | .name identifier, _, _ => by
    rw [Link.judgedMade, Link.WellTyped]
    trivial
  | .index identifier index close, blank, ⟨problems, stays⟩ => by
    rw [Link.Blank] at blank
    rw [Link.judgedMade] at problems stays
    rw [Link.rename] at stays
    simp only [List.append_eq_nil_iff] at problems
    have stays := (Link.index.inj stays).2.1
    rw [Link.judgedMade, Link.WellTyped, Expression.type_judged]
    exact ⟨blank.2.judged_wellTyped sound ⟨problems.1.1, stays⟩, sound.indexes problems.1.2 (Expression.recorded_of_stays stays)⟩
  | .call identifier written arguments close, blank, ⟨problems, stays⟩ => by
    rw [Link.Blank] at blank
    rw [Link.judgedMade] at problems stays
    rw [Link.rename] at stays
    simp only [List.append_eq_nil_iff] at problems
    have stays := (Link.call.inj stays).2.2.1
    obtain ⟨wellTyped, -⟩ := argumentsBlank_judged_wellTyped sound blank.2.2 ⟨problems.1.1, stays⟩
    rw [Link.judgedMade, Link.WellTyped]
    refine ⟨wellTyped, fun node bound => ?_⟩
    unfold Setting.judgeConstructed at bound
    split at bound
    · cases bound
    · rw [blank.1] at bound
      cases bound

/-- Clean arguments are well typed, and have the types that are judged. -/
lemma argumentsBlank_judged_wellTyped (sound : setting.Sound origins typing) :
    ∀ {x : List Expression}, argumentsBlank x →
    (argumentsJudged setting x).Clean (argumentsRename typing.registry.clip) →
      argumentsWellTyped typing (argumentsJudged setting x).node ∧
        List.Forall₂ (fun argument shape => argument.type = shape.1.map setting.code ∧
          setting.Recorded typing.registry shape.1) (argumentsJudged setting x).node (argumentsJudged setting x).shape
  | [], _, _ => by
    rw [argumentsJudged, argumentsWellTyped]
    exact ⟨trivial, .nil⟩
  | argument :: rest, blank, ⟨problems, stays⟩ => by
    rw [argumentsBlank] at blank
    rw [argumentsJudged] at problems stays
    rw [argumentsRename] at stays
    obtain ⟨head, tail⟩ := List.cons.inj stays
    obtain ⟨problems, others⟩ := List.append_eq_nil_iff.mp problems
    obtain ⟨wellTyped, types⟩ := argumentsBlank_judged_wellTyped sound blank.2 ⟨others, tail⟩
    rw [argumentsJudged, argumentsWellTyped]
    exact ⟨⟨blank.1.judged_wellTyped sound ⟨problems, head⟩, wellTyped⟩,
      .cons ⟨argument.type_judged, Expression.recorded_of_stays head⟩ types⟩

end

/-- A clean expression that is a statement is well typed. -/
lemma Expression.BlankStatement.judged_wellTyped (sound : setting.Sound origins typing) {x : Expression}
    (blank : x.BlankStatement)
    (clean : (x.judged setting).Clean (Expression.rename typing.registry.clip)) :
    (x.judged setting).node.WellTyped typing := by
  unfold Expression.BlankStatement at blank
  split at blank
  · obtain ⟨⟨left, right, -⟩, -⟩ := blank
    obtain ⟨problems, stays⟩ := clean
    rw [Expression.judged] at problems stays
    rw [Expression.rename] at stays
    rw [Expression.judged, Expression.WellTyped]
    exact binary_sound sound left right ⟨problems, (Expression.mk.inj stays).1⟩
      (left.judged_wellTyped sound) (right.judged_wellTyped sound)
  · exact blank.judged_wellTyped sound clean

end ArrowScript
