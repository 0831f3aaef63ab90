import ArrowScript.Proofs.Analysis.Looking

/-!
# Binding names

In a state that a laid program is visited in (`Visiting`), names are bound without a fault, and to what the
rule of lexical scoping says. What the rule says does not change while the rest of the program is visited
(`Sees`).
-/

namespace ArrowScript.Analysis
open Token

variable {P : Piece → Prop} {members : List (Option Owner)} {table : ScopeTable} {s t u : State}
  {outer : Option ScopeId} {scope : ScopeId} {around : List Owner} {added : List (NodeId × TypeId)}

/-- Types have the members that are listed for them. -/
def Homes (P : Piece → Prop) (members : List (Option Owner)) (s : State) : Prop :=
  ∀ type : TypeId, Housed P s type members[type.index]?.join

/-- A state in which a laid program is visited, inside a scope if any, with some owners around. -/
structure Visiting (P : Piece → Prop) (members : List (Option Owner)) (table : ScopeTable)
    (s : State) (outer : Option ScopeId) (around : List Owner) : Prop where
  sound : Sound s
  table : s.scopes = table
  homes : Homes P members s
  active : s.active.head? = outer
  around : Around P s.scopes outer around

/-- Types keep their members. -/
lemma Homes.after (h : Homes P members s) (visits : Visits added s t) : Homes P members t := by
  intro type
  have home := h type
  cases e : members[type.index]?.join with
  | none =>
    rw [e] at home
    exact (visits.later.users type).trans home
  | some owner =>
    rw [e] at home
    obtain ⟨node, outer, own, user, stands⟩ := home
    exact ⟨node, outer, own, (visits.later.users type).trans user, visits.scopes ▸ stands⟩

/-- Visiting goes on in the same scope. -/
lemma Visiting.after (h : Visiting P members table s outer around) (visits : Visits added s t) :
    Visiting P members table t outer around where
  sound := visits.sound h.sound
  table := visits.scopes.trans h.table
  homes := h.homes.after visits
  active := by rw [visits.frame.active, h.active]
  around := visits.scopes ▸ h.around

/-- The innermost scope. -/
lemma Visiting.innermost (h : Visiting P members table s (some scope) around) : s.scope = .ok scope :=
  scope_of_head? h.active

/-! ## What a visit gives -/

/-- What a visit of a part of an expression gives: a type that is known, and names that mean what the rule
says. -/
structure Sees (P : Piece → Prop) (members : List (Option Owner)) (around : List Owner) (s t : State)
    (type : Option TypeId) (meaning : Surroundings → Prop) : Prop where
  visits : Visits [] s t
  known : Known t type
  means : Exact P → ∀ w, Later t w → meaning ⟨w, members, around, s.inferredTypes⟩

namespace Sees

variable {type type' : Option TypeId} {meaning meaning' : Surroundings → Prop}

/-- What was seen after some visit was seen from its start on. -/
lemma since (h : Sees P members around t u type meaning) (visits : Visits [] s t) :
    Sees P members around s u type meaning where
  visits := visits.trans h.visits
  known := h.known
  means := by
    rw [show s.inferredTypes = t.inferredTypes from visits.inferredTypes.symm]
    exact h.means

/-- What was seen stays so. -/
lemma upto (h : Sees P members around s t type meaning) (visits : Visits [] t u) :
    Sees P members around s u type meaning where
  visits := h.visits.trans visits
  known := h.known.later visits.later
  means := fun exact w later => h.means exact w (visits.later.trans later)

/-- The same of another type and in other words. -/
lemma cast (h : Sees P members around s t type meaning) (known : Known t type')
    (implies : ∀ around, meaning around → meaning' around) :
    Sees P members around s t type' meaning' where
  visits := h.visits
  known := known
  means := fun exact w later => implies _ (h.means exact w later)

/-- Two things were seen one after the other. -/
lemma both (h : Sees P members around s t type meaning) (g : Sees P members around t u type' meaning') :
    Sees P members around s u type' fun around => meaning around ∧ meaning' around where
  visits := h.visits.trans g.visits
  known := g.known
  means := fun exact w later =>
    ⟨(h.upto g.visits).means exact w later, (g.since h.visits).means exact w later⟩

/-- Nothing is named. -/
lemma nothing (known : Known s type) (holds : ∀ around, meaning around) :
    Sees P members around s s type meaning where
  visits := .refl s
  known := known
  means := fun _ _ _ => holds _

/-- Elements of arrays have a type that is known, the same from then on. -/
lemma element (h : Sees P members around s t type meaning) (sound : Sound s) :
    Sees P members around s t (type.map fun type => (t.types.element? type).getD type) fun around =>
      meaning around ∧ type.map (fun type => (t.types.element? type).getD type) =
        type.map fun type => (around.state.types.element? type).getD type where
  visits := h.visits
  known := by
    intro found mem
    obtain ⟨type, rfl, rfl⟩ := Option.map_eq_some_iff.mp mem
    cases e : t.types.element? type with
    | none => exact h.known type rfl
    | some element => exact (h.visits.sound sound).scopes.elements type element e
  means := by
    refine fun exact w later => ⟨h.means exact w later, Option.map_congr fun type mem => ?_⟩
    rw [later.elements type (h.known type mem)]

/-- The array type over a seen type is the one that is registered for it from then on. -/
lemma array {element array : TypeId} (h : Sees P members around s t (some element) meaning)
    (registered : Resolves t u ∧ u.types.array? element = some array ∧ Known u (some array)) :
    Sees P members around s u (some array) fun around =>
      meaning around ∧ around.state.types.array? element = some array where
  visits := h.visits.trans registered.1.toVisits
  known := registered.2.2
  means := fun exact w later =>
    ⟨h.means exact w (registered.1.later.trans later), later.arrays _ _ registered.2.1⟩

end Sees

/-! ## Looking names up -/

/-- A name is looked up without a fault, in the owners that the rule names. -/
lemma findMember_eq {σ : Type} [Symbol σ] (visiting : Visiting P members table s (some scope) around)
    (owner : Option TypeId) (key : String) :
    ∃ symbol? : Option σ, findMember owner key s = .ok symbol? ∧
      ∀ {α : Type} (view : σ → α) (declared : Owner → Option α),
        (∀ found owner, Matches P found owner →
          ((Symbol.table found : List (String × σ)).lookup key).map view = declared owner) →
        ∀ (w : State) (known : List (NodeId × TypeId)), symbol?.map view =
          ((Surroundings.mk w members around known).lookedUpIn owner).findSome? declared := by
  cases owner with
  | none =>
    refine ⟨s.scopes.find? scope key .outward, ?_, fun view declared agrees w known => ?_⟩
    · simp only [findMember, memberScope, visiting.innermost]
      rfl
    · exact map_find?_outward visiting.around agrees
  | some type =>
    have home := visiting.homes type
    -- Without members the type is not one of the program, and nothing is looked up.
    cases e : members[type.index]?.join with
    | none =>
      rw [e] at home
      refine ⟨none, ?_, fun view declared agrees w known => ?_⟩
      · simp only [findMember, memberScope, show s.types.userNode? type = none from home]
        rfl
      · simp [Surroundings.lookedUpIn, e]
    | some owner =>
      rw [e] at home
      obtain ⟨node, outer, own, user, stands⟩ := home
      obtain ⟨found, get, -, agreed⟩ := stands.found
      refine ⟨s.scopes.find? own key .here, ?_, fun view declared agrees w known => ?_⟩
      · simp only [findMember, memberScope, user, ScopeTable.reopen, stands.closed]
        rfl
      · simp only [Surroundings.lookedUpIn, e, Option.toList_some, List.findSome?_cons,
          List.findSome?_nil, ScopeTable.find?, ScopeTable.declared?, get, Option.bind_some,
          ← agrees found owner agreed]
        cases Option.map view (List.lookup key (Symbol.table found)) <;> rfl

/-- Reporting a missing name changes nothing that is known. -/
lemma reportMissing_resolves (what : Declared) (identifier : Identifier) (owner : Option TypeId) :
    Leads (reportMissing what identifier owner) s fun _ t => Resolves s t := by
  cases owner <;> exact report_resolves _ _

/-! ## Variables -/

/-- The type of a variable is the one that the rule goes by. -/
lemma variableType_visits (sound : Sound s) (symbol : VariableSymbol)
    (members : List (Option Owner)) (around : List Owner) :
    Leads (variableType symbol) s fun type t => Visits [] s t ∧ Known t type ∧
      ∀ w, Later t w → type =
        (Surroundings.mk w members around s.inferredTypes).typeOfVariable symbol.entry := by
  obtain ⟨node, span, own, written⟩ := symbol
  cases written with
  | none => exact ⟨.refl s, sound.inferred node, fun _ _ => rfl⟩
  | some written =>
    refine (declaredType_visits node own written).mono fun type t found => ?_
    obtain ⟨visits, known, kept⟩ := found
    refine ⟨visits, known sound, fun w later => ?_⟩
    simp [Surroundings.typeOfVariable, VariableSymbol.entry, Surroundings.writtenType,
      later.declared _ _ kept]

/-- A variable is bound to what the rule says, and has the type that the rule goes by. -/
lemma bindVariable_succeeds (visiting : Visiting P members table s (some scope) around)
    (owner : Option TypeId) {identifier : Identifier} (piece : P (.link identifier)) :
    Succeeds (bindVariable owner identifier) s fun bound t =>
      bound.1.span = identifier.span ∧ Sees P members around s t bound.2 fun around =>
        let entry := findVariable (around.lookedUpIn owner) bound.1.name
        bound.1.binding = entry.map (.variable ·.node) ∧
          bound.2 = entry.bind around.typeOfVariable := by
  obtain ⟨symbol?, answer, agreed⟩ := findMember_eq (σ := VariableSymbol) visiting owner
    identifier.name
  have agreed := agreed VariableSymbol.entry (·.variableList.lookup identifier.name)
    fun found owner agreed => agreed.variableTable identifier.name
  refine .bind (.askFor answer ?_)
  cases symbol? with
  | none =>
    refine .bind (.lift ((reportMissing_resolves _ _ _).mono fun _ t reported => .pure ?_))
    refine ⟨rfl, reported.toVisits, nofun, fun exact w _ => ?_⟩
    have entry : none = findVariable _ identifier.name := agreed w s.inferredTypes
    simp only [← entry]
    exact ⟨(exact.link identifier piece).1, rfl⟩
  | some symbol =>
    refine .bind (.lift ((variableType_visits visiting.sound symbol members around).mono fun type t found => .pure ?_))
    obtain ⟨visits, known, same⟩ := found
    refine ⟨rfl, visits, known, fun _ w later => ?_⟩
    have entry : some symbol.entry = findVariable _ identifier.name := agreed w s.inferredTypes
    refine ⟨congrArg (Option.map fun entry : Entry => Binding.variable entry.node) entry, ?_⟩
    exact (same w later).trans (congrArg (Option.bind · (Surroundings.typeOfVariable _)) entry)

/-! ## Functions -/

/-- Checking arguments finds the types of parameters. -/
lemma checkArgumentsFrom_visits (function : String) (own : ScopeId) (position : Nat)
    (parameters : List (NodeId × TypeRef)) (arguments : List (Option TypeId × Span)) :
    Leads (checkArgumentsFrom function own position parameters arguments) s fun _ t =>
      Visits [] s t := by
  induction parameters generalizing s position arguments with
  | nil => exact .pure (.refl s)
  | cons parameter parameters ih =>
    cases arguments with
    | nil => exact .pure (.refl s)
    | cons argument arguments =>
      obtain ⟨parameter, written⟩ := parameter
      obtain ⟨found?, span⟩ := argument
      rw [checkArgumentsFrom]
      refine Leads.bind ((declaredType_visits parameter own written).mono fun type t found => ?_)
      have rest : ∀ {u : State}, Visits [] t u →
          Leads (checkArgumentsFrom function own (position + 1) parameters arguments) u
            fun _ v => Visits [] s v :=
        fun second => (ih _ _).mono fun _ v third => (found.1.trans second).trans third
      split
      · refine Leads.bind (Leads.get ?_)
        split
        · exact rest (.refl t)
        · exact Leads.bind ((report_resolves _ _).mono fun _ u second => rest second.toVisits)
      · exact rest (.refl t)

/-- Checking the arguments of a call. -/
lemma checkArguments_visits (identifier : Identifier) (symbol : FunctionSymbol)
    (arguments : List (Option TypeId × Span)) :
    Leads (checkArguments identifier symbol arguments) s fun _ t => Visits [] s t := by
  unfold checkArguments
  split
  · refine Leads.bind ((report_resolves _ _).mono fun _ t first => ?_)
    exact (checkArgumentsFrom_visits _ _ _ _ _).mono fun _ u second => first.toVisits.trans second
  · exact checkArgumentsFrom_visits _ _ _ _ _

/-- The type that a function returns is the one that the rule goes by. -/
lemma returnedType_visits (sound : Sound s) (symbol : FunctionSymbol)
    (members : List (Option Owner)) (around : List Owner) (known : List (NodeId × TypeId)) :
    Leads (returnedType symbol) s fun type t => Visits [] s t ∧ Known t type ∧
      ∀ w, Later t w → type = (Surroundings.mk w members around known).typeOfCall symbol.entry := by
  obtain ⟨node, span, own, parameters, returns⟩ := symbol
  cases returns with
  | none =>
    refine ⟨.refl s, ?_, fun _ _ => rfl⟩
    rintro _ ⟨⟩
    exact Nat.lt_of_lt_of_le (by decide) sound.builtins
  | some written =>
    refine (declaredType_visits node own written).mono fun type t found => ?_
    obtain ⟨visits, known, kept⟩ := found
    refine ⟨visits, known sound, fun w later => ?_⟩
    simp [Surroundings.typeOfCall, FunctionSymbol.entry, Surroundings.writtenType,
      later.declared _ _ kept]

/-- A function is bound to what the rule says, and gives the type that the rule goes by. -/
lemma bindFunction_succeeds (visiting : Visiting P members table s (some scope) around)
    (owner : Option TypeId) (arity : Nat) (arguments : List (Option TypeId × Span))
    {identifier : Identifier} (piece : P (.link identifier)) :
    Succeeds (bindFunction owner arity arguments identifier) s fun bound t =>
      Sees P members around s t bound.2 fun around =>
        let entry := findFunction (around.lookedUpIn owner) bound.1.name arity
        bound.1.binding = entry.map (.function ·.node) ∧
          bound.2 = entry.bind around.typeOfCall := by
  obtain ⟨symbol?, answer, agreed⟩ := findMember_eq (σ := FunctionSymbol) visiting owner
    (mangle identifier.name arity)
  have agreed := fun exact => agreed FunctionSymbol.entry
    (·.functionList.lookup (identifier.name, arity)) fun found owner agreed =>
      agreed.functionTable exact identifier.name arity (exact.link identifier piece).2
  refine .bind (.askFor answer ?_)
  cases symbol? with
  | none =>
    refine .bind (.lift ((reportMissing_resolves _ _ _).mono fun _ t reported => .pure ?_))
    refine ⟨reported.toVisits, nofun, fun exact w _ => ?_⟩
    have entry : none = findFunction _ identifier.name arity := agreed exact w s.inferredTypes
    simp only [← entry]
    exact ⟨(exact.link identifier piece).1, rfl⟩
  | some symbol =>
    refine .bind (.lift ((checkArguments_visits identifier symbol arguments).mono
      fun _ t checked => ?_))
    refine .bind (.lift ((returnedType_visits (checked.sound visiting.sound) symbol members around
      s.inferredTypes).mono fun type u found => .pure ?_))
    obtain ⟨visits, known, same⟩ := found
    refine ⟨checked.trans visits, known, fun exact w later => ?_⟩
    have entry : some symbol.entry = findFunction _ identifier.name arity :=
      agreed exact w s.inferredTypes
    refine ⟨congrArg (Option.map fun entry : Entry => Binding.function entry.node) entry, ?_⟩
    exact (same w later).trans (congrArg (Option.bind · (Surroundings.typeOfCall _)) entry)

/-- Type arguments keep their number. -/
lemma bindTypeArguments_succeeds (visiting : Visiting P members table s (some scope) around)
    (written : Option (List TypeRef)) :
    Succeeds (bindTypeArguments written) s fun bound t =>
      Visits [] s t ∧ bound.2 = bound.1.elim 0 List.length := by
  cases written with
  | none => exact .pure ⟨.refl s, rfl⟩
  | some written =>
    refine .bind (.askFor visiting.innermost (.bind (.lift
      ((bindTypeArgumentList_visits scope written).mono fun bound t h => .pure ?_))))
    exact ⟨h.1, rfl⟩

/-! ## Types behind `new` -/

/-- The name of a type behind `new` is bound to what the rule says. -/
lemma bindConstructed_succeeds (visiting : Visiting P members table s (some scope) around) (arity : Nat)
    {identifier : Identifier} (piece : P (.link identifier)) :
    Succeeds (bindConstructed arity identifier) s fun bound t =>
      Sees P members around s t bound.2 fun around =>
        bound.1.binding = (around.constructed? bound.1.name arity).map .type ∧
          bound.2 = around.constructed? bound.1.name arity := by
  have known : Known s (constructedType? s scope identifier.name arity) := by
    intro type mem
    rcases Option.or_eq_some_iff.mp mem with builtin | ⟨-, found⟩
    · split at builtin
      · exact known_builtin? visiting.sound _ type builtin
      · cases builtin
    · exact known_find? visiting.sound _ _ _ type found
  have same : Exact P → ∀ (w : State) (known : List (NodeId × TypeId)),
      constructedType? s scope identifier.name arity =
        (Surroundings.mk w members around known).constructed? identifier.name arity := by
    intro exact w known
    have word := (exact.link identifier piece).2
    unfold constructedType? Surroundings.constructed?
    have types := map_find?_outward visiting.around fun found owner agreed =>
      agreed.typeTable exact identifier.name arity word
    exact congrArg (Option.or _) types
  refine .bind (.askFor visiting.innermost (.bind (.get ?_)))
  cases found : constructedType? s scope identifier.name arity with
  | some type =>
    refine .pure ⟨.refl s, found ▸ known, fun exact w _ => ?_⟩
    have same := found.symm.trans (same exact w s.inferredTypes)
    exact ⟨congrArg (Option.map _) same, same⟩
  | none =>
    refine .bind (.lift ((report_resolves _ _).mono fun _ t reported => .pure ?_))
    refine ⟨reported.toVisits, nofun, fun exact w _ => ?_⟩
    have same := same exact w s.inferredTypes
    simp only [← same, found]
    exact ⟨(exact.link identifier piece).1, trivial⟩

end ArrowScript.Analysis
