import ArrowScript.Proofs.Analysis.Accounting

/-!
# Names by the account

A state is at a place of the program (`Located`) when what can be seen from its innermost scope, what it knows
of variables and what is to be returned are as in a setting. There names are looked up, bound and checked
against their declarations as the setting judges them.
-/

namespace ArrowScript.Analysis

variable {origins : List Origin} {table : ScopeTable} {facts : Facts} {code : Shape → TypeId}
  {s t u : State} {registry later : TypeRegistry} {type : Option TypeId} {shape : Option Shape}

/-! ## Places -/

/-- The place that a state is at is the one of a setting. -/
structure Located (origins : List Origin) (table : ScopeTable) (setting : Setting) (s : State)
    (outer : Option ScopeId) : Prop where
  surveyed : Surveyed setting.facts origins table
  tracks : Tracks setting.facts origins table s
  innermost : s.active.head? = outer
  views : Views origins table outer setting.around
  known : ∀ node, Typed origins s.types (s.inferredTypes.lookup node) (setting.known node)
  returned : Typed origins s.types s.returnTypes.head?.join setting.returned
  nested : decide (0 < s.functionDepth) = setting.nested

variable {setting : Setting} {outer : Option ScopeId} {scope : ScopeId}
  {problems : List (Finding SemanticProblem)} {inferred : List (NodeId × Shape)}

/-- What variables are known to be after some got their types. -/
lemma Infers.known {before after : List (NodeId × TypeId)} (h : Infers origins registry before after inferred)
    {known : NodeId → Option Shape} (typed : ∀ node, Typed origins registry (before.lookup node) (known node))
    (node : NodeId) :
    Typed origins registry (after.lookup node) ((inferred.lookup node).or (known node)) := by
  obtain ⟨added, rfl, same⟩ := h
  induction same with
  | nil => exact typed node
  | @cons first second _ _ head _ ih =>
    rw [List.cons_append, List.lookup_cons, List.lookup_cons, head.1]
    cases node == second.1 with
    | true => exact .some head.2
    | false => exact ih

namespace Located

/-- Visiting goes on at the same place. -/
lemma after (h : Located origins table setting s outer)
    (follows : Follows setting.facts origins table code s t problems inferred) :
    Located origins table (setting.after inferred) t outer where
  surveyed := h.surveyed
  tracks := follows.tracks
  innermost := by rw [follows.frame.active, h.innermost]
  views := h.views
  known := follows.inferredTypes.known fun node => (h.known node).keeps follows.keeps
  returned := by
    rw [follows.frame.returnTypes]
    exact h.returned.keeps follows.keeps
  nested := by rw [follows.frame.functionDepth]; exact h.nested

/-- Visiting goes on at the same place, and no variables got types. -/
lemma same (h : Located origins table setting s outer)
    (follows : Follows setting.facts origins table code s t problems []) :
    Located origins table setting t outer :=
  h.after follows

end Located

/-! ## Looking names up -/

/-- Names are looked up as the setting sees them. -/
lemma findMember_rel {σ α : Type} [Symbol σ] {r : σ → α → Prop} (field : Layer → String → Option α)
    (empty : ∀ key, field .empty key = none)
    (shadowing : ∀ inner outer key, field (inner.shadowing outer) key = (field inner key).or (field outer key))
    (agrees : ∀ found layer, Agrees origins found layer → ∀ key,
      Option.Rel r ((Symbol.table found).lookup key) (field layer key))
    (located : Located origins table setting s (some scope)) {owner : Option TypeId} {shape : Option Shape}
    (typed : Typed origins s.types owner shape) {key : String} {symbol? : Option σ}
    (answer : findMember owner key s = .ok symbol?) :
    Option.Rel r symbol? ((setting.seen shape).bind (field · key)) ∧
      ∀ symbol ∈ symbol?, ∃ place there key, table.get? place = some there ∧
        (Symbol.table there : List (String × σ)).lookup key = some symbol := by
  have tracks := located.tracks
  unfold findMember at answer
  cases typed with
  | none =>
    rw [memberScope, scope_of_head? located.innermost] at answer
    obtain rfl := Except.ok.inj answer
    rw [Option.bind_some, tracks.scopes]
    refine ⟨located.views.rel field empty shadowing agrees key, fun symbol mem => ?_⟩
    obtain ⟨place, there, get, looked⟩ := exists_of_find? mem
    exact ⟨place, there, key, get, looked⟩
  | @some type shape shaped =>
    rw [memberScope, shaped.userNode? tracks.grown] at answer
    show Option.Rel r symbol? ((shape.userNode?.bind setting.facts.members).bind _) ∧ _
    cases user : shape.userNode? with
    | none =>
      rw [user] at answer
      obtain rfl := Except.ok.inj answer
      exact ⟨.none, fun _ mem => absurd mem (Option.not_mem_none _)⟩
    | some node =>
      -- Only types of the program have members; they are found in the scope of their definition.
      obtain ⟨name, rfl⟩ : ∃ name, shape = ⟨.user node name, 0⟩ := by
        unfold Shape.userNode? at user
        split at user <;> cases user
        exact ⟨_, rfl⟩
      obtain ⟨own, there, layer, closed, get, members, agreed⟩ :=
        located.surveyed.members node name (List.mem_of_getElem? shaped.listed)
      simp only [user, ScopeTable.reopen, tracks.scopes, closed] at answer
      obtain rfl := Except.ok.inj answer
      rw [Option.bind_some, Option.bind_some, members, Option.bind_some, ScopeTable.find?,
        ScopeTable.declared?, get, Option.bind_some]
      exact ⟨agrees there layer agreed key, fun symbol mem => ⟨own, there, key, get, mem⟩⟩

/-- Variables are looked up as the setting sees them. -/
lemma findVariable_rel (located : Located origins table setting s (some scope)) {owner : Option TypeId}
    {shape : Option Shape} (typed : Typed origins s.types owner shape) {key : String}
    {symbol? : Option VariableSymbol} (answer : findMember owner key s = .ok symbol?) :
    Option.Rel (fun symbol entry => symbol.entry = entry) symbol?
        ((setting.seen shape).bind (·.variableOf key)) ∧
      ∀ symbol ∈ symbol?, ∃ place there key, table.get? place = some there ∧
        there.variableTable.lookup key = some symbol :=
  findMember_rel Layer.variableOf (fun _ => rfl) (fun _ _ _ => rfl) (fun _ _ agrees => agrees.variableOf)
    located typed answer

/-- Functions are looked up as the setting sees them. -/
lemma findFunction_rel (located : Located origins table setting s (some scope)) {owner : Option TypeId}
    {shape : Option Shape} (typed : Typed origins s.types owner shape) {key : String}
    {symbol? : Option FunctionSymbol} (answer : findMember owner key s = .ok symbol?) :
    Option.Rel (fun symbol entry => symbol.entry = entry) symbol?
        ((setting.seen shape).bind (·.functionOf key)) ∧
      ∀ symbol ∈ symbol?, ∃ place there key, table.get? place = some there ∧
        there.functionTable.lookup key = some symbol :=
  findMember_rel Layer.functionOf (fun _ => rfl) (fun _ _ _ => rfl) (fun _ _ agrees => agrees.functionOf)
    located typed answer

/-- A missing name is reported as the account has it. -/
lemma reportMissing_follows (located : Located origins table setting s outer) (what : Declared)
    (identifier : Identifier) {owner : Option TypeId} {shape : Option Shape}
    (typed : Typed origins s.types owner shape) :
    Leads (reportMissing what identifier owner) s fun _ t => Follows setting.facts origins table setting.code
      s t [setting.missing what identifier shape] [] := by
  cases typed with
  | none => exact (report_follows _ located.tracks _ _).2.2
  | @some type shape shaped =>
    have follows := (report_follows setting.code located.tracks
      (.missingMember what identifier.name type) identifier.span).2.2
    refine follows.cast (fun coded => ?_) rfl
    show _ = [Finding.mk (SemanticProblem.missingMember what identifier.name (setting.code shape)) identifier.span]
    rw [coded type shape (follows.keeps _ _ shaped)]

/-- A variable has the type of the account. -/
lemma variableType_judges (located : Located origins table setting s outer) {symbol : VariableSymbol}
    {place : ScopeId} {there : Scope} {key : String} (get : table.get? place = some there)
    (looked : there.variableTable.lookup key = some symbol) :
    Leads (variableType symbol) s fun type t => Judges setting.facts origins table setting.code s t type
      (setting.typeOfVariable symbol.entry) [] True := by
  have sites := located.surveyed.variableSites place there key symbol get looked
  obtain ⟨node, span, own, written⟩ := symbol
  cases written with
  | none =>
    exact (⟨.refl located.tracks, located.known node, fun _ => trivial⟩ :
      Judges setting.facts origins table setting.code s s _ _ [] True)
  | some written =>
    obtain ⟨layer, sited⟩ := sites written rfl
    exact (declaredType_judges setting.code located.tracks sited).2

/-- A variable is bound as the account judges it. -/
lemma bindVariable_judges (located : Located origins table setting s (some scope)) {owner : Option TypeId}
    {shape : Option Shape} (typed : Typed origins s.types owner shape) (identifier : Identifier) :
    Yields (bindVariable owner identifier) s fun bound t =>
      let judged := setting.judgeVariable shape identifier
      Judges setting.facts origins table setting.code s t bound.2 judged.shape judged.problems
        (bound.1 = judged.node) := by
  refine .bind (.askFor fun symbol? answer => ?_)
  obtain ⟨seen, listed⟩ := findVariable_rel located typed answer
  unfold Setting.judgeVariable
  generalize (setting.seen shape).bind (·.variableOf identifier.name) = entry? at seen
  cases seen with
  | none =>
    refine .bind (.lift ((reportMissing_follows located .variable identifier typed).mono
      fun _ t follows => .pure ?_))
    exact ⟨follows, .none, fun _ => rfl⟩
  | @some symbol entry same =>
    obtain ⟨place, there, key, get, looked⟩ := listed symbol rfl
    refine .bind (.lift ((variableType_judges located get looked).mono fun type t judges => .pure ?_))
    rw [same] at judges
    refine ⟨judges.follows, judges.typed, fun _ => ?_⟩
    rw [← same]
    rfl

/-! ## Calls -/

/-- Types that must go together are checked as the account has it. -/
lemma checkExpected_follows (tracks : Tracks setting.facts origins table s)
    (problem : TypeId → TypeId → SemanticProblem) {expected found : Option TypeId}
    {expected' found' : Option Shape} (typed : Typed origins s.types expected expected')
    (typed' : Typed origins s.types found found') (span : Span) :
    Leads (checkExpected problem expected found span) s fun _ t =>
      Follows setting.facts origins table setting.code s t (setting.mismatch problem expected' found' span)
        [] := by
  unfold checkExpected Setting.mismatch
  cases typed with
  | none => exact .pure (.refl tracks)
  | @some expected expected' shaped =>
    cases typed' with
    | none => exact .pure (.refl tracks)
    | @some found found' shaped' =>
      refine Leads.bind (Leads.get ?_)
      simp only
      rw [shaped.compatible tracks.grown shaped']
      split
      · exact .pure (.refl tracks)
      · have follows := (report_follows setting.code tracks (problem expected found) span).2.2
        refine follows.cast (fun coded => ?_) rfl
        rw [coded _ _ (follows.keeps _ _ shaped), coded _ _ (follows.keeps _ _ shaped')]

/-- The types and spans of arguments are as judged. -/
abbrev ArgumentsTyped (origins : List Origin) (registry : TypeRegistry)
    (arguments : List (Option TypeId × Span)) (judged : List (Option Shape × Span)) : Prop :=
  List.Forall₂ (fun found shape => Typed origins registry found.1 shape.1 ∧ found.2 = shape.2) arguments judged

/-- Arguments keep their types. -/
lemma ArgumentsTyped.keeps {arguments : List (Option TypeId × Span)} {judged : List (Option Shape × Span)}
    (h : ArgumentsTyped origins registry arguments judged) (keeps : Keeps origins registry later) :
    ArgumentsTyped origins later arguments judged :=
  h.imp fun _ _ same => ⟨same.1.keeps keeps, same.2⟩

/-- One argument is checked and then the others. -/
lemma checkArgumentsFrom_cons (function : String) (own : ScopeId) (position : Nat) (parameter : NodeId)
    (written : TypeRef) (parameters : List (NodeId × TypeRef)) (found : Option TypeId) (span : Span)
    (arguments : List (Option TypeId × Span)) :
    checkArgumentsFrom function own position ((parameter, written) :: parameters)
      ((found, span) :: arguments) = (do
        let expected ← declaredType parameter own written
        checkExpected (.argumentDiffers position function) expected found span
        checkArgumentsFrom function own (position + 1) parameters arguments) := by
  rw [checkArgumentsFrom]
  congr 1
  funext expected
  unfold checkExpected
  cases expected <;> cases found <;> try rfl
  next expected found =>
    refine Eq.trans (bind_congr fun state => ?_) (bind_assoc _ _ _).symm
    split
    · exact (pure_bind _ _).symm
    · rfl

/-- Arguments are checked from a position on as the account has it. -/
lemma checkArgumentsFrom_follows (function : String) {own : ScopeId} {parameters : List (NodeId × TypeRef)}
    (sited : ∀ parameter ∈ parameters,
      ∃ layer, Sited setting.facts origins table parameter.1 own parameter.2 layer) :
    ∀ (position : Nat) {arguments : List (Option TypeId × Span)} {judged : List (Option Shape × Span)}
      {s : State}, Tracks setting.facts origins table s → ArgumentsTyped origins s.types arguments judged →
      Leads (checkArgumentsFrom function own position parameters arguments) s fun _ t =>
        Follows setting.facts origins table setting.code s t
          (setting.argumentMismatches function position (parameters.map Prod.fst) judged) [] := by
  -- On the parameters: a missing or a further argument is reported elsewhere.
  induction parameters with
  | nil =>
    intro position arguments judged s tracks typed
    rw [List.map_nil, Setting.argumentMismatches, checkArgumentsFrom]
    · exact .pure (.refl tracks)
    · simp
    · simp
  | cons first rest ih =>
    obtain ⟨parameter, written⟩ := first
    intro position arguments judged s tracks typed
    cases typed with
    | nil =>
      rw [Setting.argumentMismatches, checkArgumentsFrom]
      · exact .pure (.refl tracks)
      · simp
      · simp
    | @cons argument argument' arguments judged head tail =>
      obtain ⟨found, span⟩ := argument
      obtain ⟨found', span'⟩ := argument'
      obtain ⟨head, rfl⟩ : Typed origins s.types found found' ∧ span = span' := head
      obtain ⟨layer, site⟩ := sited _ List.mem_cons_self
      rw [checkArgumentsFrom_cons, List.map_cons, Setting.argumentMismatches]
      refine Leads.bind ((declaredType_judges setting.code tracks site).mono fun expected t first => ?_)
      obtain ⟨-, first⟩ := first
      refine Leads.bind ((checkExpected_follows first.follows.tracks _ first.typed
        (head.keeps first.follows.keeps) span).mono fun _ u second => ?_)
      have both := first.follows.trans second
      refine (ih (fun parameter mem => sited parameter (List.mem_cons_of_mem _ mem)) (position + 1)
        second.tracks (ArgumentsTyped.keeps tail both.keeps)).mono fun _ v third => ?_
      exact both.trans third

/-- The arguments of a call are checked as the account has it. -/
lemma checkArguments_follows (tracks : Tracks setting.facts origins table s) (identifier : Identifier)
    {symbol : FunctionSymbol}
    (sited : ∀ parameter ∈ symbol.parameters,
      ∃ layer, Sited setting.facts origins table parameter.1 symbol.scope parameter.2 layer)
    {arguments : List (Option TypeId × Span)} {judged : List (Option Shape × Span)}
    (typed : ArgumentsTyped origins s.types arguments judged) :
    Leads (checkArguments identifier symbol arguments) s fun _ t =>
      Follows setting.facts origins table setting.code s t
        (setting.argumentProblems identifier (symbol.parameters.map Prod.fst) judged) [] := by
  have rest : ∀ {t : State} {problems : List (Finding SemanticProblem)},
      Follows setting.facts origins table setting.code s t problems [] →
      Leads (checkArgumentsFrom identifier.name symbol.scope 1 symbol.parameters arguments) t fun _ u =>
        Follows setting.facts origins table setting.code s u (problems ++
          setting.argumentMismatches identifier.name 1 (symbol.parameters.map Prod.fst) judged) [] :=
    fun first => (checkArgumentsFrom_follows identifier.name sited 1 first.tracks
      (typed.keeps first.keeps)).mono fun _ _ second => first.trans second
  unfold checkArguments Setting.argumentProblems
  rw [← typed.length_eq, List.length_map]
  split
  · refine Leads.bind ((report_follows setting.code tracks _ _).mono fun _ t reported => ?_)
    exact rest reported.2.2
  · exact rest (.refl tracks)

/-- A function returns the type of the account. -/
lemma returnedType_judges (located : Located origins table setting s outer) {symbol : FunctionSymbol}
    {place : ScopeId} {there : Scope} {key : String} (get : table.get? place = some there)
    (looked : there.functionTable.lookup key = some symbol) :
    Leads (returnedType symbol) s fun type t => Judges setting.facts origins table setting.code s t type
      (setting.typeOfCall symbol.entry) [] True := by
  have sites := located.surveyed.functionSites place there key symbol get looked
  obtain ⟨node, span, own, parameters, written⟩ := symbol
  cases written with
  | none =>
    have nothing : Shaped origins s.types .nothing (.builtin .nothing) :=
      located.tracks.grown.shaped_builtin (by decide)
    exact (⟨.refl located.tracks, .some nothing, fun _ => trivial⟩ :
      Judges setting.facts origins table setting.code s s _ _ [] True)
  | some written =>
    obtain ⟨layer, sited⟩ := sites written rfl
    exact (declaredType_judges setting.code located.tracks sited).2

/-- A called function is bound as the account judges it. -/
lemma bindFunction_judges (located : Located origins table setting s (some scope)) {owner : Option TypeId}
    {shape : Option Shape} (typed : Typed origins s.types owner shape) (arity : Nat)
    {arguments : List (Option TypeId × Span)} {judged : List (Option Shape × Span)}
    (found : ArgumentsTyped origins s.types arguments judged) (identifier : Identifier) :
    Yields (bindFunction owner arity arguments identifier) s fun bound t =>
      let judged := setting.judgeFunction shape arity judged identifier
      Judges setting.facts origins table setting.code s t bound.2 judged.shape judged.problems
        (bound.1 = judged.node) := by
  refine .bind (.askFor fun symbol? answer => ?_)
  obtain ⟨seen, listed⟩ := findFunction_rel located typed answer
  unfold Setting.judgeFunction
  generalize (setting.seen shape).bind (·.functionOf (mangle identifier.name arity)) = entry? at seen
  cases seen with
  | none =>
    refine .bind (.lift ((reportMissing_follows located .function identifier typed).mono
      fun _ t follows => .pure ?_))
    exact ⟨follows, .none, fun _ => rfl⟩
  | @some symbol entry same =>
    obtain ⟨place, there, key, get, looked⟩ := listed symbol rfl
    have sited := located.surveyed.parameterSites place there key symbol get looked
    have parameters := located.surveyed.parameters place there key symbol get looked
    refine .bind (.lift ((checkArguments_follows located.tracks identifier sited found).mono
      fun _ t checked => ?_))
    refine .bind (.lift ((returnedType_judges (located.same checked) get looked).mono
      fun type u judges => .pure ?_))
    rw [← parameters] at checked
    rw [← same]
    exact ⟨(checked.trans judges.follows).cast (fun _ => List.append_nil _) rfl, judges.typed, fun _ => rfl⟩

/-- The type arguments of a call are bound as the account judges them. -/
lemma bindTypeArguments_judges (located : Located origins table setting s (some scope))
    (written : Option (List TypeRef)) :
    Yields (bindTypeArguments written) s fun bound t =>
      let judged := setting.judgeTypeArguments written
      Follows setting.facts origins table setting.code s t judged.problems [] ∧ bound.2 = judged.shape ∧
        (Coded origins t.types setting.code → bound.1 = judged.node) := by
  cases written with
  | none => exact .pure ⟨.refl located.tracks, rfl, fun _ => rfl⟩
  | some written =>
    refine .bind (.askFor fun own answer => ?_)
    rw [scope_of_head? located.innermost] at answer
    obtain rfl := Except.ok.inj answer
    refine .bind (.lift ((bindTypeArgumentList_follows setting.code located.views written
      located.tracks).mono fun bound t h => .pure ?_))
    exact ⟨h.1, h.2.1, fun coded => congrArg some (h.2.2 coded)⟩

/-! ## New values -/

/-- The type that a name behind `new` stands for is looked up as the setting sees it. -/
lemma constructedType?_rel (located : Located origins table setting s (some scope)) (name : String)
    (arity : Nat) :
    Option.Rel (fun type origin => origins[TypeId.index type]? = some origin)
      (constructedType? s scope name arity) (setting.constructed? name arity) := by
  have declared : Option.Rel (fun type origin => origins[TypeId.index type]? = some origin)
      ((s.scopes.find? scope (mangle name arity) .outward : Option TypeSymbol).map TypeSymbol.type)
      (setting.around.originOf (mangle name arity)) := by
    rw [located.tracks.scopes]
    have seen := located.views.findsType (mangle name arity)
    generalize (table.find? scope (mangle name arity) .outward : Option TypeSymbol) = symbol? at seen
    generalize setting.around.originOf (mangle name arity) = origin? at seen
    cases seen with
    | none => exact .none
    | some names => exact .some names
  unfold constructedType? Setting.constructed?
  split
  · cases found : TypeRegistry.builtin? name with
    | none => exact declared
    | some type => exact .some (located.tracks.grown.shaped_builtin (small_of_builtin? found)).listed
  · exact declared

/-- The name of a type behind `new` is bound as the account judges it. -/
lemma bindConstructed_judges (located : Located origins table setting s (some scope)) (arity : Nat)
    (identifier : Identifier) :
    Yields (bindConstructed arity identifier) s fun bound t =>
      let judged := setting.judgeConstructed arity identifier
      Judges setting.facts origins table setting.code s t bound.2 judged.shape judged.problems
        (bound.1 = judged.node) := by
  refine .bind (.askFor fun own answer => ?_)
  rw [scope_of_head? located.innermost] at answer
  obtain rfl := Except.ok.inj answer
  refine .bind (.get ?_)
  have seen := constructedType?_rel located identifier.name arity
  unfold Setting.judgeConstructed
  generalize constructedType? s scope identifier.name arity = type? at seen
  generalize setting.constructed? identifier.name arity = origin? at seen
  cases seen with
  | none =>
    refine .bind (.lift ((report_follows setting.code located.tracks _ _).mono fun _ t reported => .pure ?_))
    exact ⟨reported.2.2, .none, fun _ => rfl⟩
  | @some type origin listed =>
    have shaped : Shaped origins s.types type ⟨origin, 0⟩ := .origin listed
    refine .pure ⟨.refl located.tracks, .some shaped, fun coded => ?_⟩
    show _ = { identifier with binding := some (Binding.type (setting.code ⟨origin, 0⟩)) }
    rw [coded _ _ shaped]

end ArrowScript.Analysis
