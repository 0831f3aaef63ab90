import ArrowScript.Proofs.Analysis.AccountingExpressions
import ArrowScript.Proofs.Analysis.Surveying

/-!
# Statements by the account

Where the regions of a tree are known (`AllCharted`), the tree is visited as the account says, and the types of
all declarations in it are found on the way (`Accounts`).
-/

namespace ArrowScript.Analysis

variable {origins : List Origin} {table : ScopeTable} {facts : Facts} {code : Shape → TypeId}
  {setting : Setting} {s t u : State} {scope : ScopeId} {outer : Option ScopeId}

/-! ## Charted regions -/

/-- The scope of a region is known, and so is what is written there. -/
structure Charted (facts : Facts) (origins : List Origin) (table : ScopeTable) (region : Region)
    (scope : ScopeId) : Prop where
  closed : table.scopeOf? region.place.owner = some scope
  views : Views origins table (some scope) region.place.layer
  sited : ∀ write ∈ region.writes, Sited facts origins table write.1 scope write.2 region.place.layer
  known : ∀ origin ∈ region.origins, origin ∈ origins

/-- The scopes of some regions are known. -/
def AllCharted (facts : Facts) (origins : List Origin) (table : ScopeTable) (regions : List Region) : Prop :=
  ∀ region ∈ regions, ∃ scope, Charted facts origins table region scope

namespace AllCharted

variable {first second : List Region}

/-- The first of some regions. -/
lemma left (h : AllCharted facts origins table (first ++ second)) : AllCharted facts origins table first :=
  fun region mem => h region (List.mem_append_left _ mem)

/-- The last of some regions. -/
lemma right (h : AllCharted facts origins table (first ++ second)) : AllCharted facts origins table second :=
  fun region mem => h region (List.mem_append_right _ mem)

/-- All but the first region. -/
lemma tail {region : Region} (h : AllCharted facts origins table (region :: second)) :
    AllCharted facts origins table second :=
  fun other mem => h other (List.mem_cons_of_mem _ mem)

end AllCharted

/-! ## Visited parts -/

/-- The types of some declarations were found. -/
def Covers (t : State) (writes : List (NodeId × TypeRef)) : Prop :=
  ∀ write ∈ writes, write.1 ∈ t.declaredTypes.map Prod.fst

/-- Types that were found stay known. -/
lemma Covers.later {writes : List (NodeId × TypeRef)} {problems : List (Finding SemanticProblem)}
    (h : Covers s writes) (notes : Notes facts s t problems) : Covers t writes := by
  obtain ⟨fresh, keys, -⟩ := notes
  intro write mem
  rw [keys]
  exact List.mem_append_right _ (h write mem)

/-- The type of a single declaration was found. -/
lemma covers_of_kept {node : NodeId} {written : TypeRef} (kept : (t.declaredTypes.lookup node).isSome) :
    Covers t [(node, written)] := by
  intro write mem
  rw [List.mem_singleton.mp mem]
  obtain ⟨type, found⟩ := Option.isSome_iff_exists.mp kept
  exact List.mem_map_of_mem (mem_of_lookup_eq_some found)

/-- A part was visited as the account says, and the types of the declarations in it were found. -/
structure Accounts (facts : Facts) (origins : List Origin) (table : ScopeTable) (code : Shape → TypeId)
    (s t : State) (problems : List (Finding SemanticProblem)) (inferred : List (NodeId × Shape))
    (writes : List (NodeId × TypeRef)) (same : Prop) : Prop where
  follows : Follows facts origins table code s t problems inferred
  covers : Coded origins t.types code → Covers t writes
  same : Coded origins t.types code → same

namespace Accounts

variable {problems more : List (Finding SemanticProblem)} {inferred added : List (NodeId × Shape)}
  {first second writes : List (NodeId × TypeRef)} {same same' whole : Prop}

/-- Nothing happened. -/
lemma refl (tracks : Tracks facts origins table s) (h : same) :
    Accounts facts origins table code s s [] [] [] same :=
  ⟨.refl tracks, fun _ => nofun, fun _ => h⟩

/-- A part in which nothing is declared. -/
lemma of_follows (h : Follows facts origins table code s t problems inferred)
    (same : Coded origins t.types code → whole) :
    Accounts facts origins table code s t problems inferred [] whole :=
  ⟨h, fun _ => nofun, same⟩

/-- One part was visited after the other. -/
lemma trans (h : Accounts facts origins table code s t problems inferred first same)
    (g : Accounts facts origins table code t u more added second same') :
    Accounts facts origins table code s u (problems ++ more) (added ++ inferred) (first ++ second)
      (same ∧ same') where
  follows := h.follows.trans g.follows
  covers := fun coded write mem => by
    rcases List.mem_append.mp mem with mem | mem
    · exact (h.covers (coded.before g.follows.keeps)).later (g.follows.notes coded) write mem
    · exact g.covers coded write mem
  same := fun coded => ⟨h.same (coded.before g.follows.keeps), g.same coded⟩

/-- The same in other words. -/
lemma cast (h : Accounts facts origins table code s t problems inferred first same)
    (e : problems = more) (e' : inferred = added) (covered : ∀ write ∈ writes, write ∈ first)
    (implies : same → whole) : Accounts facts origins table code s t more added writes whole where
  follows := h.follows.cast (fun _ => e) e'
  covers := fun coded write mem => h.covers coded write (covered write mem)
  same := fun coded => implies (h.same coded)

/-- A part was visited in a scope of its own, which is left. -/
lemma leave {own : ScopeId}
    (h : Accounts facts origins table code { s with active := own :: s.active } t problems inferred writes same) :
    Accounts facts origins table code s { t with active := t.active.tail } problems inferred writes same where
  follows :=
    { tracks := ⟨h.follows.tracks.scopes, h.follows.tracks.grown, h.follows.tracks.declared,
        h.follows.tracks.nodup, h.follows.tracks.defined⟩
      frame := ⟨congrArg List.tail h.follows.frame.active, h.follows.frame.functionDepth,
        h.follows.frame.returnTypes⟩
      keeps := h.follows.keeps
      inferredTypes := h.follows.inferredTypes
      notes := h.follows.notes }
  covers := h.covers
  same := h.same

/-- The body of a function was visited. -/
lemma body {type : Option TypeId}
    (h : Accounts facts origins table code
      { s with returnTypes := type :: s.returnTypes, functionDepth := s.functionDepth + 1 } t problems inferred
      writes same) :
    Accounts facts origins table code s
      { t with functionDepth := t.functionDepth - 1, returnTypes := t.returnTypes.tail } problems inferred
      writes same where
  follows :=
    { tracks := ⟨h.follows.tracks.scopes, h.follows.tracks.grown, h.follows.tracks.declared,
        h.follows.tracks.nodup, h.follows.tracks.defined⟩
      frame := ⟨h.follows.frame.active,
        show t.functionDepth - 1 = s.functionDepth by rw [h.follows.frame.functionDepth]; rfl,
        congrArg List.tail h.follows.frame.returnTypes⟩
      keeps := h.follows.keeps
      inferredTypes := h.follows.inferredTypes
      notes := h.follows.notes }
  covers := h.covers
  same := h.same

end Accounts

namespace Located

/-- The scope of a region is entered. -/
lemma enter (h : Located origins table setting s outer) {own : ScopeId} {layer : Layer}
    (views : Views origins table (some own) (layer.shadowing setting.around)) :
    Located origins table (setting.inside layer) { s with active := own :: s.active } (some own) where
  surveyed := h.surveyed
  tracks := ⟨h.tracks.scopes, h.tracks.grown, h.tracks.declared, h.tracks.nodup, h.tracks.defined⟩
  innermost := rfl
  views := views
  known := h.known
  returned := h.returned
  nested := h.nested

/-- The body of a function is entered. -/
lemma body (h : Located origins table setting s outer) {type : Option TypeId} {returned : Option Shape}
    (typed : Typed origins s.types type returned) :
    Located origins table (setting.body returned)
      { s with returnTypes := type :: s.returnTypes, functionDepth := s.functionDepth + 1 } outer where
  surveyed := h.surveyed
  tracks := ⟨h.tracks.scopes, h.tracks.grown, h.tracks.declared, h.tracks.nodup, h.tracks.defined⟩
  innermost := h.innermost
  views := h.views
  known := h.known
  returned := typed
  nested := decide_eq_true (Nat.succ_pos _)

/-- The scope of a charted region is reopened. -/
lemma reopen (h : Located origins table setting s outer) {region : Region} {own found : ScopeId}
    (charted : Charted facts origins table region own)
    (answer : s.scopes.reopen region.place.owner = .ok found) : found = own := by
  rw [h.tracks.scopes, ScopeTable.reopen, charted.closed] at answer
  exact (Except.ok.inj answer).symm

end Located

/-! ## Declarations -/

/-- An expression that may be absent is visited as the account judges it. -/
lemma visitOptional_judges (located : Located origins table setting s (some scope))
    (value : Option Expression) :
    Yields (visitOptional visitExpression value) s fun r t =>
      Judges setting.facts origins table setting.code s t r.2 (optionJudged setting value).shape
        (optionJudged setting value).problems (r.1 = (optionJudged setting value).node) ∧
      r.1.isSome = (optionJudged setting value).node.isSome := by
  cases value with
  | none => exact .pure ⟨⟨.refl located.tracks, .none, fun _ => rfl⟩, rfl⟩
  | some value =>
    refine .bind (.within ((visitExpression_judges value located).mono fun r t first => ?_))
    exact .pure ⟨⟨first.1.follows, first.1.typed, fun coded => congrArg some (first.1.same coded)⟩, rfl⟩

/-- A declaration is visited as the account says. -/
lemma visitDeclaration_accounts (located : Located origins table setting s (some scope))
    (declaration : Declaration)
    (sited : ∀ write ∈ declaration.writes,
      Sited setting.facts origins table write.1 scope write.2 setting.around) :
    Yields (visitDeclaration declaration) s fun r t =>
      Accounts setting.facts origins table setting.code s t (declaration.visited setting).problems
        (declaration.visited setting).inferred declaration.writes
        (r = (declaration.visited setting).node) := by
  refine .bind (.askFor fun own answer => ?_)
  rw [scope_of_head? located.innermost] at answer
  obtain rfl := Except.ok.inj answer
  obtain ⟨id, name, written, initial, type⟩ := declaration
  unfold Declaration.visited
  cases written with
  | some written =>
    have site : Sited setting.facts origins table id scope written setting.around :=
      sited (id, written) (by simp [Declaration.writes])
    refine .bind (.lift ((bindDeclared_judges setting.code located.tracks site).mono fun bound t first => ?_))
    obtain ⟨written', expected⟩ := bound
    obtain ⟨kept, first⟩ := first
    have writtenNode : Coded origins t.types setting.code →
        written' = written.bound setting.code setting.around := first.same
    have typed : Typed origins t.types expected (setting.around.shape? written) := first.typed
    refine .bind (.within ((visitOptional_judges (located.same first.follows) initial).mono
      fun r u second => ?_))
    obtain ⟨initial', found⟩ := r
    obtain ⟨second, present⟩ := second
    have initialNode : Coded origins u.types setting.code → initial' = (optionJudged setting initial).node :=
      second.same
    -- What remains once the value was checked.
    have done : ∀ {v : State} {problems : List (Finding SemanticProblem)},
        Follows setting.facts origins table setting.code u v problems [] →
        (Coded origins v.types setting.code → problems = (optionJudged setting initial).node.elim []
          fun value => setting.mismatch .initialDiffers (setting.around.shape? written)
            (optionJudged setting initial).shape value.root.span) →
        Accounts setting.facts origins table setting.code s v
          ((optionJudged setting initial).problems ++ (optionJudged setting initial).node.elim []
            fun value => setting.mismatch .initialDiffers (setting.around.shape? written)
              (optionJudged setting initial).shape value.root.span) [] [(id, written)]
          (⟨id, name, some written', initial', expected⟩ =
            (⟨id, name, some (written.bound setting.code setting.around), (optionJudged setting initial).node,
              (setting.around.shape? written).map setting.code⟩ : Declaration)) := by
      intro v problems third same
      have both := second.follows.trans third
      refine ⟨(first.follows.trans both).cast (fun coded => by rw [same coded]; rfl) rfl, fun coded => ?_,
        fun coded => ?_⟩
      · exact (covers_of_kept kept).later (both.notes coded)
      · have coded' := coded.before third.keeps
        rw [writtenNode (coded'.before second.follows.keeps), initialNode coded',
          typed.coded (coded'.before second.follows.keeps)]
    cases initial' with
    | none =>
      have absent : (optionJudged setting initial).node = none := Option.isNone_iff_eq_none.mp (by simpa using present)
      refine .pure (done (.refl second.follows.tracks) fun _ => ?_)
      rw [absent]
      rfl
    | some value =>
      refine .bind (.lift ((checkExpected_follows second.follows.tracks .initialDiffers
        (typed.keeps second.follows.keeps) second.typed value.root.span).mono
        fun _ v third => .pure (done third fun coded => ?_)))
      rw [← initialNode (coded.before third.keeps)]
      rfl
  | none =>
    refine .bind (.within ((visitOptional_judges located initial).mono fun r t first => ?_))
    obtain ⟨initial', found⟩ := r
    obtain ⟨⟨follows, typed, same⟩, -⟩ := first
    have initialNode : Coded origins t.types setting.code → initial' = (optionJudged setting initial).node :=
      same
    simp only
    -- Without a written type, the variable gets the type of its value from here on.
    generalize (optionJudged setting initial).shape = shape at typed
    cases typed with
    | none =>
      refine .pure (.of_follows follows fun coded => ?_)
      rw [initialNode coded]
      rfl
    | @some found shape shaped =>
      refine .bind (.changed (.pure ⟨⟨?_, ?_, follows.keeps, ?_, follows.notes⟩, (fun _ _ listed => by cases listed),
        fun coded => ?_⟩))
      · exact ⟨follows.tracks.scopes, follows.tracks.grown, follows.tracks.declared, follows.tracks.nodup,
          follows.tracks.defined⟩
      · exact ⟨follows.frame.active, follows.frame.functionDepth, follows.frame.returnTypes⟩
      · obtain ⟨added, e, infers⟩ := follows.inferredTypes
        cases infers
        exact ⟨[(id, found)], by show (id, found) :: t.inferredTypes = _; rw [e]; rfl,
          .cons ⟨rfl, shaped⟩ .nil⟩
      · rw [initialNode coded, ← coded _ _ shaped]
        rfl

/-- Declarations are visited as the account says. -/
lemma visitDeclarations_account (list : List Declaration) :
    ∀ {setting : Setting} {s : State}, Located origins table setting s (some scope) →
      (∀ write ∈ list.flatMap Declaration.writes,
        Sited setting.facts origins table write.1 scope write.2 setting.around) →
      Yields (visitDeclarations list) s fun r t =>
        Accounts setting.facts origins table setting.code s t (declarationsVisited setting list).problems
          (declarationsVisited setting list).inferred (list.flatMap Declaration.writes)
          (r = (declarationsVisited setting list).node) := by
  induction list with
  | nil => exact fun located _ => .pure (.refl located.tracks rfl)
  | cons declaration rest ih =>
    intro setting s located sited
    rw [List.flatMap_cons] at sited ⊢
    refine .bind (.within ((visitDeclaration_accounts located declaration fun write mem =>
      sited write (List.mem_append_left _ mem)).mono fun r t head => ?_))
    refine .bind (.within ((ih (located.after head.follows) fun write mem =>
      sited write (List.mem_append_right _ mem)).mono fun r u others => .pure ?_))
    refine (head.trans others).cast rfl rfl (fun _ mem => mem) ?_
    rintro ⟨rfl, rfl⟩
    rfl

/-- A parameter is visited as the account says. -/
lemma visitParameter_accounts (tracks : Tracks setting.facts origins table s) (parameter : Parameter)
    (sited : Sited setting.facts origins table parameter.id scope parameter.written setting.around) :
    Leads (visitParameter scope parameter) s fun r t =>
      Accounts setting.facts origins table setting.code s t [] [] [(parameter.id, parameter.written)]
        (r = parameter.filled setting) := by
  refine Leads.bind ((bindDeclared_judges setting.code tracks sited).mono fun bound t first => .pure ?_)
  obtain ⟨kept, first⟩ := first
  refine ⟨first.follows, fun _ => covers_of_kept kept, fun coded => ?_⟩
  rw [first.same coded]
  rfl

/-- Parameters are visited as the account says. -/
lemma visitParameters_account (list : List Parameter) :
    ∀ {s : State}, Tracks setting.facts origins table s →
      (∀ write ∈ list.map fun parameter => (parameter.id, parameter.written),
        Sited setting.facts origins table write.1 scope write.2 setting.around) →
      Leads (visitParameters scope list) s fun r t =>
        Accounts setting.facts origins table setting.code s t [] []
          (list.map fun parameter => (parameter.id, parameter.written))
          (r = list.map (Parameter.filled setting)) := by
  unfold visitParameters
  induction list with
  | nil => exact fun tracks _ => .pure (.refl tracks rfl)
  | cons parameter rest ih =>
    intro s tracks sited
    rw [List.mapM_cons]
    refine Leads.bind ((visitParameter_accounts tracks parameter (sited _ List.mem_cons_self)).mono
      fun r t head => ?_)
    refine Leads.bind ((ih head.follows.tracks fun write mem =>
      sited write (List.mem_cons_of_mem _ mem)).mono fun r u others => .pure ?_)
    refine (head.trans others).cast rfl rfl (fun _ mem => mem) ?_
    rintro ⟨rfl, rfl⟩
    rfl

/-- The type that a function returns is visited as the account says. -/
lemma visitReturns_accounts (tracks : Tracks setting.facts origins table s) (node : NodeId)
    (returns : Option TypeRef)
    (sited : ∀ write ∈ (returns.map (node, ·)).toList,
      Sited setting.facts origins table write.1 scope write.2 setting.around) :
    Leads (visitReturns node scope returns) s fun r t =>
      Accounts setting.facts origins table setting.code s t [] [] (returns.map (node, ·)).toList
        (r.1 = returns.map (TypeRef.bound setting.code setting.around)) ∧
      Typed origins t.types r.2 (returns.elim (some (.builtin .nothing)) setting.around.shape?) := by
  cases returns with
  | none => exact .pure ⟨.refl tracks rfl, .some (tracks.grown.shaped_builtin (by decide))⟩
  | some written =>
    refine Leads.bind ((bindDeclared_judges setting.code tracks (sited _ List.mem_cons_self)).mono
      fun bound t first => .pure ?_)
    obtain ⟨kept, first⟩ := first
    exact ⟨⟨first.follows, fun _ => covers_of_kept kept, fun coded => congrArg some (first.same coded)⟩,
      first.typed⟩

/-- A returned value is visited as the account says. -/
lemma visitReturning_accounts (located : Located origins table setting s (some scope)) (keyword : Span)
    (value : Option Expression) :
    Yields (visitReturning keyword value) s fun r t =>
      Accounts setting.facts origins table setting.code s t (returnVisited setting keyword value).problems
        (returnVisited setting keyword value).inferred [] (r = (returnVisited setting keyword value).node) := by
  unfold returnVisited
  refine .bind ((visitOptional_judges located value).mono fun r t first => ?_)
  obtain ⟨value', found⟩ := r
  obtain ⟨first, present⟩ := first
  have node : Coded origins t.types setting.code → value' = (optionJudged setting value).node := first.same
  have typed : Typed origins t.types (if value'.isSome then found else some .nothing)
      (if (optionJudged setting value).node.isSome then (optionJudged setting value).shape
        else some (.builtin .nothing)) := by
    rw [← present]
    split
    · exact first.typed
    · exact .some (first.follows.tracks.grown.shaped_builtin (by decide))
  refine .bind (.get (.bind (.lift ((checkExpected_follows first.follows.tracks .returnDiffers
    (located.same first.follows).returned typed keyword).mono fun _ u second => .pure ?_))))
  exact .of_follows (first.follows.trans second) fun coded => node (coded.before second.keeps)

/-! ## Trees -/

mutual

/-- A block is visited as the account says. -/
lemma visitBlock_accounts :
    ∀ (block : Block) {setting : Setting} {s : State} {outer : Option ScopeId},
      Located origins table setting s outer →
      AllCharted setting.facts origins table (block.regions setting.nested setting.around) →
      Yields (visitBlock block) s fun r t =>
        Accounts setting.facts origins table setting.code s t (block.visited setting).problems
          (block.visited setting).inferred
          ((block.regions setting.nested setting.around).flatMap Region.writes)
          (r = (block.visited setting).node)
  | ⟨id, kind, statements, span⟩, setting, s, outer, located, charted => by
    rw [Block.regions] at charted ⊢
    rw [visitBlock, Block.visited]
    obtain ⟨own, region⟩ := charted _ List.mem_cons_self
    refine .bind (.askFor fun found answer => ?_)
    obtain rfl := located.reopen region answer
    refine .bind (.lift (.changed ?_))
    refine .bind (.within ((visitStatements_account statements (located.enter region.views) region.sited
      charted.tail).mono fun r t inner => .bind (.lift (.changed (.pure ?_)))))
    refine inner.leave.cast rfl rfl (fun write mem => ?_) ?_
    · rwa [List.flatMap_cons] at mem
    · rintro rfl
      rfl

lemma visitStatements_account :
    ∀ (list : List Statement) {setting : Setting} {s : State} {scope : ScopeId},
      Located origins table setting s (some scope) →
      (∀ write ∈ list.flatMap Statement.writes,
        Sited setting.facts origins table write.1 scope write.2 setting.around) →
      AllCharted setting.facts origins table (statementRegions setting.nested setting.around list) →
      Yields (visitStatements list) s fun r t =>
        Accounts setting.facts origins table setting.code s t (statementsVisited setting list).problems
          (statementsVisited setting list).inferred
          (list.flatMap Statement.writes ++
            (statementRegions setting.nested setting.around list).flatMap Region.writes)
          (r = (statementsVisited setting list).node)
  | [], setting, s, scope, located, sited, charted => by
    rw [visitStatements, statementsVisited]
    exact .pure (.refl located.tracks rfl)
  | statement :: rest, setting, s, scope, located, sited, charted => by
    rw [statementRegions] at charted ⊢
    rw [List.flatMap_cons] at sited ⊢
    rw [visitStatements, statementsVisited]
    refine .bind (.within ((visitStatement_accounts statement located (fun write mem =>
      sited write (List.mem_append_left _ mem)) charted.left).mono fun r t head => ?_))
    refine .bind (.within ((visitStatements_account rest (located.after head.follows) (fun write mem =>
      sited write (List.mem_append_right _ mem)) charted.right).mono fun r u others => .pure ?_))
    refine (head.trans others).cast rfl rfl (fun write mem => ?_) ?_
    · simp only [List.flatMap_append, List.mem_append] at mem ⊢
      tauto
    · rintro ⟨rfl, rfl⟩
      rfl

lemma visitStatement_accounts :
    ∀ (statement : Statement) {setting : Setting} {s : State} {scope : ScopeId},
      Located origins table setting s (some scope) →
      (∀ write ∈ statement.writes,
        Sited setting.facts origins table write.1 scope write.2 setting.around) →
      AllCharted setting.facts origins table (statement.regions setting.nested setting.around) →
      Yields (visitStatement statement) s fun r t =>
        Accounts setting.facts origins table setting.code s t (statement.visited setting).problems
          (statement.visited setting).inferred
          (statement.writes ++ (statement.regions setting.nested setting.around).flatMap Region.writes)
          (r = (statement.visited setting).node)
  | .type definition, setting, s, scope, located, sited, charted => by
    rw [Statement.regions] at charted ⊢
    rw [visitStatement, Statement.visited]
    refine .bind (.get ?_)
    rw [← located.nested] at charted ⊢
    by_cases deep : 0 < s.functionDepth
    · simp only [deep, decide_true, if_true]
      exact .pure (.refl located.tracks rfl)
    · simp only [deep, decide_false, if_false, Bool.false_eq_true] at charted ⊢
      refine .bind (.within ((visitTypeDef_accounts definition located charted).mono fun r t inner => ?_))
      exact .pure (inner.cast rfl rfl (fun _ mem => mem) (congrArg Statement.type))
  | .function definition, setting, s, scope, located, sited, charted => by
    rw [Statement.regions] at charted ⊢
    rw [visitStatement, Statement.visited]
    refine .bind (.get ?_)
    rw [← located.nested] at charted ⊢
    by_cases deep : 0 < s.functionDepth
    · simp only [deep, decide_true, if_true]
      exact .pure (.refl located.tracks rfl)
    · simp only [deep, decide_false, if_false, Bool.false_eq_true] at charted ⊢
      refine .bind (.within ((visitFunctionDef_accounts definition located charted).mono
        fun r t inner => ?_))
      exact .pure (inner.cast rfl rfl (fun _ mem => mem) (congrArg Statement.function))
  | .variable declaration, setting, s, scope, located, sited, charted => by
    rw [visitStatement, Statement.visited, Statement.regions]
    refine .bind (.within ((visitDeclaration_accounts located declaration sited).mono fun r t inner => ?_))
    exact .pure (inner.cast rfl rfl (fun write mem => by simpa [Statement.writes] using mem)
      (congrArg Statement.variable))
  | .returning keyword value, setting, s, scope, located, sited, charted => by
    rw [visitStatement, Statement.visited, Statement.regions]
    refine .bind (.within ((visitReturning_accounts located keyword value).mono fun r t inner => ?_))
    exact .pure (inner.cast rfl rfl (fun _ mem => mem) (congrArg (Statement.returning keyword)))
  | .whileLoop keyword condition body, setting, s, scope, located, sited, charted => by
    rw [Statement.regions] at charted ⊢
    rw [visitStatement, Statement.visited]
    refine .bind (.within ((visitExpression_judges condition located).mono fun r t first => ?_))
    have head : Accounts setting.facts origins table setting.code s t _ _ [] _ :=
      .of_follows first.1.follows first.1.same
    refine .bind (.within ((visitBlock_accounts body (located.same first.1.follows) charted).mono
      fun r u inner => .pure ?_))
    refine (head.trans inner).cast rfl (List.append_nil _) (fun _ mem => mem) ?_
    rintro ⟨h, rfl⟩
    rw [h]
  | .conditional conditional, setting, s, scope, located, sited, charted => by
    rw [Statement.regions] at charted ⊢
    rw [visitStatement, Statement.visited]
    refine .bind (.within ((visitConditional_accounts conditional located charted).mono
      fun r t inner => ?_))
    exact .pure (inner.cast rfl rfl (fun _ mem => mem) (congrArg Statement.conditional))
  | .expression expression, setting, s, scope, located, sited, charted => by
    rw [visitStatement, Statement.visited, Statement.regions]
    refine .bind (.within ((visitExpression_judges expression located).mono fun r t first => ?_))
    exact .pure (.of_follows first.1.follows fun coded => congrArg Statement.expression (first.1.same coded))
  | .breaking keyword, setting, s, scope, located, sited, charted => by
    rw [visitStatement, Statement.visited, Statement.regions]
    exact .pure (.refl located.tracks rfl)
  | .continuing keyword, setting, s, scope, located, sited, charted => by
    rw [visitStatement, Statement.visited, Statement.regions]
    exact .pure (.refl located.tracks rfl)
  | .importing keyword target, setting, s, scope, located, sited, charted => by
    rw [visitStatement, Statement.visited, Statement.regions]
    exact .pure (.refl located.tracks rfl)
  | .path keyword target, setting, s, scope, located, sited, charted => by
    rw [visitStatement, Statement.visited, Statement.regions]
    exact .pure (.refl located.tracks rfl)

lemma visitConditional_accounts :
    ∀ (conditional : Conditional) {setting : Setting} {s : State} {scope : ScopeId},
      Located origins table setting s (some scope) →
      AllCharted setting.facts origins table (conditional.regions setting.nested setting.around) →
      Yields (visitConditional conditional) s fun r t =>
        Accounts setting.facts origins table setting.code s t (conditional.visited setting).problems
          (conditional.visited setting).inferred
          ((conditional.regions setting.nested setting.around).flatMap Region.writes)
          (r = (conditional.visited setting).node)
  | ⟨condition, body, otherwise, keyword⟩, setting, s, scope, located, charted => by
    rw [Conditional.regions] at charted ⊢
    rw [visitConditional, Conditional.visited]
    refine .bind (.within ((visitExpression_judges condition located).mono fun r t first => ?_))
    have head : Accounts setting.facts origins table setting.code s t _ _ [] _ :=
      .of_follows first.1.follows first.1.same
    have located' := located.same first.1.follows
    refine .bind (.within ((visitBlock_accounts body located' charted.left).mono fun r u inner => ?_))
    refine .bind (.within ((visitOtherwise_accounts otherwise (located'.after inner.follows)
      charted.right).mono fun r v last => .pure ?_))
    refine ((head.trans inner).trans last).cast rfl ?_
      (fun write mem => ?_) ?_
    · rw [List.append_nil]
    · rwa [List.flatMap_append] at mem
    · rintro ⟨⟨h, rfl⟩, rfl⟩
      rw [h]

lemma visitOtherwise_accounts :
    ∀ (otherwise : Otherwise) {setting : Setting} {s : State} {scope : ScopeId},
      Located origins table setting s (some scope) →
      AllCharted setting.facts origins table (otherwise.regions setting.nested setting.around) →
      Yields (visitOtherwise otherwise) s fun r t =>
        Accounts setting.facts origins table setting.code s t (otherwise.visited setting).problems
          (otherwise.visited setting).inferred
          ((otherwise.regions setting.nested setting.around).flatMap Region.writes)
          (r = (otherwise.visited setting).node)
  | .nothing, setting, s, scope, located, charted => by
    rw [visitOtherwise, Otherwise.visited, Otherwise.regions]
    exact .pure (.refl located.tracks rfl)
  | .conditional conditional, setting, s, scope, located, charted => by
    rw [Otherwise.regions] at charted ⊢
    rw [visitOtherwise, Otherwise.visited]
    refine .bind (.within ((visitConditional_accounts conditional located charted).mono
      fun r t inner => ?_))
    exact .pure (inner.cast rfl rfl (fun _ mem => mem) (congrArg Otherwise.conditional))
  | .block block, setting, s, scope, located, charted => by
    rw [Otherwise.regions] at charted ⊢
    rw [visitOtherwise, Otherwise.visited]
    refine .bind (.within ((visitBlock_accounts block located charted).mono fun r t inner => ?_))
    exact .pure (inner.cast rfl rfl (fun _ mem => mem) (congrArg Otherwise.block))

lemma visitFunctionDef_accounts :
    ∀ (definition : FunctionDef) {setting : Setting} {s : State} {scope : ScopeId},
      Located origins table setting s (some scope) →
      AllCharted setting.facts origins table (definition.regions setting.around) →
      Yields (visitFunctionDef definition) s fun r t =>
        Accounts setting.facts origins table setting.code s t (definition.visited setting).problems
          (definition.visited setting).inferred
          ((definition.regions setting.around).flatMap Region.writes)
          (r = (definition.visited setting).node)
  | ⟨id, name, typeParameters, parameters, returns, body, keyword⟩, setting, s, scope, located, charted => by
    rw [FunctionDef.regions] at charted ⊢
    rw [visitFunctionDef, FunctionDef.visited]
    obtain ⟨own, region⟩ := charted _ List.mem_cons_self
    have sited := region.sited
    refine .bind (.askFor fun found answer => ?_)
    obtain rfl := located.reopen region answer
    refine .bind (.lift (.changed ?_))
    have inside := located.enter region.views
    refine .bind (.lift ((visitParameters_account parameters inside.tracks fun write mem =>
      sited write (List.mem_append_left _ mem)).mono fun r t first => ?_))
    refine .bind (.lift ((visitReturns_accounts first.follows.tracks id returns fun write mem =>
      sited write (List.mem_append_right _ mem)).mono fun r u second => ?_))
    obtain ⟨returns', type⟩ := r
    obtain ⟨second, typed⟩ := second
    have both := first.trans second
    refine .bind (.within (.returningType (.insideFunction ((visitBlock_accounts body
      ((inside.same both.follows).body typed) charted.tail).mono
      fun r v third => .bind (.lift (.changed (.pure ?_)))))))
    refine (both.trans third.body).leave.cast rfl (List.append_nil _)
      (fun write mem => ?_) ?_
    · rwa [List.flatMap_cons] at mem
    · rintro ⟨⟨rfl, h⟩, rfl⟩
      have h : returns' = _ := h
      rw [h]
      rfl

lemma visitFunctionDefs_account :
    ∀ (list : List FunctionDef) {setting : Setting} {s : State} {scope : ScopeId},
      Located origins table setting s (some scope) →
      AllCharted setting.facts origins table (functionRegions setting.around list) →
      Yields (visitFunctionDefs list) s fun r t =>
        Accounts setting.facts origins table setting.code s t (functionsVisited setting list).problems
          (functionsVisited setting list).inferred
          ((functionRegions setting.around list).flatMap Region.writes)
          (r = (functionsVisited setting list).node)
  | [], setting, s, scope, located, charted => by
    rw [visitFunctionDefs, functionsVisited]
    exact .pure (.refl located.tracks rfl)
  | definition :: rest, setting, s, scope, located, charted => by
    rw [functionRegions] at charted ⊢
    rw [visitFunctionDefs, functionsVisited]
    refine .bind (.within ((visitFunctionDef_accounts definition located charted.left).mono
      fun r t head => ?_))
    refine .bind (.within ((visitFunctionDefs_account rest (located.after head.follows)
      charted.right).mono fun r u others => .pure ?_))
    refine (head.trans others).cast rfl rfl (fun write mem => ?_) ?_
    · rwa [List.flatMap_append] at mem
    · rintro ⟨rfl, rfl⟩
      rfl

lemma visitTypeDef_accounts :
    ∀ (definition : TypeDef) {setting : Setting} {s : State} {scope : ScopeId},
      Located origins table setting s (some scope) →
      AllCharted setting.facts origins table (definition.regions setting.around) →
      Yields (visitTypeDef definition) s fun r t =>
        Accounts setting.facts origins table setting.code s t (definition.visited setting).problems
          (definition.visited setting).inferred
          ((definition.regions setting.around).flatMap Region.writes)
          (r = (definition.visited setting).node)
  | ⟨id, name, typeParameters, fields, methods, keyword, binding⟩, setting, s, scope, located, charted => by
    rw [TypeDef.regions] at charted ⊢
    rw [visitTypeDef, TypeDef.visited]
    obtain ⟨own, region⟩ := charted _ List.mem_cons_self
    obtain ⟨type, defined, listed⟩ := located.tracks.defined id name.content
      (region.known _ List.mem_cons_self)
    refine .bind (.get (.bind (.askFor fun found answer => ?_)))
    obtain rfl := located.reopen region answer
    refine .bind (.lift (.changed ?_))
    have inside := located.enter region.views
    refine .bind (.within ((visitDeclarations_account fields inside region.sited).mono
      fun r t first => ?_))
    refine .bind (.within ((visitFunctionDefs_account methods (inside.after first.follows)
      charted.tail).mono fun r u second => .bind (.lift (.changed (.pure ?_)))))
    have both := (first.trans second).leave
    refine ⟨both.follows, fun coded write mem => both.covers coded write ?_, fun coded => ?_⟩
    · rwa [List.flatMap_cons] at mem
    · obtain ⟨h, g⟩ := both.same coded
      rw [h, g, defined, coded type ⟨.user id name.content, 0⟩ (.origin listed)]

end

end ArrowScript.Analysis
