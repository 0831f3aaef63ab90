import ArrowScript.Proofs.Analysis.HindsightExpressions
import ArrowScript.Proofs.Analysis.AccountingStatements

/-!
# Statements in hindsight

What is encountered in the account of a statement is settled, and the variables without a written type have the
types that were found for them (`Statement.Blank.told`). Every region of a program is shown from its own place.
-/

namespace ArrowScript
open Analysis Grammar

variable {origins : List Origin} {table : ScopeTable} {setting : Setting} {view : Hindsight}
  {registry : TypeRegistry}

namespace Analysis

/-! ## Places -/

/-- The scope of a region is known, and what the region introduces is noted in the ascriptions. -/
structure Region.Shown (origins : List Origin) (table : ScopeTable) (registry : TypeRegistry)
    (ascriptions : List (NodeId × Option TypeRef)) (facts : Facts) (region : Region) : Prop where
  scope : ∃ scope, table.scopeOf? region.place.owner = some scope ∧
    Views origins table (some scope) region.place.layer
  noted : (Layer.of region.introductions).Noted origins registry ascriptions facts

/-- Some variables without a written type have the types of some shapes. -/
abbrev FoundTypes (origins : List Origin) (registry : TypeRegistry) (found : List (NodeId × TypeId))
    (inferred : List (NodeId × Shape)) : Prop :=
  List.Forall₂ (fun found known => found.1 = known.1 ∧ Shaped origins registry found.2 known.2) found inferred

/-- What is found in an inner layer is noted, and so is what is found around it. -/
lemma Layer.Noted.shadowing {ascriptions : List (NodeId × Option TypeRef)} {facts : Facts} {inner outer : Layer}
    (h : inner.Noted origins registry ascriptions facts) (g : outer.Noted origins registry ascriptions facts) :
    (inner.shadowing outer).Noted origins registry ascriptions facts := by
  rintro key entry (found | found)
  all_goals rcases Option.or_eq_some_iff.mp found with found | ⟨-, found⟩
  · exact h key entry (.inl found)
  · exact g key entry (.inl found)
  · exact h key entry (.inr found)
  · exact g key entry (.inr found)

namespace Hindsight.Shows

variable {outer : Option ScopeId}

/-- Going into the scope of a region. -/
lemma inside (shows : view.Shows origins table setting outer) {owner : NodeId} {own : ScopeId} {layer : Layer}
    (closed : table.scopeOf? owner = some own)
    (views : Views origins table (some own) (layer.shadowing setting.around))
    (noted : layer.Noted origins view.state.types view.ascriptions setting.facts) :
    (view.inside owner).Shows origins table (setting.inside layer) (some own) where
  located :=
    { surveyed := shows.located.surveyed
      tracks :=
        let tracks := shows.located.tracks
        ⟨tracks.scopes, tracks.grown, tracks.declared, tracks.nodup, tracks.defined⟩
      innermost := by
        show ((view.state.scopes.scopeOf? owner).toList ++ view.state.active).head? = some own
        rw [shows.located.tracks.scopes, closed]
        rfl
      views := views
      known := shows.located.known
      returned := shows.located.returned
      nested := shows.located.nested }
  coded := shows.coded
  injective := shows.injective
  around := noted.shadowing shows.around
  members := shows.members

/-- Going on behind further variables. -/
lemma after (shows : view.Shows origins table setting outer) {found : List (NodeId × TypeId)}
    {inferred : List (NodeId × Shape)} (types : FoundTypes origins view.state.types found inferred) :
    (view.after found).Shows origins table (setting.after inferred) outer where
  located :=
    { surveyed := shows.located.surveyed
      tracks :=
        let tracks := shows.located.tracks
        ⟨tracks.scopes, tracks.grown, tracks.declared, tracks.nodup, tracks.defined⟩
      innermost := shows.located.innermost
      views := shows.located.views
      known := Infers.known ⟨found, rfl, types⟩ shows.located.known
      returned := shows.located.returned
      nested := shows.located.nested }
  coded := shows.coded
  injective := shows.injective
  around := shows.around
  members := shows.members

/-- Going into the body of a function. -/
lemma body (shows : view.Shows origins table setting outer) (returned : Option Shape) :
    view.Shows origins table (setting.body returned) outer :=
  { shows with }

end Hindsight.Shows

/-! ## What statements tell -/

/-- What is reported tells of the encounters, and the inferred types are those that were found. -/
structure Told (origins : List Origin) (registry : TypeRegistry) (problems : List (Finding SemanticProblem))
    (inferred : List (NodeId × Shape)) (encounters : List Encounter) (found : List (NodeId × TypeId)) : Prop where
  tells : Tells registry problems encounters
  types : FoundTypes origins registry found inferred

namespace Told

variable {problems more : List (Finding SemanticProblem)} {inferred inferred' : List (NodeId × Shape)}
  {encounters others : List Encounter} {found found' : List (NodeId × TypeId)}

/-- Nothing happens. -/
lemma nothing : Told origins registry [] [] [] [] :=
  ⟨.nothing, .nil⟩

/-- One part behind another. -/
lemma append (h : Told origins registry problems inferred encounters found)
    (g : Told origins registry more inferred' others found') :
    Told origins registry (problems ++ more) (inferred' ++ inferred) (encounters ++ others) (found' ++ found) :=
  ⟨h.tells.append g.tells, List.rel_append g.types h.types⟩

/-- An expression before a part. -/
lemma behind (h : Tells registry problems encounters) (g : Told origins registry more inferred others found) :
    Told origins registry (problems ++ more) inferred (encounters ++ others) found :=
  ⟨h.append g.tells, g.types⟩

/-- A part that finds no types. -/
lemma of_tells (h : Tells registry problems encounters) : Told origins registry problems [] encounters [] :=
  ⟨h, .nil⟩

end Told

end Analysis

/-! ## Declarations and returned values -/

section
variable {scope : ScopeId} (shows : view.Shows origins table setting (some scope))

include shows

/-- A value that may be absent tells what is encountered in it. -/
lemma optionJudged_tells {value : Option Expression} (blank : ∀ x ∈ value, x.Blank)
    (brackets : ∀ x ∈ value, x.Bracketed)
    (stays : (optionJudged setting value).node.map (Expression.rename view.state.types.clip) =
      (optionJudged setting value).node) :
    Tells view.state.types (optionJudged setting value).problems
      (optionEncounters view (optionJudged setting value).node) := by
  cases value with
  | none => exact .nothing
  | some value => exact (blank value rfl).tells shows (brackets value rfl) (Option.some.inj stays)

/-- A declaration tells what is encountered in it. -/
lemma Declaration.Blank.told {declaration : Declaration} (blank : declaration.Blank)
    (brackets : ∀ value ∈ declaration.initial, value.Bracketed)
    (stays : (declaration.visited setting).node.rename view.state.types.clip = (declaration.visited setting).node) :
    Told origins view.state.types (declaration.visited setting).problems (declaration.visited setting).inferred
      (optionEncounters view (declaration.visited setting).node.initial)
      (declaration.visited setting).node.inferred := by
  have initial := blank.initial
  obtain ⟨id, name, written, value, type⟩ := declaration
  unfold Declaration.visited at stays ⊢
  cases written with
  | some written =>
    have tells := optionJudged_tells shows initial brackets (congrArg Declaration.initial stays)
    refine .of_tells (tells.quiet ?_)
    cases (optionJudged setting value).node with
    | none => rfl
    | some node => exact unfound_mismatch setting (fun _ _ _ => rfl) _ _ _
  | none =>
    refine ⟨optionJudged_tells shows initial brackets (congrArg Declaration.initial stays), ?_⟩
    have typed := shows.coded.typed shows.injective shows.located.tracks.grown (congrArg Declaration.type stays)
    show FoundTypes _ _ (((optionJudged setting value).shape.map setting.code).map (id, ·)).toList
      ((optionJudged setting value).shape.map (id, ·)).toList
    cases e : (optionJudged setting value).shape with
    | none => exact .nil
    | some form =>
      rw [e] at typed
      cases typed with
      | some shaped => exact .cons ⟨rfl, shaped⟩ .nil

/-- A returned value tells what is encountered in it. -/
lemma returnVisited_told {keyword : Span} {value : Option Expression} (blank : ∀ x ∈ value, x.Blank)
    (brackets : ∀ x ∈ value, x.Bracketed)
    (stays : (returnVisited setting keyword value).node.map (Expression.rename view.state.types.clip) =
      (returnVisited setting keyword value).node) :
    Told origins view.state.types (returnVisited setting keyword value).problems
      (returnVisited setting keyword value).inferred
      (optionEncounters view (returnVisited setting keyword value).node) [] :=
  .of_tells ((optionJudged_tells shows blank brackets stays).quiet (unfound_mismatch setting (fun _ _ _ => rfl) _ _ _))

end

/-- Fields tell what is encountered in them. -/
lemma declarationsVisited_told {scope : ScopeId} : ∀ {list : List Declaration} {setting : Setting}
    {view : Hindsight}, view.Shows origins table setting (some scope) → (∀ field ∈ list, field.Blank) →
    (∀ field ∈ list, ∀ value ∈ Declaration.initial field, value.Bracketed) →
    (declarationsVisited setting list).node.map (Declaration.rename view.state.types.clip) =
      (declarationsVisited setting list).node →
    Told origins view.state.types (declarationsVisited setting list).problems
      (declarationsVisited setting list).inferred (fieldsEncounters view (declarationsVisited setting list).node)
      (fieldsInferred (declarationsVisited setting list).node)
  | [], _, _, _, _, _, _ => .nothing
  | field :: rest, setting, view, shows, blank, brackets, stays => by
    rw [declarationsVisited] at stays ⊢
    rw [fieldsEncounters, fieldsInferred]
    obtain ⟨head, tail⟩ := List.cons.inj stays
    obtain ⟨own, blank⟩ := List.forall_mem_cons.mp blank
    obtain ⟨first, brackets⟩ := List.forall_mem_cons.mp brackets
    have told := own.told shows first head
    exact told.append (declarationsVisited_told (shows.after told.types) blank brackets tail)

/-! ## Statements -/

mutual

/-- A block tells what is encountered in it. -/
lemma Block.Blank.told : ∀ {x : Block} {setting : Setting} {view : Hindsight} {outer : Option ScopeId}, x.Blank →
    x.Bracketed → view.Shows origins table setting outer →
    (∀ region ∈ x.regions setting.nested setting.around,
      region.Shown origins table view.state.types view.ascriptions setting.facts) →
    (x.visited setting).node.rename view.state.types.clip = (x.visited setting).node →
    Told origins view.state.types (x.visited setting).problems (x.visited setting).inferred
      ((x.visited setting).node.encounters setting.nested view) ((x.visited setting).node.inferred setting.nested)
  | ⟨id, kind, statements, span⟩, setting, view, outer, blank, brackets, shows, shown, stays => by
    rw [Block.Blank] at blank
    rw [Block.Bracketed] at brackets
    rw [Block.regions] at shown
    obtain ⟨⟨⟨own, closed, views⟩, noted⟩, shown⟩ := List.forall_mem_cons.mp shown
    rw [Block.visited, Block.rename] at stays
    rw [Block.visited, Block.encounters, Block.inferred]
    exact statementsBlank_told blank brackets (shows.inside closed views noted) shown (Block.mk.inj stays).2.2.1

lemma statementsBlank_told : ∀ {x : List Statement} {setting : Setting} {view : Hindsight} {scope : ScopeId},
    statementsBlank x → statementsBracketed x → view.Shows origins table setting (some scope) →
    (∀ region ∈ statementRegions setting.nested setting.around x,
      region.Shown origins table view.state.types view.ascriptions setting.facts) →
    statementsRename view.state.types.clip (statementsVisited setting x).node = (statementsVisited setting x).node →
    Told origins view.state.types (statementsVisited setting x).problems (statementsVisited setting x).inferred
      (statementEncounters setting.nested view (statementsVisited setting x).node)
      (statementsInferred setting.nested (statementsVisited setting x).node)
  | [], setting, view, scope, _, _, _, _, _ => by
    rw [statementsVisited, statementEncounters, statementsInferred]
    exact .nothing
  | statement :: rest, setting, view, scope, blank, brackets, shows, shown, stays => by
    rw [statementsBlank] at blank
    rw [statementsBracketed] at brackets
    rw [statementRegions] at shown
    obtain ⟨first, shown⟩ := List.forall_mem_append.mp shown
    rw [statementsVisited, statementsRename] at stays
    obtain ⟨head, tail⟩ := List.cons.inj stays
    have told := blank.1.told brackets.1 shows first head
    rw [statementsVisited, statementEncounters, statementsInferred]
    exact told.append (statementsBlank_told blank.2 brackets.2 (shows.after told.types) shown tail)

lemma Statement.Blank.told : ∀ {x : Statement} {setting : Setting} {view : Hindsight} {scope : ScopeId},
    x.Blank → x.Bracketed → view.Shows origins table setting (some scope) →
    (∀ region ∈ x.regions setting.nested setting.around,
      region.Shown origins table view.state.types view.ascriptions setting.facts) →
    (x.visited setting).node.rename view.state.types.clip = (x.visited setting).node →
    Told origins view.state.types (x.visited setting).problems (x.visited setting).inferred
      ((x.visited setting).node.encounters setting.nested view) ((x.visited setting).node.inferred setting.nested)
  | .type definition, setting, view, scope, blank, brackets, shows, shown, stays => by
    rw [Statement.Blank] at blank
    rw [Statement.Bracketed] at brackets
    cases outside : setting.nested with
    | true =>
      rw [Statement.visited, outside, if_pos rfl, Statement.encounters, Statement.inferred]
      exact .nothing
    | false =>
      rw [outside, Statement.regions] at shown
      rw [Statement.visited, outside, if_neg Bool.false_ne_true, Statement.rename] at stays
      rw [Statement.visited, outside, if_neg Bool.false_ne_true, Statement.encounters, Statement.inferred]
      exact blank.told brackets shows shown (Statement.type.inj stays)
  | .function definition, setting, view, scope, blank, brackets, shows, shown, stays => by
    rw [Statement.Blank] at blank
    rw [Statement.Bracketed] at brackets
    cases outside : setting.nested with
    | true =>
      rw [Statement.visited, outside, if_pos rfl, Statement.encounters, Statement.inferred]
      exact .nothing
    | false =>
      rw [outside, Statement.regions] at shown
      rw [Statement.visited, outside, if_neg Bool.false_ne_true, Statement.rename] at stays
      rw [Statement.visited, outside, if_neg Bool.false_ne_true, Statement.encounters, Statement.inferred]
      exact blank.told brackets shows shown (Statement.function.inj stays)
  | .variable declaration, setting, view, scope, blank, brackets, shows, _, stays => by
    rw [Statement.Blank] at blank
    rw [Statement.Bracketed] at brackets
    rw [Statement.visited, Statement.rename] at stays
    rw [Statement.visited, Statement.encounters, Statement.inferred]
    exact blank.told shows brackets (Statement.variable.inj stays)
  | .returning keyword value, setting, view, scope, blank, brackets, shows, _, stays => by
    rw [Statement.Blank] at blank
    rw [Statement.Bracketed] at brackets
    rw [Statement.visited, Statement.rename] at stays
    rw [Statement.visited, Statement.encounters, Statement.inferred]
    exact returnVisited_told shows blank brackets (Statement.returning.inj stays).2
  | .whileLoop keyword condition body, setting, view, scope, blank, brackets, shows, shown, stays => by
    rw [Statement.Blank] at blank
    rw [Statement.Bracketed] at brackets
    rw [Statement.regions] at shown
    rw [Statement.visited, Statement.rename] at stays
    obtain ⟨-, first, second⟩ := Statement.whileLoop.inj stays
    rw [Statement.visited, Statement.encounters, Statement.inferred]
    exact .behind (blank.1.tells shows brackets.1 first) (blank.2.told brackets.2 shows shown second)
  | .conditional conditional, setting, view, scope, blank, brackets, shows, shown, stays => by
    rw [Statement.Blank] at blank
    rw [Statement.Bracketed] at brackets
    rw [Statement.regions] at shown
    rw [Statement.visited, Statement.rename] at stays
    rw [Statement.visited, Statement.encounters, Statement.inferred]
    exact blank.told brackets shows shown (Statement.conditional.inj stays)
  | .expression expression, setting, view, scope, blank, brackets, shows, _, stays => by
    rw [Statement.Blank] at blank
    rw [Statement.Bracketed] at brackets
    rw [Statement.visited, Statement.rename] at stays
    rw [Statement.visited, Statement.encounters, Statement.inferred]
    exact .of_tells (blank.tells shows brackets (Statement.expression.inj stays))
  | .importing .., setting, view, scope, _, _, _, _, _ | .path .., setting, view, scope, _, _, _, _, _
  | .breaking _, setting, view, scope, _, _, _, _, _ | .continuing _, setting, view, scope, _, _, _, _, _ => by
    rw [Statement.visited, Statement.encounters, Statement.inferred]
    exact .nothing

lemma Conditional.Blank.told : ∀ {x : Conditional} {setting : Setting} {view : Hindsight} {scope : ScopeId},
    x.Blank → x.Bracketed → view.Shows origins table setting (some scope) →
    (∀ region ∈ x.regions setting.nested setting.around,
      region.Shown origins table view.state.types view.ascriptions setting.facts) →
    (x.visited setting).node.rename view.state.types.clip = (x.visited setting).node →
    Told origins view.state.types (x.visited setting).problems (x.visited setting).inferred
      ((x.visited setting).node.encounters setting.nested view) ((x.visited setting).node.inferred setting.nested)
  | ⟨condition, body, otherwise, keyword⟩, setting, view, scope, blank, brackets, shows, shown, stays => by
    rw [Conditional.Blank] at blank
    rw [Conditional.Bracketed] at brackets
    rw [Conditional.regions] at shown
    obtain ⟨first, second⟩ := List.forall_mem_append.mp shown
    rw [Conditional.visited, Conditional.rename] at stays
    obtain ⟨head, inner, last, -⟩ := Conditional.mk.inj stays
    rw [Conditional.visited, Conditional.encounters, Conditional.inferred]
    -- What the first block makes known of variables is known in the second.
    have told := blank.2.1.told brackets.2.1 shows first inner
    refine (Told.behind (blank.1.tells shows brackets.1 head) told).append ?_
    exact blank.2.2.told brackets.2.2 (shows.after told.types) second last

lemma Otherwise.Blank.told : ∀ {x : Otherwise} {setting : Setting} {view : Hindsight} {scope : ScopeId},
    x.Blank → x.Bracketed → view.Shows origins table setting (some scope) →
    (∀ region ∈ x.regions setting.nested setting.around,
      region.Shown origins table view.state.types view.ascriptions setting.facts) →
    (x.visited setting).node.rename view.state.types.clip = (x.visited setting).node →
    Told origins view.state.types (x.visited setting).problems (x.visited setting).inferred
      ((x.visited setting).node.encounters setting.nested view) ((x.visited setting).node.inferred setting.nested)
  | .nothing, setting, view, scope, _, _, _, _, _ => by
    rw [Otherwise.visited, Otherwise.encounters, Otherwise.inferred]
    exact .nothing
  | .conditional conditional, setting, view, scope, blank, brackets, shows, shown, stays => by
    rw [Otherwise.Blank] at blank
    rw [Otherwise.Bracketed] at brackets
    rw [Otherwise.regions] at shown
    rw [Otherwise.visited, Otherwise.rename] at stays
    rw [Otherwise.visited, Otherwise.encounters, Otherwise.inferred]
    exact blank.told brackets shows shown (Otherwise.conditional.inj stays)
  | .block block, setting, view, scope, blank, brackets, shows, shown, stays => by
    rw [Otherwise.Blank] at blank
    rw [Otherwise.Bracketed] at brackets
    rw [Otherwise.regions] at shown
    rw [Otherwise.visited, Otherwise.rename] at stays
    rw [Otherwise.visited, Otherwise.encounters, Otherwise.inferred]
    exact blank.told brackets shows shown (Otherwise.block.inj stays)

lemma FunctionDef.Blank.told : ∀ {x : FunctionDef} {setting : Setting} {view : Hindsight} {scope : ScopeId},
    x.Blank → x.Bracketed → view.Shows origins table setting (some scope) →
    (∀ region ∈ x.regions setting.around,
      region.Shown origins table view.state.types view.ascriptions setting.facts) →
    (x.visited setting).node.rename view.state.types.clip = (x.visited setting).node →
    Told origins view.state.types (x.visited setting).problems (x.visited setting).inferred
      ((x.visited setting).node.encounters view) (x.visited setting).node.inferred
  | ⟨id, name, typeParameters, parameters, returns, body, keyword⟩, setting, view, scope, blank, brackets, shows,
      shown, stays => by
    rw [FunctionDef.Blank] at blank
    rw [FunctionDef.Bracketed] at brackets
    rw [FunctionDef.regions] at shown
    obtain ⟨⟨⟨own, closed, views⟩, noted⟩, shown⟩ := List.forall_mem_cons.mp shown
    rw [FunctionDef.visited, FunctionDef.rename] at stays
    obtain ⟨-, -, -, -, -, inner, -⟩ := FunctionDef.mk.inj stays
    rw [FunctionDef.visited, FunctionDef.encounters, FunctionDef.inferred]
    exact blank.2.2.told brackets ((shows.inside closed views noted).body _) shown inner

lemma functionsBlank_told : ∀ {x : List FunctionDef} {setting : Setting} {view : Hindsight} {scope : ScopeId},
    functionsBlank x → functionsBracketed x → view.Shows origins table setting (some scope) →
    (∀ region ∈ functionRegions setting.around x,
      region.Shown origins table view.state.types view.ascriptions setting.facts) →
    functionsRename view.state.types.clip (functionsVisited setting x).node = (functionsVisited setting x).node →
    Told origins view.state.types (functionsVisited setting x).problems (functionsVisited setting x).inferred
      (functionEncounters view (functionsVisited setting x).node)
      (functionsInferred (functionsVisited setting x).node)
  | [], setting, view, scope, _, _, _, _, _ => by
    rw [functionsVisited, functionEncounters, functionsInferred]
    exact .nothing
  | definition :: rest, setting, view, scope, blank, brackets, shows, shown, stays => by
    rw [functionsBlank] at blank
    rw [functionsBracketed] at brackets
    rw [functionRegions] at shown
    obtain ⟨first, shown⟩ := List.forall_mem_append.mp shown
    rw [functionsVisited, functionsRename] at stays
    obtain ⟨head, tail⟩ := List.cons.inj stays
    have told := blank.1.told brackets.1 shows first head
    rw [functionsVisited, functionEncounters, functionsInferred]
    exact told.append (functionsBlank_told blank.2 brackets.2 (shows.after told.types) shown tail)

lemma TypeDef.Blank.told : ∀ {x : TypeDef} {setting : Setting} {view : Hindsight} {scope : ScopeId},
    x.Blank → x.Bracketed → view.Shows origins table setting (some scope) →
    (∀ region ∈ x.regions setting.around,
      region.Shown origins table view.state.types view.ascriptions setting.facts) →
    (x.visited setting).node.rename view.state.types.clip = (x.visited setting).node →
    Told origins view.state.types (x.visited setting).problems (x.visited setting).inferred
      ((x.visited setting).node.encounters view) (x.visited setting).node.inferred
  | ⟨id, name, typeParameters, fields, methods, keyword, binding⟩, setting, view, scope, blank, brackets, shows,
      shown, stays => by
    rw [TypeDef.Blank] at blank
    rw [TypeDef.Bracketed] at brackets
    rw [TypeDef.regions] at shown
    obtain ⟨⟨⟨own, closed, views⟩, noted⟩, shown⟩ := List.forall_mem_cons.mp shown
    rw [TypeDef.visited, TypeDef.rename] at stays
    obtain ⟨-, -, -, first, second, -⟩ := TypeDef.mk.inj stays
    rw [TypeDef.visited, TypeDef.encounters, TypeDef.inferred]
    have inside := shows.inside closed views noted
    have told := declarationsVisited_told inside blank.1 brackets.1 first
    exact told.append (functionsBlank_told blank.2.1 brackets.2 (inside.after told.types) shown second)

end

end ArrowScript
