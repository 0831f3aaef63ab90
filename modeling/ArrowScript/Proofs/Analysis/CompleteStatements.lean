import ArrowScript.Proofs.Analysis.CompleteExpressions
import ArrowScript.Proofs.Analysis.HindsightStatements
import ArrowScript.Proofs.Analysis.SoundStatements

/-!
# Complete statements

A proper statement without problems is complete exactly if no variable in it is used before its type is known
(`Statement.Proper.complete_iff`). The types that are written for declarations are another matter: they are looked up
when everything is declared, so that their names are only to be found.
-/

namespace ArrowScript
open Analysis

variable {origins : List Origin} {table : ScopeTable} {tokens : List Token}

namespace Analysis

/-- A region is shown, and nothing is defined in it that may not be there. -/
structure Region.Clear (origins : List Origin) (table : ScopeTable) (registry : TypeRegistry)
    (ascriptions : List (NodeId × Option TypeRef)) (facts : Facts) (region : Region) : Prop extends
    region.Shown origins table registry ascriptions facts where
  allowed : region.forbidden = []

/-- All names in the written types of some ascriptions are bound. -/
def Resolved (ascriptions : List Ascription) : Prop :=
  ∀ ascription ∈ ascriptions, ascription.unresolved = []

end Analysis

/-! ## Declarations -/

/-- A complete written type is bound. -/
lemma TypeRef.isSome_of_complete {written : TypeRef} (complete : written.complete) : written.binding.isSome := by
  obtain ⟨name, builtin, arguments, array, binding⟩ := written
  rw [TypeRef.complete, TypeRef.unresolved, List.isEmpty_iff] at complete
  cases binding with
  | none => cases complete
  | some type => rfl

/-- A written type is complete if no name in its ascription is unbound. -/
lemma complete_of_unresolved {ascription : Ascription} (resolved : ascription.unresolved = []) :
    ascription.written.all TypeRef.complete := by
  obtain ⟨node, owner, written⟩ := ascription
  cases written with
  | none => rfl
  | some written => exact List.isEmpty_iff.mpr resolved

section
variable {setting : Setting} {view : Hindsight} {outer : Option ScopeId}
  (shows : view.Shows origins table setting outer) (written : view.Written)

include shows written

/-- A value that may be absent is complete exactly if no variable in it is used before its type is known. -/
lemma optionJudged_complete_iff {value : Option Expression} (proper : ∀ x ∈ value, x.Proper tokens)
    (fine : (optionJudged setting value).problems = []) :
    (optionJudged setting value).node.all Expression.complete ↔
      Timely (optionEncounters view (optionJudged setting value).node) := by
  cases value with
  | none => exact iff_of_true rfl timely_nil
  | some value => exact (proper value rfl).complete_iff shows written fine

/-- A declaration is complete exactly if no variable in it is used before its type is known. -/
lemma Declaration.Proper.complete_iff {declaration : Declaration} (proper : declaration.Proper tokens)
    (owner : NodeId) (fine : (declaration.visited setting).problems = [])
    (resolved : ((declaration.visited setting).node.ascription owner).unresolved = []) :
    (declaration.visited setting).node.complete ↔
      Timely (optionEncounters view (declaration.visited setting).node.initial) := by
  have initial := proper.initial
  have typed := proper.typed
  obtain ⟨id, name, ascribed, value, type⟩ := declaration
  cases ascribed with
  | none =>
    -- Without a written type there is a value, and its type is that of the declaration.
    obtain ⟨value, rfl⟩ := Option.isSome_iff_exists.mp (typed.resolve_left Bool.false_ne_true)
    refine Iff.trans ?_ (optionJudged_complete_iff shows written initial fine)
    show (true && (value.judged setting).node.complete && ((value.judged setting).shape.map setting.code).isSome) = true ↔
      (value.judged setting).node.complete
    rw [← value.type_judged, Bool.true_and, Bool.and_eq_true]
    exact and_iff_left_of_imp Expression.isSome_type
  | some ascribed =>
    obtain ⟨fine, -⟩ := List.append_eq_nil_iff.mp fine
    have complete : (ascribed.bound setting.code setting.around).complete := complete_of_unresolved resolved
    have bound := TypeRef.isSome_of_complete complete
    rw [TypeRef.binding_bound] at bound
    refine Iff.trans ?_ (optionJudged_complete_iff shows written initial fine)
    show ((ascribed.bound setting.code setting.around).complete &&
      (optionJudged setting value).node.all Expression.complete &&
      ((setting.around.shape? ascribed).map setting.code).isSome) = true ↔ _
    rw [complete, bound, Bool.true_and, Bool.and_true]

end

/-- Fields are complete exactly if no variable in them is used before its type is known. -/
lemma declarationsVisited_complete_iff {scope : ScopeId} (owner : NodeId) : ∀ {list : List Declaration}
    {setting : Setting} {view : Hindsight}, view.Shows origins table setting (some scope) → view.Written →
    (∀ field ∈ list, field.Blank) → (∀ field ∈ list, ∀ value ∈ Declaration.initial field, value.Bracketed) →
    (∀ field ∈ list, field.Proper tokens) →
    (declarationsVisited setting list).Clean (List.map (Declaration.rename view.state.types.clip)) →
    Resolved ((declarationsVisited setting list).node.map (Declaration.ascription owner)) →
    ((declarationsVisited setting list).node.all Declaration.complete ↔
      Timely (fieldsEncounters view (declarationsVisited setting list).node))
  | [], _, _, _, _, _, _, _, _, _ => iff_of_true rfl timely_nil
  | field :: rest, setting, view, shows, written, blank, brackets, proper, ⟨problems, stays⟩, resolved => by
    rw [declarationsVisited] at problems stays resolved ⊢
    obtain ⟨problems, others⟩ := List.append_eq_nil_iff.mp problems
    obtain ⟨head, tail⟩ := List.cons.inj stays
    obtain ⟨own, blank⟩ := List.forall_mem_cons.mp blank
    obtain ⟨first, brackets⟩ := List.forall_mem_cons.mp brackets
    obtain ⟨sound, proper⟩ := List.forall_mem_cons.mp proper
    obtain ⟨named, resolved⟩ := List.forall_mem_cons.mp resolved
    have told := own.told shows first head
    rw [fieldsEncounters, timely_append, List.all_cons, Bool.and_eq_true,
      sound.complete_iff shows written owner problems named]
    exact and_congr_right fun _ =>
      declarationsVisited_complete_iff owner (shows.after told.types) written blank brackets proper ⟨others, tail⟩ resolved

/-- The types in the head of a function are complete if they are resolved. -/
lemma Analysis.Resolved.head {parameters : List Parameter} {returns : Option TypeRef} {id : NodeId}
    {others : List Ascription}
    (resolved : Resolved (⟨id, id, returns⟩ :: parameters.map (Parameter.ascription id) ++ others)) :
    (parameters.all fun parameter => parameter.written.complete) ∧ returns.all TypeRef.complete ∧ Resolved others := by
  obtain ⟨head, others⟩ := List.forall_mem_append.mp resolved
  obtain ⟨own, head⟩ := List.forall_mem_cons.mp head
  refine ⟨List.all_eq_true.mpr fun parameter mem => ?_, complete_of_unresolved own, others⟩
  exact complete_of_unresolved (head _ (List.mem_map_of_mem mem))

/-! ## Statements -/

mutual

/-- A block without problems is complete exactly if no variable in it is used before its type is known. -/
lemma Block.Proper.complete_iff : ∀ {x : Block} {setting : Setting} {view : Hindsight} {outer : Option ScopeId},
    x.Proper tokens → x.Blank → x.Bracketed → view.Shows origins table setting outer → view.Written →
    (∀ region ∈ x.regions setting.nested setting.around,
      region.Clear origins table view.state.types view.ascriptions setting.facts) →
    (x.visited setting).Clean (Block.rename view.state.types.clip) →
    Resolved ((x.visited setting).node.ascriptions setting.nested) →
    ((x.visited setting).node.complete ↔ Timely ((x.visited setting).node.encounters setting.nested view))
  | ⟨id, kind, statements, span⟩, setting, view, outer, proper, blank, brackets, shows, written, clear,
      ⟨problems, stays⟩, resolved => by
    rw [Block.Proper] at proper
    rw [Block.Blank] at blank
    rw [Block.Bracketed] at brackets
    rw [Block.regions] at clear
    obtain ⟨⟨⟨⟨own, closed, views⟩, noted⟩, allowed⟩, clear⟩ := List.forall_mem_cons.mp clear
    rw [Block.visited] at problems stays resolved
    rw [Block.rename] at stays
    rw [Block.ascriptions] at resolved
    rw [Block.visited, Block.complete, Block.encounters]
    exact statementsProper_complete_iff proper blank brackets (shows.inside closed views noted) written
      (List.flatMap_eq_nil_iff.mp allowed) clear ⟨problems, (Block.mk.inj stays).2.2.1⟩ resolved

lemma statementsProper_complete_iff : ∀ {x : List Statement} {setting : Setting} {view : Hindsight}
    {scope : ScopeId} {owner : NodeId}, statementsProper tokens x → statementsBlank x → statementsBracketed x →
    view.Shows origins table setting (some scope) → view.Written →
    (∀ statement ∈ x, statement.forbidden setting.nested = []) →
    (∀ region ∈ statementRegions setting.nested setting.around x,
      region.Clear origins table view.state.types view.ascriptions setting.facts) →
    (statementsVisited setting x).Clean (statementsRename view.state.types.clip) →
    Resolved (statementAscriptions setting.nested owner (statementsVisited setting x).node) →
    (statementsComplete (statementsVisited setting x).node ↔
      Timely (statementEncounters setting.nested view (statementsVisited setting x).node))
  | [], setting, view, scope, owner, _, _, _, _, _, _, _, _, _ => by
    rw [statementsVisited, statementsComplete, statementEncounters]
    exact iff_of_true rfl timely_nil
  | statement :: rest, setting, view, scope, owner, proper, blank, brackets, shows, written, allowed, clear,
      ⟨problems, stays⟩, resolved => by
    rw [statementsProper] at proper
    rw [statementsBlank] at blank
    rw [statementsBracketed] at brackets
    rw [statementRegions] at clear
    obtain ⟨first, clear⟩ := List.forall_mem_append.mp clear
    obtain ⟨own, allowed⟩ := List.forall_mem_cons.mp allowed
    rw [statementsVisited] at problems stays resolved
    rw [statementsRename] at stays
    rw [statementAscriptions] at resolved
    obtain ⟨problems, others⟩ := List.append_eq_nil_iff.mp problems
    obtain ⟨head, tail⟩ := List.cons.inj stays
    obtain ⟨ascribed, resolved⟩ := List.forall_mem_append.mp resolved
    -- The rest is shown with the types of the variables that come before it.
    have told := blank.1.told brackets.1 shows (fun region mem => (first region mem).toShown) head
    rw [statementsVisited, statementsComplete, statementEncounters, Bool.and_eq_true, timely_append,
      proper.1.complete_iff blank.1 brackets.1 shows written own first ⟨problems, head⟩ ascribed]
    exact and_congr_right fun _ => statementsProper_complete_iff proper.2 blank.2 brackets.2 (shows.after told.types)
      written allowed clear ⟨others, tail⟩ resolved

lemma Statement.Proper.complete_iff : ∀ {x : Statement} {setting : Setting} {view : Hindsight} {scope : ScopeId}
    {owner : NodeId}, x.Proper tokens → x.Blank → x.Bracketed → view.Shows origins table setting (some scope) →
    view.Written → x.forbidden setting.nested = [] →
    (∀ region ∈ x.regions setting.nested setting.around,
      region.Clear origins table view.state.types view.ascriptions setting.facts) →
    (x.visited setting).Clean (Statement.rename view.state.types.clip) →
    Resolved ((x.visited setting).node.ascriptions setting.nested owner) →
    ((x.visited setting).node.complete ↔ Timely ((x.visited setting).node.encounters setting.nested view))
  | .type definition, setting, view, scope, owner, proper, blank, brackets, shows, written, allowed, clear,
      ⟨problems, stays⟩, resolved => by
    rw [Statement.Proper] at proper
    rw [Statement.Blank] at blank
    rw [Statement.Bracketed] at brackets
    cases outside : setting.nested with
    | true =>
      -- A definition inside a function is forbidden.
      rw [outside] at allowed
      cases allowed
    | false =>
      rw [outside, Statement.regions] at clear
      rw [Statement.visited, outside, if_neg Bool.false_ne_true] at problems stays resolved
      rw [Statement.rename] at stays
      rw [Statement.ascriptions, if_neg Bool.false_ne_true] at resolved
      rw [Statement.visited, outside, if_neg Bool.false_ne_true, Statement.complete, Statement.encounters,
        if_neg Bool.false_ne_true]
      exact proper.complete_iff blank brackets shows written clear ⟨problems, Statement.type.inj stays⟩ resolved
  | .function definition, setting, view, scope, owner, proper, blank, brackets, shows, written, allowed, clear,
      ⟨problems, stays⟩, resolved => by
    rw [Statement.Proper] at proper
    rw [Statement.Blank] at blank
    rw [Statement.Bracketed] at brackets
    cases outside : setting.nested with
    | true =>
      rw [outside] at allowed
      cases allowed
    | false =>
      rw [outside, Statement.regions] at clear
      rw [Statement.visited, outside, if_neg Bool.false_ne_true] at problems stays resolved
      rw [Statement.rename] at stays
      rw [Statement.ascriptions, if_neg Bool.false_ne_true] at resolved
      rw [Statement.visited, outside, if_neg Bool.false_ne_true, Statement.complete, Statement.encounters,
        if_neg Bool.false_ne_true]
      exact proper.complete_iff blank brackets shows written clear ⟨problems, Statement.function.inj stays⟩ resolved
  | .variable declaration, setting, view, scope, owner, proper, _, _, shows, written, _, _, ⟨problems, _⟩,
      resolved => by
    rw [Statement.Proper] at proper
    rw [Statement.visited] at problems resolved
    rw [Statement.ascriptions] at resolved
    rw [Statement.visited, Statement.complete, Statement.encounters]
    exact proper.complete_iff shows written owner problems (resolved _ List.mem_cons_self)
  | .returning keyword value, setting, view, scope, owner, proper, _, _, shows, written, _, _, ⟨problems, _⟩, _ => by
    rw [Statement.Proper] at proper
    rw [Statement.visited] at problems
    rw [Statement.visited, Statement.complete, Statement.encounters]
    exact optionJudged_complete_iff shows written proper (List.append_eq_nil_iff.mp problems).1
  | .whileLoop keyword condition body, setting, view, scope, owner, proper, blank, brackets, shows, written, _, clear,
      ⟨problems, stays⟩, resolved => by
    rw [Statement.Proper] at proper
    rw [Statement.Blank] at blank
    rw [Statement.Bracketed] at brackets
    rw [Statement.regions] at clear
    rw [Statement.visited] at problems stays resolved
    rw [Statement.rename] at stays
    rw [Statement.ascriptions] at resolved
    obtain ⟨problems, inner⟩ := List.append_eq_nil_iff.mp problems
    obtain ⟨-, -, second⟩ := Statement.whileLoop.inj stays
    rw [Statement.visited, Statement.complete, Statement.encounters, Bool.and_eq_true, timely_append,
      proper.1.complete_iff shows written problems,
      proper.2.complete_iff blank.2 brackets.2 shows written clear ⟨inner, second⟩ resolved]
  | .conditional conditional, setting, view, scope, owner, proper, blank, brackets, shows, written, _, clear,
      ⟨problems, stays⟩, resolved => by
    rw [Statement.Proper] at proper
    rw [Statement.Blank] at blank
    rw [Statement.Bracketed] at brackets
    rw [Statement.regions] at clear
    rw [Statement.visited] at problems stays resolved
    rw [Statement.rename] at stays
    rw [Statement.ascriptions] at resolved
    rw [Statement.visited, Statement.complete, Statement.encounters]
    exact proper.complete_iff blank brackets shows written clear ⟨problems, Statement.conditional.inj stays⟩ resolved
  | .expression expression, setting, view, scope, owner, proper, _, _, shows, written, _, _, ⟨problems, _⟩, _ => by
    rw [Statement.Proper] at proper
    rw [Statement.visited] at problems
    rw [Statement.visited, Statement.complete, Statement.encounters]
    exact proper.complete_iff shows written problems
  | .importing .., setting, view, scope, owner, _, _, _, _, _, _, _, _, _
  | .path .., setting, view, scope, owner, _, _, _, _, _, _, _, _, _
  | .breaking _, setting, view, scope, owner, _, _, _, _, _, _, _, _, _
  | .continuing _, setting, view, scope, owner, _, _, _, _, _, _, _, _, _ => by
    rw [Statement.visited, Statement.complete, Statement.encounters]
    exact iff_of_true rfl timely_nil

lemma Conditional.Proper.complete_iff : ∀ {x : Conditional} {setting : Setting} {view : Hindsight} {scope : ScopeId},
    x.Proper tokens → x.Blank → x.Bracketed → view.Shows origins table setting (some scope) → view.Written →
    (∀ region ∈ x.regions setting.nested setting.around,
      region.Clear origins table view.state.types view.ascriptions setting.facts) →
    (x.visited setting).Clean (Conditional.rename view.state.types.clip) →
    Resolved ((x.visited setting).node.ascriptions setting.nested) →
    ((x.visited setting).node.complete ↔ Timely ((x.visited setting).node.encounters setting.nested view))
  | ⟨condition, body, otherwise, keyword⟩, setting, view, scope, proper, blank, brackets, shows, written, clear,
      ⟨problems, stays⟩, resolved => by
    rw [Conditional.Proper] at proper
    rw [Conditional.Blank] at blank
    rw [Conditional.Bracketed] at brackets
    rw [Conditional.regions] at clear
    obtain ⟨first, second⟩ := List.forall_mem_append.mp clear
    rw [Conditional.visited] at problems stays resolved
    rw [Conditional.rename] at stays
    rw [Conditional.ascriptions] at resolved
    obtain ⟨problems, last⟩ := List.append_eq_nil_iff.mp problems
    obtain ⟨problems, inner⟩ := List.append_eq_nil_iff.mp problems
    obtain ⟨-, head, tail, -⟩ := Conditional.mk.inj stays
    obtain ⟨ascribed, resolved⟩ := List.forall_mem_append.mp resolved
    have told := blank.2.1.told brackets.2.1 shows (fun region mem => (first region mem).toShown) head
    rw [Conditional.visited, Conditional.complete, Conditional.encounters, Bool.and_eq_true, Bool.and_eq_true,
      timely_append, timely_append, proper.1.complete_iff shows written problems,
      proper.2.1.complete_iff blank.2.1 brackets.2.1 shows written first ⟨inner, head⟩ ascribed]
    exact and_congr_right fun _ => proper.2.2.complete_iff blank.2.2 brackets.2.2 (shows.after told.types) written
      second ⟨last, tail⟩ resolved

lemma Otherwise.Proper.complete_iff : ∀ {x : Otherwise} {setting : Setting} {view : Hindsight} {scope : ScopeId},
    x.Proper tokens → x.Blank → x.Bracketed → view.Shows origins table setting (some scope) → view.Written →
    (∀ region ∈ x.regions setting.nested setting.around,
      region.Clear origins table view.state.types view.ascriptions setting.facts) →
    (x.visited setting).Clean (Otherwise.rename view.state.types.clip) →
    Resolved ((x.visited setting).node.ascriptions setting.nested) →
    ((x.visited setting).node.complete ↔ Timely ((x.visited setting).node.encounters setting.nested view))
  | .nothing, setting, view, scope, _, _, _, _, _, _, _, _ => by
    rw [Otherwise.visited, Otherwise.complete, Otherwise.encounters]
    exact iff_of_true rfl timely_nil
  | .conditional conditional, setting, view, scope, proper, blank, brackets, shows, written, clear, ⟨problems, stays⟩,
      resolved => by
    rw [Otherwise.Proper] at proper
    rw [Otherwise.Blank] at blank
    rw [Otherwise.Bracketed] at brackets
    rw [Otherwise.regions] at clear
    rw [Otherwise.visited] at problems stays resolved
    rw [Otherwise.rename] at stays
    rw [Otherwise.ascriptions] at resolved
    rw [Otherwise.visited, Otherwise.complete, Otherwise.encounters]
    exact proper.complete_iff blank brackets shows written clear ⟨problems, Otherwise.conditional.inj stays⟩ resolved
  | .block block, setting, view, scope, proper, blank, brackets, shows, written, clear, ⟨problems, stays⟩,
      resolved => by
    rw [Otherwise.Proper] at proper
    rw [Otherwise.Blank] at blank
    rw [Otherwise.Bracketed] at brackets
    rw [Otherwise.regions] at clear
    rw [Otherwise.visited] at problems stays resolved
    rw [Otherwise.rename] at stays
    rw [Otherwise.ascriptions] at resolved
    rw [Otherwise.visited, Otherwise.complete, Otherwise.encounters]
    exact proper.complete_iff blank brackets shows written clear ⟨problems, Otherwise.block.inj stays⟩ resolved

lemma FunctionDef.Proper.complete_iff : ∀ {x : FunctionDef} {setting : Setting} {view : Hindsight} {scope : ScopeId},
    x.Proper tokens → x.Blank → x.Bracketed → view.Shows origins table setting (some scope) → view.Written →
    (∀ region ∈ x.regions setting.around,
      region.Clear origins table view.state.types view.ascriptions setting.facts) →
    (x.visited setting).Clean (FunctionDef.rename view.state.types.clip) →
    Resolved (x.visited setting).node.ascriptions →
    ((x.visited setting).node.complete ↔ Timely ((x.visited setting).node.encounters view))
  | ⟨id, name, typeParameters, parameters, returns, body, keyword⟩, setting, view, scope, proper, blank, brackets,
      shows, written, clear, ⟨problems, stays⟩, resolved => by
    rw [FunctionDef.Proper] at proper
    rw [FunctionDef.Blank] at blank
    rw [FunctionDef.Bracketed] at brackets
    rw [FunctionDef.regions] at clear
    obtain ⟨⟨⟨⟨own, closed, views⟩, noted⟩, -⟩, clear⟩ := List.forall_mem_cons.mp clear
    rw [FunctionDef.visited] at problems stays resolved
    rw [FunctionDef.rename] at stays
    rw [FunctionDef.ascriptions] at resolved
    obtain ⟨-, -, -, -, -, inner, -⟩ := FunctionDef.mk.inj stays
    obtain ⟨parameters, returns, resolved⟩ := resolved.head
    rw [FunctionDef.visited, FunctionDef.complete, FunctionDef.encounters, parameters, returns, Bool.true_and,
      Bool.true_and]
    exact proper.2.2.2.2.complete_iff blank.2.2 brackets ((shows.inside closed views noted).body _) written clear
      ⟨problems, inner⟩ resolved

lemma functionsProper_complete_iff : ∀ {x : List FunctionDef} {setting : Setting} {view : Hindsight}
    {scope : ScopeId}, functionsProper tokens x → functionsBlank x → functionsBracketed x →
    view.Shows origins table setting (some scope) → view.Written →
    (∀ region ∈ functionRegions setting.around x,
      region.Clear origins table view.state.types view.ascriptions setting.facts) →
    (functionsVisited setting x).Clean (functionsRename view.state.types.clip) →
    Resolved (functionAscriptions (functionsVisited setting x).node) →
    (functionsComplete (functionsVisited setting x).node ↔
      Timely (functionEncounters view (functionsVisited setting x).node))
  | [], setting, view, scope, _, _, _, _, _, _, _, _ => by
    rw [functionsVisited, functionsComplete, functionEncounters]
    exact iff_of_true rfl timely_nil
  | definition :: rest, setting, view, scope, proper, blank, brackets, shows, written, clear, ⟨problems, stays⟩,
      resolved => by
    rw [functionsProper] at proper
    rw [functionsBlank] at blank
    rw [functionsBracketed] at brackets
    rw [functionRegions] at clear
    obtain ⟨first, clear⟩ := List.forall_mem_append.mp clear
    rw [functionsVisited] at problems stays resolved
    rw [functionsRename] at stays
    rw [functionAscriptions] at resolved
    obtain ⟨problems, others⟩ := List.append_eq_nil_iff.mp problems
    obtain ⟨head, tail⟩ := List.cons.inj stays
    obtain ⟨ascribed, resolved⟩ := List.forall_mem_append.mp resolved
    have told := blank.1.told brackets.1 shows (fun region mem => (first region mem).toShown) head
    rw [functionsVisited, functionsComplete, functionEncounters, Bool.and_eq_true, timely_append,
      proper.1.complete_iff blank.1 brackets.1 shows written first ⟨problems, head⟩ ascribed]
    exact and_congr_right fun _ => functionsProper_complete_iff proper.2 blank.2 brackets.2 (shows.after told.types)
      written clear ⟨others, tail⟩ resolved

lemma TypeDef.Proper.complete_iff : ∀ {x : TypeDef} {setting : Setting} {view : Hindsight} {scope : ScopeId},
    x.Proper tokens → x.Blank → x.Bracketed → view.Shows origins table setting (some scope) → view.Written →
    (∀ region ∈ x.regions setting.around,
      region.Clear origins table view.state.types view.ascriptions setting.facts) →
    (x.visited setting).Clean (TypeDef.rename view.state.types.clip) →
    Resolved (x.visited setting).node.ascriptions →
    ((x.visited setting).node.complete ↔ Timely ((x.visited setting).node.encounters view))
  | ⟨id, name, typeParameters, fields, methods, keyword, binding⟩, setting, view, scope, proper, blank, brackets,
      shows, written, clear, ⟨problems, stays⟩, resolved => by
    rw [TypeDef.Proper] at proper
    rw [TypeDef.Blank] at blank
    rw [TypeDef.Bracketed] at brackets
    rw [TypeDef.regions] at clear
    obtain ⟨⟨⟨⟨own, closed, views⟩, noted⟩, -⟩, clear⟩ := List.forall_mem_cons.mp clear
    rw [TypeDef.visited] at problems stays resolved
    rw [TypeDef.rename] at stays
    rw [TypeDef.ascriptions] at resolved
    obtain ⟨problems, others⟩ := List.append_eq_nil_iff.mp problems
    obtain ⟨-, -, -, first, second, -⟩ := TypeDef.mk.inj stays
    obtain ⟨ascribed, resolved⟩ := List.forall_mem_append.mp resolved
    have inside := shows.inside closed views noted
    have told := declarationsVisited_told inside blank.1 brackets.1 first
    rw [TypeDef.visited, TypeDef.complete, TypeDef.encounters, Option.isSome_some, Bool.and_true, Bool.and_eq_true,
      timely_append, declarationsVisited_complete_iff id inside written blank.1 brackets.1 proper.2.2.1
        ⟨problems, first⟩ ascribed]
    exact and_congr_right fun _ => functionsProper_complete_iff proper.2.2.2 blank.2.1 brackets.2
      (inside.after told.types) written clear ⟨others, second⟩ resolved

end

end ArrowScript
