import ArrowScript.Proofs.Analysis.Declaring
import ArrowScript.Proofs.Analysis.Survey
import Mathlib.Data.Multiset.UnionInter

/-!
# Declared programs are surveyed

When a program with handles that are all different has been declared, the table of scopes is in line with its
regions (`surveyed_of_declared`), and the registry holds the declared types in the order of the regions
(`grown_of_declared`).
-/

namespace ArrowScript
open Analysis

variable {P : Piece → Prop} {origins : List Origin} {table : ScopeTable}

/-! ## Owners and introductions -/

namespace Analysis

/-- An owner lists what is introduced, the types under their numbers. -/
structure Lists (origins : List Origin) (owner : Owner) (introductions : List Introduction) : Prop where
  variableList : owner.variableList = introductions.filterMap Introduction.asVariable
  functionList : keyed owner.functionList = introductions.filterMap Introduction.asFunction
  typeList : List.Forall₂ (fun declared introduced =>
      mangle declared.1.1 declared.1.2 = introduced.1 ∧ origins[declared.2.index]? = some introduced.2)
    owner.typeList (introductions.filterMap Introduction.asType)

namespace Lists

variable {first second : Owner} {introductions more : List Introduction}

/-- Nothing is declared. -/
lemma empty : Lists origins .empty [] :=
  ⟨rfl, rfl, .nil⟩

/-- One owner and then another. -/
lemma append (h : Lists origins first introductions) (g : Lists origins second more) :
    Lists origins (first ++ second) (introductions ++ more) where
  variableList := by
    show first.variableList ++ second.variableList = _
    rw [h.variableList, g.variableList, List.filterMap_append]
  functionList := by
    show keyed (first.functionList ++ second.functionList) = _
    rw [keyed, List.map_append, List.filterMap_append, ← h.functionList, ← g.functionList, keyed, keyed]
  typeList := by
    show List.Forall₂ _ (first.typeList ++ second.typeList) _
    rw [List.filterMap_append]
    exact List.rel_append h.typeList g.typeList

/-- A single variable. -/
lemma ofVariable (name : Span) (node : NodeId) (typed : Bool) :
    Lists origins (.ofVariable name node typed) [⟨name, name.content, .variable ⟨node, typed⟩⟩] :=
  ⟨rfl, rfl, .nil⟩

/-- A single function. -/
lemma ofFunction (name : Span) (arity : Nat) (node : NodeId) (typed : Bool) :
    Lists origins (.ofFunction name arity node typed)
      [⟨name, mangle name.content arity, .function ⟨node, typed⟩⟩] :=
  ⟨rfl, rfl, .nil⟩

/-- A single type. -/
lemma ofType {name : Span} {arity : Nat} {type : TypeId} {origin : Origin}
    (listed : origins[type.index]? = some origin) :
    Lists origins (.ofType name arity type) [⟨name, mangle name.content arity, .type origin⟩] :=
  ⟨rfl, rfl, .cons ⟨rfl, listed⟩ .nil⟩

/-- A scope that agrees with an owner agrees with the layer of what the owner lists. -/
lemma agrees {found : Scope} (h : Lists origins first introductions) (agreed : Matches P found first) :
    Agrees origins found (.of introductions) where
  variableOf := fun key => by
    have same := agreed.variableTable key
    rw [h.variableList] at same
    show Option.Rel _ _ (List.lookup key _)
    rw [← same]
    cases found.variableTable.lookup key with
    | none => exact .none
    | some symbol => exact .some rfl
  functionOf := fun key => by
    have same := agreed.functionKeys key
    rw [h.functionList] at same
    show Option.Rel _ _ (List.lookup key _)
    rw [← same]
    cases found.functionTable.lookup key with
    | none => exact .none
    | some symbol => exact .some rfl
  originOf := fun key => by
    have same := agreed.typeKeys key
    have listed : Option.Rel (fun type origin => origins[TypeId.index type]? = some origin)
        ((keyed first.typeList).lookup key) ((introductions.filterMap Introduction.asType).lookup key) := by
      have types := h.typeList
      -- Both lists were filled side by side, and types are looked up in them by the same keys.
      generalize first.typeList = declared at types
      generalize introductions.filterMap Introduction.asType = introduced at types
      induction types with
      | nil => exact .none
      | @cons first second _ _ head _ ih =>
        rw [keyed, List.map_cons, List.lookup_cons, List.lookup_cons, ← head.1]
        cases e : key == mangle first.1.1 first.1.2 with
        | true => exact .some head.2
        | false => exact ih
    show Option.Rel _ _ (List.lookup key _)
    rw [← same] at listed
    generalize found.typeTable.lookup key = symbol? at listed
    cases symbol? with
    | none =>
      cases e : (introductions.filterMap Introduction.asType).lookup key with
      | none => exact .none
      | some origin => rw [e] at listed; cases listed
    | some symbol =>
      cases e : (introductions.filterMap Introduction.asType).lookup key with
      | none => rw [e] at listed; cases listed
      | some origin =>
        rw [e] at listed
        cases listed with
        | some names => exact .some names

end Lists

/-! ## Numbers -/

/-- The declarations of some types are listed from a number on. -/
def Lies (origins : List Origin) (base : Nat) (part : List Origin) : Prop :=
  ∀ (position : Nat) (origin : Origin), part[position]? = some origin →
    origins[base + position]? = some origin

namespace Lies

variable {base : Nat} {first second : List Origin}

/-- The first ones. -/
lemma left (h : Lies origins base (first ++ second)) : Lies origins base first := by
  intro position origin found
  refine h position origin ?_
  rwa [List.getElem?_append_left (List.getElem?_eq_some_iff.mp found).1]

/-- The others. -/
lemma right (h : Lies origins base (first ++ second)) : Lies origins (base + first.length) second := by
  intro position origin found
  rw [Nat.add_assoc]
  refine h _ origin ?_
  rwa [List.getElem?_append_right (Nat.le_add_right _ _), Nat.add_sub_cancel_left]

/-- The first of them. -/
lemma head {origin : Origin} (h : Lies origins base (origin :: second)) : origins[base]? = some origin :=
  h 0 origin rfl

/-- The others than the first. -/
lemma tail {origin : Origin} (h : Lies origins base (origin :: second)) :
    Lies origins (base + 1) second := by
  intro position origin found
  rw [Nat.add_right_comm, Nat.add_assoc]
  exact h (position + 1) origin found

end Lies

end Analysis

/-- The types that are registered for type parameters. -/
lemma length_typeParameterIntroductions (owner : NodeId) (names : List Span) (position : Nat) :
    ((typeParameterIntroductions owner position names).filterMap Introduction.asType).length =
      names.length := by
  induction names generalizing position with
  | nil => rfl
  | cons name rest ih => exact congrArg Nat.succ (ih (position + 1))

mutual

/-- A block takes up as many numbers as its regions register types. -/
lemma Block.length_registrations : ∀ (block : Block) (nested : Bool) (base : Nat) (around : Layer),
    (block.registrations nested base).length =
      ((block.regions nested around).flatMap Region.origins).length
  | ⟨_, _, statements, _⟩, nested, base, around => by
    rw [Block.registrations, Block.regions, List.flatMap_cons]
    exact statementRegistrations_length statements nested base _

lemma statementRegistrations_length : ∀ (statements : List Statement) (nested : Bool) (base : Nat)
    (around : Layer), (statementRegistrations nested base statements).length =
      ((statementRegions nested around statements).flatMap Region.origins).length
  | [], nested, base, around => by rw [statementRegistrations, statementRegions]; rfl
  | statement :: rest, nested, base, around => by
    rw [statementRegistrations, statementRegions, List.flatMap_append, List.length_append,
      List.length_append, Statement.length_registrations statement nested base around,
      statementRegistrations_length rest nested _ around]

lemma Statement.length_registrations : ∀ (statement : Statement) (nested : Bool) (base : Nat)
    (around : Layer), (statement.registrations nested base).length =
      ((statement.regions nested around).flatMap Region.origins).length
  | .type definition, nested, base, around => by
    rw [Statement.registrations, Statement.regions]
    cases nested with
    | true => rfl
    | false => exact definition.length_registrations base around
  | .function definition, nested, base, around => by
    rw [Statement.registrations, Statement.regions]
    cases nested with
    | true => rfl
    | false => exact definition.length_registrations around
  | .whileLoop _ _ body, nested, base, around => by
    rw [Statement.registrations, Statement.regions, Block.length_registrations body nested base around]
  | .conditional conditional, nested, base, around => by
    rw [Statement.registrations, Statement.regions,
      Conditional.length_registrations conditional nested base around]
  | .variable _, nested, base, around | .returning .., nested, base, around
  | .breaking _, nested, base, around | .continuing _, nested, base, around
  | .importing .., nested, base, around | .path .., nested, base, around
  | .expression _, nested, base, around => by
    rw [Statement.registrations, Statement.regions]
    rfl

lemma Conditional.length_registrations : ∀ (conditional : Conditional) (nested : Bool) (base : Nat)
    (around : Layer), (conditional.registrations nested base).length =
      ((conditional.regions nested around).flatMap Region.origins).length
  | ⟨_, body, otherwise, _⟩, nested, base, around => by
    rw [Conditional.registrations, Conditional.regions, List.flatMap_append, List.length_append,
      List.length_append, Block.length_registrations body nested base around,
      Otherwise.length_registrations otherwise nested _ around]

lemma Otherwise.length_registrations : ∀ (otherwise : Otherwise) (nested : Bool) (base : Nat)
    (around : Layer), (otherwise.registrations nested base).length =
      ((otherwise.regions nested around).flatMap Region.origins).length
  | .nothing, nested, base, around => by rw [Otherwise.registrations, Otherwise.regions]; rfl
  | .conditional conditional, nested, base, around => by
    rw [Otherwise.registrations, Otherwise.regions,
      Conditional.length_registrations conditional nested base around]
  | .block block, nested, base, around => by
    rw [Otherwise.registrations, Otherwise.regions, Block.length_registrations block nested base around]

lemma FunctionDef.length_registrations : ∀ (definition : FunctionDef) (around : Layer),
    definition.registrations.length = ((definition.regions around).flatMap Region.origins).length
  | ⟨id, name, typeParameters, parameters, returns, body, keyword⟩, around => by
    rw [FunctionDef.registrations, FunctionDef.regions, List.flatMap_cons, FunctionDef.origins_region,
      List.length_append, ← Block.length_registrations body true 0, Block.registrations_nested,
      List.length_replicate, List.length_map, length_typeParameterIntroductions, length_getD]
    rfl

lemma functionRegistrations_length : ∀ (definitions : List FunctionDef) (around : Layer),
    (functionRegistrations definitions).length =
      ((functionRegions around definitions).flatMap Region.origins).length
  | [], around => by rw [functionRegistrations, functionRegions]; rfl
  | definition :: rest, around => by
    rw [functionRegistrations, functionRegions, List.flatMap_append, List.length_append,
      List.length_append, FunctionDef.length_registrations definition around,
      functionRegistrations_length rest around]

lemma TypeDef.length_registrations : ∀ (definition : TypeDef) (base : Nat) (around : Layer),
    (definition.registrations base).length = ((definition.regions around).flatMap Region.origins).length
  | ⟨id, name, typeParameters, fields, methods, keyword, binding⟩, base, around => by
    rw [TypeDef.registrations, TypeDef.regions, List.flatMap_cons, TypeDef.origins_region,
      List.length_append, ← functionRegistrations_length methods, List.length_cons, List.length_append,
      List.length_replicate, List.length_cons, List.length_map, length_typeParameterIntroductions,
      length_getD]
    omega

end

/-! ## What owners list -/

/-- The declarations of the types among some introductions. -/
abbrev originsOf (introductions : List Introduction) : List Origin :=
  (introductions.filterMap Introduction.asType).map Prod.snd

lemma length_originsOf (owner : NodeId) (names : List Span) :
    (originsOf (typeParameterIntroductions owner 0 names)).length = names.length := by
  rw [List.length_map, length_typeParameterIntroductions]

/-- Type parameters. -/
lemma lists_typeParameters (owner : NodeId) (names : List Span) (position base : Nat)
    (lies : Lies origins base (originsOf (typeParameterIntroductions owner position names))) :
    Lists origins (typeParameterOwner base names) (typeParameterIntroductions owner position names) := by
  induction names generalizing position base with
  | nil => exact .empty
  | cons name rest ih =>
    exact (Lists.ofType lies.head).append (ih (position + 1) (base + 1) lies.tail)

/-- Parameters. -/
lemma lists_parameters (parameters : List Parameter) :
    Lists origins (parameterOwner parameters) (parameters.map Parameter.introduction) := by
  induction parameters with
  | nil => exact .empty
  | cons parameter rest ih => exact (Lists.ofVariable _ _ _).append ih

/-- Fields. -/
lemma lists_fields (fields : List Declaration) :
    Lists origins (fieldOwner fields) (fields.map Declaration.introduction) := by
  induction fields with
  | nil => exact .empty
  | cons field rest ih => exact (Lists.ofVariable _ _ _).append ih

/-- A function in the scope around it. -/
lemma FunctionDef.lists (definition : FunctionDef) :
    Lists origins definition.declares [definition.introduction] := by
  cases definition
  exact .ofFunction _ _ _ _

/-- Methods. -/
lemma lists_methods (methods : List FunctionDef) :
    Lists origins (functionOwner methods) (methods.map FunctionDef.introduction) := by
  induction methods with
  | nil => exact .empty
  | cons definition rest ih => exact definition.lists.append ih

/-- A function in its own scope. -/
lemma FunctionDef.lists_owner (definition : FunctionDef) (base : Nat) (around : Layer)
    (lies : Lies origins base (definition.region around).origins) :
    Lists origins (definition.owner base) definition.introductions := by
  cases definition
  rw [FunctionDef.origins_region] at lies
  exact (lists_typeParameters _ _ 0 base lies).append (lists_parameters _)

/-- A type in its own scope. -/
lemma TypeDef.lists_owner (definition : TypeDef) (base : Nat) (around : Layer)
    (lies : Lies origins base (definition.region around).origins) :
    Lists origins (definition.owner base) definition.introductions := by
  cases definition
  rw [TypeDef.origins_region] at lies
  exact (lists_typeParameters _ _ 0 (base + 1) lies.tail).append
    ((lists_fields _).append (lists_methods _))

/-- A statement in the scope around it. -/
lemma Statement.lists (statement : Statement) (nested : Bool) (base : Nat) (around : Layer)
    (lies : Lies origins base ((statement.regions nested around).flatMap Region.origins)) :
    Lists origins (statement.declares nested base) (statement.introductions nested) := by
  cases statement with
  | type definition =>
    obtain ⟨id, name, typeParameters, fields, methods, keyword, binding⟩ := definition
    rw [Statement.declares, Statement.introductions]
    cases nested with
    | true => exact .empty
    | false =>
      rw [Statement.regions, if_neg Bool.false_ne_true, TypeDef.regions, List.flatMap_cons,
        TypeDef.origins_region] at lies
      exact .ofType lies.head
  | function definition =>
    rw [Statement.declares, Statement.introductions]
    cases nested with
    | true => exact .empty
    | false => exact definition.lists
  | «variable» declaration => exact .ofVariable _ _ _
  | returning | breaking | continuing | whileLoop | conditional | importing | path | expression =>
    exact .empty

/-- Statements in the scope around them. -/
lemma lists_statements (statements : List Statement) (nested : Bool) (base : Nat) (around : Layer)
    (lies : Lies origins base ((statementRegions nested around statements).flatMap Region.origins)) :
    Lists origins (statementOwner nested base statements)
      (statements.flatMap (Statement.introductions nested)) := by
  induction statements generalizing base with
  | nil => exact .empty
  | cons statement rest ih =>
    rw [statementRegions, List.flatMap_append] at lies
    refine (statement.lists nested base around lies.left).append (ih _ ?_)
    rw [statement.length_registrations nested base around]
    exact lies.right

/-! ## Laid trees -/

namespace Analysis

/-- The scope of a region is recorded and shows what can be seen from the region. -/
structure Kept (origins : List Origin) (table : ScopeTable) (region : Region) (scope : ScopeId) : Prop where
  closed : table.scopeOf? region.place.owner = some scope
  found : ∃ found, table.get? scope = some found ∧ Agrees origins found (.of region.introductions)
  views : Views origins table (some scope) region.place.layer

/-- The scopes of some regions are kept. -/
def AllKept (origins : List Origin) (table : ScopeTable) (regions : List Region) : Prop :=
  ∀ region ∈ regions, ∃ scope, Kept origins table region scope

namespace AllKept

variable {first second : List Region}

/-- The scopes of all of some regions. -/
lemma append (h : AllKept origins table first) (g : AllKept origins table second) :
    AllKept origins table (first ++ second) :=
  fun region mem => (List.mem_append.mp mem).elim (h region) (g region)

/-- The scope of one more region. -/
lemma cons {region : Region} {scope : ScopeId} (h : Kept origins table region scope)
    (g : AllKept origins table second) : AllKept origins table (region :: second) := by
  intro other mem
  rcases List.mem_cons.mp mem with rfl | mem
  · exact ⟨scope, h⟩
  · exact g other mem

end AllKept

/-- A scope that stands for a region under another is kept. -/
lemma Stands.kept {outer : Option ScopeId} {owner : Owner} {own : ScopeId} {around : Layer} (region : Region)
    (stands : Stands P table outer region.place.owner owner own)
    (lists : Lists origins owner region.introductions) (views : Views origins table outer around)
    (layer : region.place.layer = (Layer.of region.introductions).shadowing around) :
    Kept origins table region own := by
  obtain ⟨found, get, rfl, agreed⟩ := stands.found
  refine ⟨stands.closed, ⟨found, get, lists.agrees agreed⟩, ?_⟩
  rw [layer]
  exact .inside get (lists.agrees agreed) stands.below views

end Analysis

mutual

/-- The regions of a laid block are kept. -/
lemma Block.Laid.kept : ∀ {block : Block} {nested : Bool} {base : Nat} {outer : Option ScopeId}
    {around : Layer}, block.Laid P table nested base outer →
    Lies origins base ((block.regions nested around).flatMap Region.origins) →
    Views origins table outer around → AllKept origins table (block.regions nested around)
  | ⟨id, kind, statements, span⟩, nested, base, outer, around, laid, lies, views => by
    rw [Block.Laid] at laid
    obtain ⟨own, stands, laid⟩ := laid
    rw [Block.regions, List.flatMap_cons] at lies
    have kept := Stands.kept (Block.region nested around ⟨id, kind, statements, span⟩) stands
      (lists_statements statements nested base _ lies) views rfl
    rw [Block.regions]
    exact .cons kept (statementsLaid_kept laid lies kept.views)

lemma statementsLaid_kept : ∀ {statements : List Statement} {nested : Bool} {base : Nat} {scope : ScopeId}
    {around : Layer}, statementsLaid P table nested base scope statements →
    Lies origins base ((statementRegions nested around statements).flatMap Region.origins) →
    Views origins table (some scope) around → AllKept origins table (statementRegions nested around statements)
  | [], nested, base, scope, around, laid, lies, views => by
    rw [statementRegions]
    exact nofun
  | statement :: rest, nested, base, scope, around, laid, lies, views => by
    rw [statementsLaid] at laid
    rw [statementRegions, List.flatMap_append] at lies
    rw [statementRegions]
    refine (Statement.Laid.kept laid.1 lies.left views).append (statementsLaid_kept laid.2 ?_ views)
    rw [statement.length_registrations nested base around]
    exact lies.right

lemma Statement.Laid.kept : ∀ {statement : Statement} {nested : Bool} {base : Nat} {scope : ScopeId}
    {around : Layer}, statement.Laid P table nested base scope →
    Lies origins base ((statement.regions nested around).flatMap Region.origins) →
    Views origins table (some scope) around → AllKept origins table (statement.regions nested around)
  | .type definition, nested, base, scope, around, laid, lies, views => by
    rw [Statement.Laid] at laid
    rw [Statement.regions] at lies ⊢
    cases nested with
    | true => exact nofun
    | false => exact TypeDef.Laid.kept (laid.resolve_left Bool.false_ne_true) lies views
  | .function definition, nested, base, scope, around, laid, lies, views => by
    rw [Statement.Laid] at laid
    rw [Statement.regions] at lies ⊢
    cases nested with
    | true => exact nofun
    | false => exact FunctionDef.Laid.kept (laid.resolve_left Bool.false_ne_true) lies views
  | .whileLoop _ _ body, nested, base, scope, around, laid, lies, views => by
    rw [Statement.Laid] at laid
    rw [Statement.regions] at lies ⊢
    exact Block.Laid.kept laid lies views
  | .conditional conditional, nested, base, scope, around, laid, lies, views => by
    rw [Statement.Laid] at laid
    rw [Statement.regions] at lies ⊢
    exact Conditional.Laid.kept laid lies views
  | .variable _, nested, base, scope, around, laid, lies, views
  | .returning .., nested, base, scope, around, laid, lies, views
  | .breaking _, nested, base, scope, around, laid, lies, views
  | .continuing _, nested, base, scope, around, laid, lies, views
  | .importing .., nested, base, scope, around, laid, lies, views
  | .path .., nested, base, scope, around, laid, lies, views
  | .expression _, nested, base, scope, around, laid, lies, views => by
    rw [Statement.regions]
    exact nofun

lemma Conditional.Laid.kept : ∀ {conditional : Conditional} {nested : Bool} {base : Nat} {scope : ScopeId}
    {around : Layer}, conditional.Laid P table nested base scope →
    Lies origins base ((conditional.regions nested around).flatMap Region.origins) →
    Views origins table (some scope) around → AllKept origins table (conditional.regions nested around)
  | ⟨_, body, otherwise, _⟩, nested, base, scope, around, laid, lies, views => by
    rw [Conditional.Laid] at laid
    rw [Conditional.regions, List.flatMap_append] at lies
    rw [Conditional.regions]
    refine (Block.Laid.kept laid.1 lies.left views).append (Otherwise.Laid.kept laid.2 ?_ views)
    rw [body.length_registrations nested base around]
    exact lies.right

lemma Otherwise.Laid.kept : ∀ {otherwise : Otherwise} {nested : Bool} {base : Nat} {scope : ScopeId}
    {around : Layer}, otherwise.Laid P table nested base scope →
    Lies origins base ((otherwise.regions nested around).flatMap Region.origins) →
    Views origins table (some scope) around → AllKept origins table (otherwise.regions nested around)
  | .nothing, nested, base, scope, around, laid, lies, views => by
    rw [Otherwise.regions]
    exact nofun
  | .conditional conditional, nested, base, scope, around, laid, lies, views => by
    rw [Otherwise.Laid] at laid
    rw [Otherwise.regions] at lies ⊢
    exact Conditional.Laid.kept laid lies views
  | .block block, nested, base, scope, around, laid, lies, views => by
    rw [Otherwise.Laid] at laid
    rw [Otherwise.regions] at lies ⊢
    exact Block.Laid.kept laid lies views

lemma FunctionDef.Laid.kept : ∀ {definition : FunctionDef} {base : Nat} {scope : ScopeId} {around : Layer},
    definition.Laid P table base scope →
    Lies origins base ((definition.regions around).flatMap Region.origins) →
    Views origins table (some scope) around → AllKept origins table (definition.regions around)
  | ⟨id, name, typeParameters, parameters, returns, body, keyword⟩, base, scope, around, laid, lies,
      views => by
    rw [FunctionDef.Laid] at laid
    obtain ⟨own, stands, laid⟩ := laid
    rw [FunctionDef.regions, List.flatMap_cons] at lies
    have kept := Stands.kept
      (FunctionDef.region around ⟨id, name, typeParameters, parameters, returns, body, keyword⟩) stands
      (FunctionDef.lists_owner _ base around lies.left) views rfl
    rw [FunctionDef.regions]
    refine .cons kept (Block.Laid.kept laid ?_ kept.views)
    have later := lies.right
    rwa [FunctionDef.origins_region, length_originsOf, length_getD] at later

lemma functionsLaid_kept : ∀ {definitions : List FunctionDef} {base : Nat} {scope : ScopeId}
    {around : Layer}, functionsLaid P table base scope definitions →
    Lies origins base ((functionRegions around definitions).flatMap Region.origins) →
    Views origins table (some scope) around → AllKept origins table (functionRegions around definitions)
  | [], base, scope, around, laid, lies, views => by
    rw [functionRegions]
    exact nofun
  | definition :: rest, base, scope, around, laid, lies, views => by
    rw [functionsLaid] at laid
    rw [functionRegions, List.flatMap_append] at lies
    rw [functionRegions]
    refine (FunctionDef.Laid.kept laid.1 lies.left views).append (functionsLaid_kept laid.2 ?_ views)
    rw [definition.length_registrations around]
    exact lies.right

lemma TypeDef.Laid.kept : ∀ {definition : TypeDef} {base : Nat} {scope : ScopeId} {around : Layer},
    definition.Laid P table base scope →
    Lies origins base ((definition.regions around).flatMap Region.origins) →
    Views origins table (some scope) around → AllKept origins table (definition.regions around)
  | ⟨id, name, typeParameters, fields, methods, keyword, binding⟩, base, scope, around, laid, lies,
      views => by
    rw [TypeDef.Laid] at laid
    obtain ⟨own, stands, laid⟩ := laid
    rw [TypeDef.regions, List.flatMap_cons] at lies
    have kept := Stands.kept
      (TypeDef.region around ⟨id, name, typeParameters, fields, methods, keyword, binding⟩) stands
      (TypeDef.lists_owner _ base around lies.left) views rfl
    rw [TypeDef.regions]
    refine .cons kept (functionsLaid_kept laid ?_ kept.views)
    have later := lies.right
    rwa [TypeDef.origins_region, List.length_cons, length_originsOf, length_getD, Nat.add_comm _ 1] at later

end

/-! ## All regions -/

/-- The regions of blocks, functions and types have a property. -/
structure Analysis.OnRegions (motive : Region → Prop) : Prop where
  block : ∀ nested around block, motive (Block.region nested around block)
  function : ∀ around definition, motive (FunctionDef.region around definition)
  type : ∀ around definition, motive (TypeDef.region around definition)

mutual

/-- What holds of the regions of blocks, functions and types holds of all regions in a block. -/
lemma Block.forall_regions {motive : Region → Prop} (h : OnRegions motive) : ∀ (block : Block) (nested : Bool) (around : Layer),
    ∀ region ∈ block.regions nested around, motive region
  | ⟨_, _, statements, _⟩, nested, around => by
    rw [Block.regions, List.forall_mem_cons]
    exact ⟨h.block .., forall_statementRegions h statements nested _⟩

lemma forall_statementRegions {motive : Region → Prop} (h : OnRegions motive) : ∀ (statements : List Statement) (nested : Bool) (around : Layer),
    ∀ region ∈ statementRegions nested around statements, motive region
  | [], nested, around => by
    rw [statementRegions]
    exact nofun
  | statement :: rest, nested, around => by
    rw [statementRegions, List.forall_mem_append]
    exact ⟨Statement.forall_regions h statement nested around, forall_statementRegions h rest nested around⟩

lemma Statement.forall_regions {motive : Region → Prop} (h : OnRegions motive) : ∀ (statement : Statement) (nested : Bool) (around : Layer),
    ∀ region ∈ statement.regions nested around, motive region
  | .type definition, nested, around => by
    rw [Statement.regions]
    cases nested with
    | true => exact nofun
    | false => exact TypeDef.forall_regions h definition around
  | .function definition, nested, around => by
    rw [Statement.regions]
    cases nested with
    | true => exact nofun
    | false => exact FunctionDef.forall_regions h definition around
  | .whileLoop _ _ body, nested, around => by
    rw [Statement.regions]
    exact Block.forall_regions h body nested around
  | .conditional conditional, nested, around => by
    rw [Statement.regions]
    exact Conditional.forall_regions h conditional nested around
  | .variable _, nested, around | .returning .., nested, around | .breaking _, nested, around
  | .continuing _, nested, around | .importing .., nested, around | .path .., nested, around
  | .expression _, nested, around => by
    rw [Statement.regions]
    exact nofun

lemma Conditional.forall_regions {motive : Region → Prop} (h : OnRegions motive) : ∀ (conditional : Conditional) (nested : Bool) (around : Layer),
    ∀ region ∈ conditional.regions nested around, motive region
  | ⟨_, body, otherwise, _⟩, nested, around => by
    rw [Conditional.regions, List.forall_mem_append]
    exact ⟨Block.forall_regions h body nested around, Otherwise.forall_regions h otherwise nested around⟩

lemma Otherwise.forall_regions {motive : Region → Prop} (h : OnRegions motive) : ∀ (otherwise : Otherwise) (nested : Bool) (around : Layer),
    ∀ region ∈ otherwise.regions nested around, motive region
  | .nothing, nested, around => by
    rw [Otherwise.regions]
    exact nofun
  | .conditional conditional, nested, around => by
    rw [Otherwise.regions]
    exact Conditional.forall_regions h conditional nested around
  | .block block, nested, around => by
    rw [Otherwise.regions]
    exact Block.forall_regions h block nested around

lemma FunctionDef.forall_regions {motive : Region → Prop} (h : OnRegions motive) : ∀ (definition : FunctionDef) (around : Layer),
    ∀ region ∈ definition.regions around, motive region
  | ⟨_, _, _, _, _, body, _⟩, around => by
    rw [FunctionDef.regions, List.forall_mem_cons]
    exact ⟨h.function .., Block.forall_regions h body true _⟩

lemma forall_functionRegions {motive : Region → Prop} (h : OnRegions motive) : ∀ (definitions : List FunctionDef) (around : Layer),
    ∀ region ∈ functionRegions around definitions, motive region
  | [], around => by
    rw [functionRegions]
    exact nofun
  | definition :: rest, around => by
    rw [functionRegions, List.forall_mem_append]
    exact ⟨FunctionDef.forall_regions h definition around, forall_functionRegions h rest around⟩

lemma TypeDef.forall_regions {motive : Region → Prop} (h : OnRegions motive) : ∀ (definition : TypeDef) (around : Layer),
    ∀ region ∈ definition.regions around, motive region
  | ⟨_, _, _, _, methods, _, _⟩, around => by
    rw [TypeDef.regions, List.forall_mem_cons]
    exact ⟨h.type .., forall_functionRegions h methods _⟩

end

/-! ## Handles of regions -/

/-- The handle of the variable that a statement declares. -/
def Statement.ownIds : Statement → List NodeId
  | .variable declaration => [declaration.id]
  | .type _ | .function _ | .whileLoop .. | .conditional _ | .returning .. | .breaking _ | .continuing _
  | .importing .. | .path .. | .expression _ => []

/-- The regions of blocks, functions and types have only handles from there. -/
structure Analysis.FromRegions (f : Region → List NodeId) : Prop where
  block : ∀ nested around id kind statements span,
    (↑(f (Block.region nested around ⟨id, kind, statements, span⟩)) : Multiset NodeId) ≤
      ↑[id] + ↑(statements.flatMap Statement.ownIds)
  function : ∀ around id name typeParameters parameters returns body keyword,
    (↑(f (FunctionDef.region around ⟨id, name, typeParameters, parameters, returns, body, keyword⟩)) :
      Multiset NodeId) ≤ ↑[id] + ↑(parameters.map Parameter.id)
  type : ∀ around id name typeParameters fields methods keyword binding,
    (↑(f (TypeDef.region around ⟨id, name, typeParameters, fields, methods, keyword, binding⟩)) :
      Multiset NodeId) ≤ ↑[id] + ↑(fields.map Declaration.id)

mutual

/-- If the regions of blocks, functions and types have only handles from there, so have all regions in a
block. -/
lemma Block.regions_le {f : Region → List NodeId} (h : FromRegions f) : ∀ (block : Block) (nested : Bool) (around : Layer),
    (↑((block.regions nested around).flatMap f) : Multiset NodeId) ≤ ↑block.ids
  | ⟨id, kind, statements, span⟩, nested, around => by
    rw [Block.regions, Block.ids, List.flatMap_cons, ← Multiset.coe_add, ← List.singleton_append,
      ← Multiset.coe_add]
    refine (add_le_add_left (h.block nested around id kind statements span) _).trans ?_
    rw [add_assoc]
    exact add_le_add_right (statementRegions_le h statements nested _) _

/-- The same for statements, together with the variables that they declare. -/
lemma statementRegions_le {f : Region → List NodeId} (h : FromRegions f) : ∀ (statements : List Statement) (nested : Bool) (around : Layer),
    (↑(statements.flatMap Statement.ownIds) + ↑((statementRegions nested around statements).flatMap f) :
      Multiset NodeId) ≤ ↑(statementIds statements)
  | [], nested, around => by
    rw [statementRegions]
    exact Multiset.zero_le _
  | statement :: rest, nested, around => by
    rw [statementRegions, statementIds, List.flatMap_cons, List.flatMap_append, ← Multiset.coe_add,
      ← Multiset.coe_add, ← Multiset.coe_add, add_add_add_comm]
    exact add_le_add (Statement.regions_le h statement nested around) (statementRegions_le h rest nested around)

/-- The same for a statement, together with the variable that it declares. -/
lemma Statement.regions_le {f : Region → List NodeId} (h : FromRegions f) : ∀ (statement : Statement) (nested : Bool) (around : Layer),
    (↑statement.ownIds + ↑((statement.regions nested around).flatMap f) : Multiset NodeId) ≤ ↑statement.ids
  | .type definition, nested, around => by
    rw [Statement.regions, Statement.ids]
    cases nested with
    | true => exact Multiset.zero_le _
    | false => exact (zero_add _).trans_le (TypeDef.regions_le h definition around)
  | .function definition, nested, around => by
    rw [Statement.regions, Statement.ids]
    cases nested with
    | true => exact Multiset.zero_le _
    | false => exact (zero_add _).trans_le (FunctionDef.regions_le h definition around)
  | .whileLoop _ _ body, nested, around => by
    rw [Statement.regions, Statement.ids]
    exact (zero_add _).trans_le (Block.regions_le h body nested around)
  | .conditional conditional, nested, around => by
    rw [Statement.regions, Statement.ids]
    exact (zero_add _).trans_le (Conditional.regions_le h conditional nested around)
  | .variable _, nested, around | .returning .., nested, around | .breaking _, nested, around
  | .continuing _, nested, around | .importing .., nested, around | .path .., nested, around
  | .expression _, nested, around => by
    rw [Statement.regions, Statement.ids]
    exact (add_zero _).le

lemma Conditional.regions_le {f : Region → List NodeId} (h : FromRegions f) : ∀ (conditional : Conditional) (nested : Bool) (around : Layer),
    (↑((conditional.regions nested around).flatMap f) : Multiset NodeId) ≤ ↑conditional.ids
  | ⟨_, body, otherwise, _⟩, nested, around => by
    rw [Conditional.regions, Conditional.ids, List.flatMap_append, ← Multiset.coe_add,
      ← Multiset.coe_add]
    exact add_le_add (Block.regions_le h body nested around) (Otherwise.regions_le h otherwise nested around)

lemma Otherwise.regions_le {f : Region → List NodeId} (h : FromRegions f) : ∀ (otherwise : Otherwise) (nested : Bool) (around : Layer),
    (↑((otherwise.regions nested around).flatMap f) : Multiset NodeId) ≤ ↑otherwise.ids
  | .nothing, nested, around => by
    rw [Otherwise.regions]
    exact Multiset.zero_le _
  | .conditional conditional, nested, around => by
    rw [Otherwise.regions, Otherwise.ids]
    exact Conditional.regions_le h conditional nested around
  | .block block, nested, around => by
    rw [Otherwise.regions, Otherwise.ids]
    exact Block.regions_le h block nested around

lemma FunctionDef.regions_le {f : Region → List NodeId} (h : FromRegions f) : ∀ (definition : FunctionDef) (around : Layer),
    (↑((definition.regions around).flatMap f) : Multiset NodeId) ≤ ↑definition.ids
  | ⟨id, name, typeParameters, parameters, returns, body, keyword⟩, around => by
    rw [FunctionDef.regions, FunctionDef.ids, List.flatMap_cons, ← Multiset.coe_add,
      ← List.singleton_append, ← Multiset.coe_add, ← Multiset.coe_add, ← add_assoc]
    exact add_le_add (h.function ..) (Block.regions_le h body true _)

lemma functionRegions_le {f : Region → List NodeId} (h : FromRegions f) : ∀ (definitions : List FunctionDef) (around : Layer),
    (↑((functionRegions around definitions).flatMap f) : Multiset NodeId) ≤ ↑(functionIds definitions)
  | [], around => by
    rw [functionRegions]
    exact Multiset.zero_le _
  | definition :: rest, around => by
    rw [functionRegions, functionIds, List.flatMap_append, ← Multiset.coe_add, ← Multiset.coe_add]
    exact add_le_add (FunctionDef.regions_le h definition around) (functionRegions_le h rest around)

lemma TypeDef.regions_le {f : Region → List NodeId} (h : FromRegions f) : ∀ (definition : TypeDef) (around : Layer),
    (↑((definition.regions around).flatMap f) : Multiset NodeId) ≤ ↑definition.ids
  | ⟨id, name, typeParameters, fields, methods, keyword, binding⟩, around => by
    rw [TypeDef.regions, TypeDef.ids, List.flatMap_cons, ← Multiset.coe_add, ← List.singleton_append,
      ← Multiset.coe_add, ← Multiset.coe_add, ← add_assoc]
    exact add_le_add (h.type ..) (functionRegions_le h methods _)

end

namespace Analysis

/-- The owner of a region is one handle from there. -/
lemma fromRegions_owner : FromRegions fun region => [region.place.owner] where
  block := fun _ _ _ _ _ _ => Multiset.le_add_right _ _
  function := fun _ _ _ _ _ _ _ _ => Multiset.le_add_right _ _
  type := fun _ _ _ _ _ _ _ _ => Multiset.le_add_right _ _

/-- The declarations of a region whose types are written are from there. -/
lemma fromRegions_writes : FromRegions fun region => region.writes.map Prod.fst where
  block := fun nested around id kind statements span => by
    refine le_trans (Multiset.coe_le.mpr (List.Sublist.subperm ?_)) (Multiset.le_add_left _ _)
    show (statements.flatMap Statement.writes).map Prod.fst |>.Sublist _
    induction statements with
    | nil => exact .slnil
    | cons statement rest ih =>
      rw [List.flatMap_cons, List.map_append, List.flatMap_cons]
      refine List.Sublist.append ?_ ih
      -- Of the statements only declarations write a type here; nested blocks have regions of their own.
      cases statement with
      | «variable» declaration =>
        rw [Statement.writes, Declaration.writes]
        cases declaration.written with
        | none => exact List.nil_sublist _
        | some written => exact List.Sublist.refl _
      | type | function | returning | breaking | continuing | whileLoop | conditional | importing | path
      | expression => exact .slnil
  function := fun around id name typeParameters parameters returns body keyword => by
    show (↑((parameters.map _ ++ (returns.map (id, ·)).toList).map Prod.fst) : Multiset NodeId) ≤ _
    rw [List.map_append, ← Multiset.coe_add, add_comm, List.map_map]
    refine add_le_add ?_ le_rfl
    cases returns with
    | none => exact Multiset.zero_le _
    | some written => exact le_rfl
  type := fun around id name typeParameters fields methods keyword binding => by
    refine le_trans (Multiset.coe_le.mpr (List.Sublist.subperm ?_)) (Multiset.le_add_left _ _)
    show (fields.flatMap Declaration.writes).map Prod.fst |>.Sublist _
    induction fields with
    | nil => exact .slnil
    | cons field rest ih =>
      rw [List.flatMap_cons, List.map_append, List.map_cons, ← List.singleton_append]
      refine List.Sublist.append ?_ ih
      rw [Declaration.writes]
      cases field.written with
      | none => exact List.nil_sublist _
      | some written => exact List.Sublist.refl _

end Analysis

/-- In a block with handles that are all different, handles that come from there are different. -/
lemma Block.nodup_regions {block : Block} (nodup : block.ids.Nodup) (nested : Bool) (around : Layer)
    {f : Region → List NodeId} (h : FromRegions f) : ((block.regions nested around).flatMap f).Nodup := by
  rw [← Multiset.coe_nodup] at nodup ⊢
  exact Multiset.nodup_of_le (block.regions_le h nested around) nodup

namespace Analysis

/-! ## Association lists -/

/-- With keys that are all different, what is listed is found. -/
lemma lookup_eq_some_of_mem {κ α : Type} [BEq κ] [LawfulBEq κ] {list : List (κ × α)} {key : κ} {value : α}
    (nodup : (list.map Prod.fst).Nodup) (mem : (key, value) ∈ list) : list.lookup key = some value := by
  induction list with
  | nil => cases mem
  | cons first rest ih =>
    rw [List.map_cons, List.nodup_cons] at nodup
    rw [List.lookup_cons]
    rcases List.mem_cons.mp mem with rfl | mem
    · rw [beq_self_eq_true]
    · have apart : (key == first.1) = false := by
        refine beq_false_of_ne ?_
        rintro rfl
        exact nodup.1 (List.mem_map.mpr ⟨_, mem, rfl⟩)
      rw [apart]
      exact ih nodup.2 mem

/-- What is found is listed. -/
lemma mem_of_lookup_eq_some {κ α : Type} [BEq κ] [LawfulBEq κ] {list : List (κ × α)} {key : κ} {value : α}
    (found : list.lookup key = some value) : (key, value) ∈ list := by
  obtain ⟨first, rest, e, -⟩ := List.lookup_eq_some_iff.mp found
  simp [e]

/-- What has a listed key is found. -/
lemma exists_lookup_of_mem {κ α : Type} [BEq κ] [LawfulBEq κ] {list : List (κ × α)} {key : κ}
    (mem : key ∈ list.map Prod.fst) : ∃ value, list.lookup key = some value := by
  refine Option.ne_none_iff_exists'.mp fun none => ?_
  obtain ⟨entry, listed, rfl⟩ := List.mem_map.mp mem
  have apart := List.lookup_eq_none_iff.mp none entry listed
  simp at apart

/-- Keys that come from some elements are different if they are for the elements. -/
lemma nodup_filterMap_fst {κ α β : Type} {list : List α} {key : α → κ} {view : α → Option (κ × β)}
    (keys : ∀ one value, view one = some value → value.1 = key one) (nodup : (list.map key).Nodup) :
    ((list.filterMap view).map Prod.fst).Nodup := by
  refine nodup.sublist ?_
  induction list with
  | nil => exact .slnil
  | cons first rest ih =>
    have ih := ih (nodup.sublist (List.sublist_cons_self _ _))
    rw [List.filterMap_cons]
    cases e : view first with
    | none => exact ih.cons _
    | some value =>
      rw [List.map_cons, List.map_cons, keys first value e]
      exact ih.cons_cons _

/-! ## The registry -/

/-- The node that a declared type comes from. -/
def Origin.node? : Origin → Option NodeId
  | builtin _ => none
  | user node _ => some node
  | parameter owner _ _ => some owner

/-- Type parameters come from their owner, at different positions. -/
lemma nodup_typeParameters (owner : NodeId) (names : List Span) (position : Nat) :
    (originsOf (typeParameterIntroductions owner position names)).Nodup ∧
      ∀ origin ∈ originsOf (typeParameterIntroductions owner position names),
        ∃ later name, position ≤ later ∧ origin = .parameter owner later name := by
  induction names generalizing position with
  | nil => exact ⟨.nil, nofun⟩
  | cons name rest ih =>
    obtain ⟨nodup, later⟩ := ih (position + 1)
    refine ⟨List.nodup_cons.mpr ⟨fun mem => ?_, nodup⟩, ?_⟩
    · obtain ⟨place, name, above, e⟩ := later _ mem
      have := (Origin.parameter.inj e).2.1
      omega
    · intro origin mem
      rcases List.mem_cons.mp mem with rfl | mem
      · exact ⟨position, name.content, le_rfl, rfl⟩
      · obtain ⟨place, name, above, e⟩ := later origin mem
        exact ⟨place, name, by omega, e⟩

/-- The types that are registered for a region are different and come from its owner; the type with members is
that of the region. -/
structure Region.Regular (region : Region) : Prop where
  nodup : region.origins.Nodup
  node : ∀ origin ∈ region.origins, origin.node? = some region.place.owner
  members : ∀ node name, .user node name ∈ region.origins →
    region.members = some (node, .of region.introductions)
  single : ∀ node name other, .user node name ∈ region.origins → .user node other ∈ region.origins →
    name = other

/-- The members of a type are kept under the owner of its region. -/
lemma Region.owner_of_members (region : Region) (value : NodeId × Layer) (e : region.members = some value) :
    value.1 = region.place.owner := by
  unfold Region.members at e
  split at e <;> cases e
  rfl

/-- The parameters of a function are kept under the owner of its region. -/
lemma Region.owner_of_signature (region : Region) (value : NodeId × List NodeId)
    (e : region.signature = some value) : value.1 = region.place.owner := by
  unfold Region.signature at e
  split at e <;> cases e
  rfl

/-- All regions are regular. -/
lemma onRegions_regular : OnRegions Region.Regular where
  block := by
    rintro nested around ⟨id, kind, statements, span⟩
    exact ⟨.nil, nofun, nofun, nofun⟩
  function := by
    rintro around ⟨id, name, typeParameters, parameters, returns, body, keyword⟩
    obtain ⟨nodup, later⟩ := nodup_typeParameters id (typeParameters.getD []) 0
    refine ⟨?_, ?_, ?_, ?_⟩ <;> rw [FunctionDef.origins_region]
    · exact nodup
    · intro origin mem
      obtain ⟨_, _, -, rfl⟩ := later origin mem
      rfl
    · intro node name mem
      obtain ⟨_, _, -, e⟩ := later _ mem
      cases e
    · intro node name other mem
      obtain ⟨_, _, -, e⟩ := later _ mem
      cases e
  type := by
    rintro around ⟨id, name, typeParameters, fields, methods, keyword, binding⟩
    obtain ⟨nodup, later⟩ := nodup_typeParameters id (typeParameters.getD []) 0
    -- The type is the only definition among its origins; the others are parameters.
    have own : ∀ {node : NodeId} {name' : String}, Origin.user node name' ∈
        Origin.user id name.content :: originsOf (typeParameterIntroductions id 0 (typeParameters.getD [])) →
        Origin.user node name' = .user id name.content := by
      intro node name' mem
      rcases List.mem_cons.mp mem with e | mem
      · exact e
      · obtain ⟨_, _, -, e⟩ := later _ mem
        cases e
    refine ⟨?_, ?_, ?_, ?_⟩ <;> rw [TypeDef.origins_region]
    · refine List.nodup_cons.mpr ⟨fun mem => ?_, nodup⟩
      obtain ⟨_, _, -, e⟩ := later _ mem
      cases e
    · intro origin mem
      rcases List.mem_cons.mp mem with rfl | mem
      · rfl
      · obtain ⟨_, _, -, rfl⟩ := later origin mem
        rfl
    · intro node name' mem
      cases own mem
      rfl
    · intro node first second mem mem'
      cases own mem
      cases own mem'
      rfl

end Analysis

section
variable {root : Block} (nodup : root.ids.Nodup)

include nodup

/-- The owners of regions are all different. -/
lemma Block.nodup_owners : ((root.regions false .empty).map fun region => region.place.owner).Nodup := by
  have owners := root.nodup_regions nodup false .empty fromRegions_owner
  rwa [← List.map_eq_flatMap] at owners

/-- What regions keep under their owners is found there. -/
lemma Block.lookup_view {α : Type} {view : Region → Option (NodeId × α)}
    (keys : ∀ region value, view region = some value → value.1 = region.place.owner) {region : Region}
    (mem : region ∈ root.regions false .empty) {node : NodeId} {value : α} (kept : view region = some (node, value)) :
    ((root.regions false .empty).filterMap view).lookup node = some value :=
  lookup_eq_some_of_mem (nodup_filterMap_fst keys (Block.nodup_owners nodup))
    (List.mem_filterMap.mpr ⟨region, mem, kept⟩)

/-- The declarations whose types are written are all different. -/
lemma Block.nodup_sites : (((root.regions false .empty).flatMap Region.sites).map Prod.fst).Nodup := by
  have writes := root.nodup_regions nodup false .empty fromRegions_writes
  rw [List.map_flatMap]
  simpa only [Region.sites, List.map_map, Function.comp_def] using writes

/-- The declared types are all different. -/
lemma Block.nodup_typeOrigins : root.typeOrigins.Nodup := by
  have regular := root.forall_regions onRegions_regular false .empty
  refine List.nodup_append.mpr ⟨by decide, List.nodup_flatMap.mpr ⟨fun region mem => (regular region mem).nodup,
    ?_⟩, ?_⟩
  · have owners := List.pairwise_map.mp (Block.nodup_owners nodup)
    refine owners.imp_of_mem fun {first second} left right apart => ?_
    intro origin mem mem'
    exact apart (Option.some.inj (((regular first left).node origin mem).symm.trans
      ((regular second right).node origin mem')))
  · intro origin mem other mem' e
    subst e
    obtain ⟨region, there, mem'⟩ := List.mem_flatMap.mp mem'
    have node := (regular region there).node origin mem'
    obtain ⟨entry, -, rfl⟩ := List.mem_map.mp mem
    cases node

end

namespace Analysis

/-- A registry that holds some declared types and nothing else. -/
lemma grown_of_entries {registry : TypeRegistry} (nodup : origins.Nodup)
    (builtins : builtinOrigins <+: origins)
    (entries : registry.entries.toList = origins.map Origin.info) : Grown origins registry := by
  have size : registry.size = origins.length := by
    simpa [TypeRegistry.size] using congrArg List.length entries
  have info (type : TypeId) : registry.info? type = origins[type.index]?.map Origin.info := by
    rw [TypeRegistry.info?, ← Array.getElem?_toList, entries, List.getElem?_map]
  refine ⟨nodup, builtins, size.ge, fun type origin found => ?_, fun type beyond known => ?_,
    fun first second element array => ?_⟩
  · rw [info, found, Option.map_some]
  · omega
  · rw [TypeRegistry.element?, TypeRegistry.kind?, info] at array
    cases e : origins[first.index]? with
    | none => rw [e] at array; cases array
    | some origin =>
      rw [e] at array
      cases origin <;> cases array

/-- After a program with different handles was declared in a fresh state, the registry holds its types. -/
lemma grown_of_declared {root : Block} {t : State} (nodup : root.ids.Nodup)
    (collects : Collects none .initial t (.ofRegions (root.regions false .empty))) :
    Grown root.typeOrigins t.types := by
  refine grown_of_entries (Block.nodup_typeOrigins nodup) (List.prefix_append _ _) ?_
  rw [collects.registers.types, Block.typeOrigins, List.map_append]
  rfl

/-! ## The table -/

/-- What is written in a region that is kept is known to the facts. -/
lemma sited_of_kept {root : Block} {table : ScopeTable} (nodup : root.ids.Nodup) {region : Region}
    (mem : region ∈ root.regions false .empty) {scope : ScopeId}
    (kept : Kept root.typeOrigins table region scope) {write : NodeId × TypeRef} (listed : write ∈ region.writes) :
    Sited (.of (root.regions false .empty)) root.typeOrigins table write.1 scope write.2 region.place.layer := by
  have found : ((root.regions false .empty).flatMap Region.sites).lookup write.1 =
      some ⟨region.place, write.2⟩ :=
    lookup_eq_some_of_mem (Block.nodup_sites nodup)
      (List.mem_flatMap.mpr ⟨region, mem, List.mem_map_of_mem listed⟩)
  refine ⟨kept.views, ?_, ?_⟩
  · show Option.bind _ _ = _
    rw [found]
    rfl
  · show Option.elim _ _ _ = _
    rw [found]
    rfl

/-- The table of a program that was declared in a fresh state is surveyed. -/
lemma surveyed_of_declared {root : Block} {t : State} (nodup : root.ids.Nodup)
    (collects : Collects none .initial t (.ofRegions (root.regions false .empty)))
    (kept : AllKept root.typeOrigins t.scopes (root.regions false .empty)) :
    Surveyed (.of (root.regions false .empty)) root.typeOrigins t.scopes := by
  have sited : ∀ region ∈ root.regions false .empty, ∀ node scope written,
      t.scopes.scopeOf? region.place.owner = some scope → (node, written) ∈ region.writes →
        ∃ layer, Sited (.of (root.regions false .empty)) root.typeOrigins t.scopes node scope written layer := by
    intro region mem node scope written closed listed
    obtain ⟨own, stays⟩ := kept region mem
    obtain rfl := Option.some.inj (stays.closed.symm.trans closed)
    exact ⟨region.place.layer, sited_of_kept nodup mem stays listed⟩
  -- A function that is found somewhere was introduced by the region that owns its scope.
  have signed : ∀ scope found key symbol, t.scopes.get? scope = some found →
      found.functionTable.lookup key = some symbol → ∃ region ∈ root.regions false .empty,
        t.scopes.scopeOf? region.place.owner = some symbol.scope ∧ region.Signs symbol := by
    intro scope found key symbol get looked
    rcases collects.hasFunction symbol ⟨scope, found, key, get, looked⟩ with ⟨_, _, _, nowhere, -⟩ | h | h
    · cases nowhere
    · cases h
    · exact h
  refine
    { members := fun node name mem => ?_
      variableSites := fun scope found key symbol get looked written mem => ?_
      functionSites := fun scope found key symbol get looked written mem => ?_
      parameterSites := fun scope found key symbol get looked parameter mem => ?_
      parameters := fun scope found key symbol get looked => ?_ }
  · rcases List.mem_append.mp mem with builtin | mem
    · obtain ⟨entry, -, e⟩ := List.mem_map.mp builtin
      cases e
    · obtain ⟨region, there, mem⟩ := List.mem_flatMap.mp mem
      have regular := root.forall_regions onRegions_regular false .empty region there
      obtain ⟨scope, closed, ⟨found, get, agrees⟩, -⟩ := kept region there
      obtain rfl := Option.some.inj (regular.node _ mem)
      exact ⟨scope, found, _, closed, get,
        Block.lookup_view nodup Region.owner_of_members there (regular.members _ name mem), agrees⟩
  · rcases collects.hasVariable symbol ⟨scope, found, key, get, looked⟩ with
      ⟨_, _, _, nowhere, -⟩ | ⟨nowhere, -⟩ | ⟨region, there, closed, listed⟩
    · cases nowhere
    · cases nowhere
    · exact sited region there _ _ _ closed (listed written mem)
  · obtain ⟨region, there, closed, signs⟩ := signed scope found key symbol get looked
    exact sited region there _ _ _ closed (signs.returns written mem)
  · obtain ⟨region, there, closed, signs⟩ := signed scope found key symbol get looked
    exact sited region there _ _ _ closed (signs.parameters parameter mem)
  · obtain ⟨region, there, -, signs⟩ := signed scope found key symbol get looked
    exact congrArg (Option.getD · []) (Block.lookup_view nodup Region.owner_of_signature there signs.signature)

end Analysis

end ArrowScript
