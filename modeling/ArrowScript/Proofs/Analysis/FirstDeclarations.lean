import ArrowScript.Proofs.Analysis.FillingInStatements
import ArrowScript.Proofs.Analysis.HindsightPrograms
import ArrowScript.Proofs.Analysis.Nesting
import Mathlib.Data.List.Dedup
import Mathlib.Data.List.Perm.Lattice

/-!
# First declarations

Names are introduced as something of a kind and under a key. Of all that a region introduces in one such slot its scope
holds the first, and each of the others is reported where it stands, with the place of the first (`repeated_perm`).
Functions and types that come later are not lost for this: they have regions of their own all the same, and every type
has a handle of its own (`Block.defining_regions`). This is what a fresh analysis makes of a program with names that are
introduced more than once (`first_declarations_win`).
-/

namespace ArrowScript
open Analysis Grammar

/-- A scope holds an introduced name: where it stands, and what it was introduced as. -/
def Scope.Holds (found : Scope) (handleOf : Origin → TypeId) (introduction : Introduction) : Prop :=
  match introduction.meaning with
  | .variable entry => ∃ symbol, found.variableTable.lookup introduction.key = some symbol ∧
      symbol.span = introduction.name ∧ symbol.entry = entry
  | .function entry => ∃ symbol, found.functionTable.lookup introduction.key = some symbol ∧
      symbol.span = introduction.name ∧ symbol.entry = entry
  | .type origin => found.typeTable.lookup introduction.key = some ⟨handleOf origin, introduction.name⟩

namespace Analysis

/-! ## Slots -/

namespace Introduction

/-- The declaration of an introduced type. -/
def origin? (introduction : Introduction) : Option Origin :=
  introduction.asType.map Prod.snd

/-- Whether a function, a type or a type parameter is introduced. -/
def defines (introduction : Introduction) : Bool :=
  introduction.what ≠ .variable

/-- The finding at a name that was introduced before. -/
def repeating (first : Span) (introduction : Introduction) : Finding SemanticProblem :=
  ⟨.alreadyDefined introduction.what introduction.name.content first, introduction.name⟩

/-- The diagnostic at a name that was introduced before. -/
def again (first introduction : Introduction) : Diagnostic where
  kind := .semantic
  message := "The " ++ introduction.what.word ++ " " ++ introduction.name.content ++ " is already defined at " ++
    first.name.locus ++ "."
  span := introduction.name

end Introduction

/-- What is introduced in a slot, in the order of the program. -/
def inSlot (slot : Declared × String) (introductions : List Introduction) : List Introduction :=
  introductions.filter (·.slot = slot)

/-- The diagnostics for what is introduced in one slot: one for each but the first. -/
def againAll : List Introduction → List Diagnostic
  | [] => []
  | first :: later => later.map first.again

variable {introductions : List Introduction} {introduction : Introduction} {slot : Declared × String}

/-- What is introduced in its own slot. -/
lemma inSlot_cons_self (introduction : Introduction) (rest : List Introduction) :
    inSlot introduction.slot (introduction :: rest) = introduction :: inSlot introduction.slot rest :=
  List.filter_cons_of_pos (decide_eq_true rfl)

/-- What is introduced in another slot. -/
lemma inSlot_cons_of_ne (ne : introduction.slot ≠ slot) (rest : List Introduction) :
    inSlot slot (introduction :: rest) = inSlot slot rest :=
  List.filter_cons_of_neg (by simp [ne])

/-- Names are known from the first introduction in their slot. -/
lemma notingAll_eq (introductions : List Introduction) (known : Declared → String → Option Span) (what : Declared)
    (key : String) : notingAll introductions known what key =
      (known what key).or ((inSlot (what, key) introductions).head?.map Introduction.name) := by
  induction introductions generalizing known with
  | nil => exact (Option.or_none).symm
  | cons introduction rest ih =>
    show notingAll rest (noting introduction known) what key = _
    rw [ih, noting, Option.or_assoc]
    by_cases same : introduction.slot = (what, key)
    · obtain ⟨rfl, rfl⟩ := Prod.mk.inj same
      rw [← same, inSlot_cons_self, if_pos ⟨rfl, rfl⟩]
      rfl
    · rw [inSlot_cons_of_ne same, if_neg fun both => same (Prod.ext both.1.symm both.2.symm), Option.none_or]

/-- When a view shows the introductions of one kind under their keys, the first in the slot of a key is looked up. -/
lemma lookup_filterMap {α : Type} {view : Introduction → Option (String × α)} {what : Declared}
    (shows : ∀ introduction, (view introduction).elim (introduction.what ≠ what) fun seen =>
      introduction.what = what ∧ seen.1 = introduction.key) (key : String) (introductions : List Introduction) :
    (introductions.filterMap view).lookup key =
      ((inSlot (what, key) introductions).head?.bind view).map Prod.snd := by
  induction introductions with
  | nil => rfl
  | cons introduction rest ih =>
    have shown := shows introduction
    cases seen : view introduction with
    | none =>
      rw [seen] at shown
      rw [List.filterMap_cons_none seen, inSlot_cons_of_ne fun e => shown (Prod.mk.inj e).1, ih]
    | some entry =>
      rw [seen] at shown
      obtain ⟨rfl, own⟩ := shown
      rw [List.filterMap_cons_some seen, List.lookup_cons, own]
      by_cases same : key = introduction.key
      · subst same
        rw [beq_self_eq_true, show (introduction.what, introduction.key) = introduction.slot from rfl,
          inSlot_cons_self, List.head?_cons, Option.bind_some, seen, Option.map_some]
      · rw [beq_false_of_ne same, ih, inSlot_cons_of_ne fun e => same (Prod.mk.inj e).2.symm]

/-- A variable of a layer is the first that is introduced. -/
lemma variableOf_of (introductions : List Introduction) (key : String) : (Layer.of introductions).variableOf key =
    ((inSlot (.variable, key) introductions).head?.bind Introduction.asVariable).map Prod.snd :=
  lookup_filterMap (by rintro ⟨_, _, _ | _ | _⟩ <;> simp [Introduction.asVariable, Introduction.what]) key introductions

/-- A function of a layer is the first that is introduced. -/
lemma functionOf_of (introductions : List Introduction) (key : String) : (Layer.of introductions).functionOf key =
    ((inSlot (.function, key) introductions).head?.bind Introduction.asFunction).map Prod.snd :=
  lookup_filterMap (by rintro ⟨_, _, _ | _ | _⟩ <;> simp [Introduction.asFunction, Introduction.what]) key introductions

/-- A type of a layer is the first that is introduced. -/
lemma originOf_of (introductions : List Introduction) (key : String) : (Layer.of introductions).originOf key =
    ((inSlot (.type, key) introductions).head?.bind Introduction.asType).map Prod.snd :=
  lookup_filterMap (by rintro ⟨_, _, _ | _ | _⟩ <;> simp [Introduction.asType, Introduction.what]) key introductions

/-! ## What scopes hold -/

/-- A scope holds what a region introduces first in each slot, and nothing else. -/
structure Region.HeldIn (region : Region) (handleOf : Origin → TypeId) (found : Scope) : Prop where
  first : ∀ slot first later, inSlot slot region.introductions = first :: later → found.Holds handleOf first
  nothing : ∀ what key, inSlot (what, key) region.introductions = [] → found.spans what key = none

/-- What is related to something is something. -/
lemma exists_of_rel {α β : Type} {r : α → β → Prop} {found? : Option α} {meaning? : Option β} {meaning : β}
    (related : Option.Rel r found? meaning?) (known : meaning? = some meaning) :
    ∃ found, found? = some found ∧ r found meaning := by
  cases related with
  | some same =>
    obtain rfl := Option.some.inj known
    exact ⟨_, rfl, same⟩
  | none => cases known

/-- A scope that agrees with what a region introduces, and in which names stand where the region has them. -/
lemma Region.HeldIn.of_agrees {region : Region} {origins : List Origin} {handleOf : Origin → TypeId} {found : Scope}
    (agrees : Agrees origins found (.of region.introductions))
    (spans : found.spans = notingAll region.introductions fun _ _ => none)
    (handles : ∀ (type : TypeId) origin, origins[type.index]? = some origin → handleOf origin = type) :
    region.HeldIn handleOf found where
  first := by
    rintro ⟨what, key⟩ ⟨name, own, meaning⟩ later listed
    have mem : ⟨name, own, meaning⟩ ∈ inSlot (what, key) region.introductions := listed ▸ List.mem_cons_self
    obtain ⟨kind, rfl⟩ := Prod.mk.inj (of_decide_eq_true (List.mem_filter.mp mem).2)
    have place : found.spans what own = some name := by
      rw [spans, notingAll_eq, listed]
      rfl
    cases meaning with
    | «variable» entry =>
      obtain rfl : Declared.variable = what := kind
      obtain ⟨symbol, looked, same⟩ := exists_of_rel (agrees.variableOf own) (by rw [variableOf_of, listed]; rfl)
      rw [Scope.spans, looked] at place
      exact ⟨symbol, looked, Option.some.inj place, same⟩
    | function entry =>
      obtain rfl : Declared.function = what := kind
      obtain ⟨symbol, looked, same⟩ := exists_of_rel (agrees.functionOf own) (by rw [functionOf_of, listed]; rfl)
      rw [Scope.spans, looked] at place
      exact ⟨symbol, looked, Option.some.inj place, same⟩
    | type origin =>
      obtain rfl : Declared.type = what := kind
      obtain ⟨⟨type, span⟩, looked, named⟩ := exists_of_rel (agrees.originOf own) (by rw [originOf_of, listed]; rfl)
      rw [Scope.spans, looked] at place
      obtain rfl : span = name := Option.some.inj place
      rw [← handles type _ named] at looked
      exact looked
  nothing := fun what key listed => by
    rw [spans, notingAll_eq, listed]
    rfl

/-! ## Repeated names -/

/-- The findings for what is introduced in one slot, when a name may be known there before. -/
def repeatingAll : Option Span → List Introduction → List (Finding SemanticProblem)
  | some first, list => list.map (Introduction.repeating first)
  | none, [] => []
  | none, first :: later => later.map (Introduction.repeating first.name)

/-- Nothing is introduced in a slot. -/
lemma repeatingAll_nil (before : Option Span) : repeatingAll before [] = [] := by
  cases before <;> rfl

/-- One more name is introduced in a slot, and known there from then on. -/
lemma repeatingAll_cons (before : Option Span) (introduction : Introduction) (rest : List Introduction) :
    repeatingAll before (introduction :: rest) = (before.map (Introduction.repeating · introduction)).toList ++
      repeatingAll (before.or (some introduction.name)) rest := by
  cases before <;> rfl

/-- The findings for what is introduced in one slot are put into words. -/
lemma map_repeatingAll (types : TypeRegistry) (list : List Introduction) :
    (repeatingAll none list).map (SemanticProblem.diagnostic types) = againAll list := by
  cases list with
  | nil => rfl
  | cons first later =>
    show (later.map (Introduction.repeating first.name)).map _ = later.map first.again
    rw [List.map_map]
    rfl

/-- What is listed for one of several things only. -/
lemma flatMap_single {α β : Type} [DecidableEq α] {list : List α} {one : α} (nodup : list.Nodup) (mem : one ∈ list)
    (part : List β) : (list.flatMap fun other => if other = one then part else []) = part := by
  induction list with
  | nil => cases mem
  | cons other rest ih =>
    obtain ⟨absent, nodup⟩ := List.nodup_cons.mp nodup
    rw [List.flatMap_cons]
    by_cases same : other = one
    · subst same
      have none : (rest.flatMap fun next => if next = other then part else []) = [] :=
        List.flatMap_eq_nil_iff.mpr fun next there => if_neg fun e : next = other => absent (e ▸ there)
      rw [if_pos rfl, none, List.append_nil]
    · rw [if_neg same, List.nil_append, ih nodup (List.mem_of_ne_of_mem (Ne.symm same) mem)]

/-- The names that are introduced a second time, slot by slot. -/
lemma repeated_perm (introductions : List Introduction) (known : Declared → String → Option Span) :
    (repeated known introductions).Perm ((introductions.map Introduction.slot).dedup.flatMap fun slot =>
      repeatingAll (known slot.1 slot.2) (inSlot slot introductions)) := by
  induction introductions generalizing known with
  | nil => exact .refl _
  | cons introduction rest ih =>
    let own := ((known introduction.what introduction.key).map (Introduction.repeating · introduction)).toList
    let others := fun slot => repeatingAll (noting introduction known slot.1 slot.2) (inSlot slot rest)
    -- The first name is reported in its own slot, and from then on it is known there.
    have split : ∀ slot, repeatingAll (known slot.1 slot.2) (inSlot slot (introduction :: rest)) =
        (if slot = introduction.slot then own else []) ++ others slot := by
      rintro ⟨what, key⟩
      show _ = _ ++ repeatingAll (noting introduction known what key) _
      rw [noting]
      by_cases same : introduction.slot = (what, key)
      · obtain ⟨rfl, rfl⟩ := Prod.mk.inj same
        rw [← same, inSlot_cons_self, repeatingAll_cons, if_pos rfl, if_pos ⟨rfl, rfl⟩]
        rfl
      · rw [inSlot_cons_of_ne same, if_neg (Ne.symm same), List.nil_append,
          if_neg fun both => same (Prod.ext both.1.symm both.2.symm), Option.or_none]
    have tail : (((introduction :: rest).map Introduction.slot).dedup.flatMap others).Perm
        ((rest.map Introduction.slot).dedup.flatMap others) := by
      rw [List.map_cons]
      by_cases mem : introduction.slot ∈ rest.map Introduction.slot
      · rw [List.dedup_cons_of_mem mem]
      · have none : inSlot introduction.slot rest = [] :=
          List.filter_eq_nil_iff.mpr fun other there same =>
            mem (List.mem_map.mpr ⟨other, there, of_decide_eq_true same⟩)
        rw [List.dedup_cons_of_notMem mem, List.flatMap_cons, show others introduction.slot = [] by
          show repeatingAll _ _ = []
          rw [none, repeatingAll_nil], List.nil_append]
    have head : (((introduction :: rest).map Introduction.slot).dedup.flatMap fun slot =>
        if slot = introduction.slot then own else []) = own :=
      flatMap_single (List.nodup_dedup _) (List.mem_dedup.mpr (List.mem_map_of_mem List.mem_cons_self)) own
    rw [repeated, List.flatMap_congr fun slot _ => split slot]
    refine List.Perm.trans ?_ (List.flatMap_append_perm _ _ _)
    rw [head]
    exact ((ih _).trans tail.symm).append_left own

namespace Region

/-- What a region introduces apart from variables. -/
def defining (region : Region) : List Introduction :=
  region.introductions.filter Introduction.defines

/-- The function or type that a region belongs to, as it is introduced, and its type parameters. -/
def defined (region : Region) : List Introduction :=
  match region.definition with
  | none => []
  | some (.inl definition) =>
    definition.introduction :: typeParameterIntroductions definition.id 0 (definition.typeParameters.getD [])
  | some (.inr definition) =>
    definition.introduction :: typeParameterIntroductions definition.id 0 (definition.typeParameters.getD [])

/-- The type that a region belongs to. -/
def typeDef? (region : Region) : Option TypeDef :=
  match region.definition with
  | some (.inr definition) => some definition
  | some (.inl _) | none => none

/-- The diagnostics for the names that are introduced in a region, slot by slot. -/
def repeats (region : Region) : List Diagnostic :=
  (region.introductions.map Introduction.slot).dedup.flatMap fun slot => againAll (inSlot slot region.introductions)

end Region

end Analysis

/-! ## Owners -/

mutual

/-- The regions in a block are those of the owners of scopes in it. -/
lemma Block.owners_regions : ∀ (block : Block) (nested : Bool) (around : Layer) (outer : NodeId),
    (block.regions nested around).map (·.place.owner) = (block.enclosed nested outer).map Prod.fst
  | ⟨id, _, statements, _⟩, nested, around, outer => by
    rw [Block.regions, Block.enclosed, List.map_cons, List.map_cons, owners_statementRegions statements nested _ id]
    rfl

lemma owners_statementRegions : ∀ (statements : List Statement) (nested : Bool) (around : Layer) (outer : NodeId),
    (statementRegions nested around statements).map (·.place.owner) =
      (statementsEnclosed nested outer statements).map Prod.fst
  | [], nested, around, outer => by
    rw [statementRegions, statementsEnclosed]
    rfl
  | statement :: rest, nested, around, outer => by
    rw [statementRegions, statementsEnclosed, List.map_append, List.map_append,
      Statement.owners_regions statement nested around outer, owners_statementRegions rest nested around outer]

lemma Statement.owners_regions : ∀ (statement : Statement) (nested : Bool) (around : Layer) (outer : NodeId),
    (statement.regions nested around).map (·.place.owner) = (statement.enclosed nested outer).map Prod.fst
  | .type definition, nested, around, outer => by
    rw [Statement.regions, Statement.enclosed]
    cases nested with
    | true => rfl
    | false => exact TypeDef.owners_regions definition around outer
  | .function definition, nested, around, outer => by
    rw [Statement.regions, Statement.enclosed]
    cases nested with
    | true => rfl
    | false => exact FunctionDef.owners_regions definition around outer
  | .whileLoop _ _ body, nested, around, outer => by
    rw [Statement.regions, Statement.enclosed, Block.owners_regions body nested around outer]
  | .conditional conditional, nested, around, outer => by
    rw [Statement.regions, Statement.enclosed, Conditional.owners_regions conditional nested around outer]
  | .variable _, nested, around, outer | .returning .., nested, around, outer | .breaking _, nested, around, outer
  | .continuing _, nested, around, outer | .importing .., nested, around, outer | .path .., nested, around, outer
  | .expression _, nested, around, outer => by
    rw [Statement.regions, Statement.enclosed]
    rfl

lemma Conditional.owners_regions : ∀ (conditional : Conditional) (nested : Bool) (around : Layer) (outer : NodeId),
    (conditional.regions nested around).map (·.place.owner) = (conditional.enclosed nested outer).map Prod.fst
  | ⟨_, body, otherwise, _⟩, nested, around, outer => by
    rw [Conditional.regions, Conditional.enclosed, List.map_append, List.map_append,
      Block.owners_regions body nested around outer, Otherwise.owners_regions otherwise nested around outer]

lemma Otherwise.owners_regions : ∀ (otherwise : Otherwise) (nested : Bool) (around : Layer) (outer : NodeId),
    (otherwise.regions nested around).map (·.place.owner) = (otherwise.enclosed nested outer).map Prod.fst
  | .nothing, nested, around, outer => by
    rw [Otherwise.regions, Otherwise.enclosed]
    rfl
  | .conditional conditional, nested, around, outer => by
    rw [Otherwise.regions, Otherwise.enclosed, Conditional.owners_regions conditional nested around outer]
  | .block block, nested, around, outer => by
    rw [Otherwise.regions, Otherwise.enclosed, Block.owners_regions block nested around outer]

lemma FunctionDef.owners_regions : ∀ (definition : FunctionDef) (around : Layer) (outer : NodeId),
    (definition.regions around).map (·.place.owner) = (definition.enclosed outer).map Prod.fst
  | ⟨id, _, _, _, _, body, _⟩, around, outer => by
    rw [FunctionDef.regions, FunctionDef.enclosed, List.map_cons, List.map_cons, Block.owners_regions body true _ id]
    rfl

lemma owners_functionRegions : ∀ (definitions : List FunctionDef) (around : Layer) (outer : NodeId),
    (functionRegions around definitions).map (·.place.owner) = (functionsEnclosed outer definitions).map Prod.fst
  | [], around, outer => by
    rw [functionRegions, functionsEnclosed]
    rfl
  | definition :: rest, around, outer => by
    rw [functionRegions, functionsEnclosed, List.map_append, List.map_append,
      FunctionDef.owners_regions definition around outer, owners_functionRegions rest around outer]

lemma TypeDef.owners_regions : ∀ (definition : TypeDef) (around : Layer) (outer : NodeId),
    (definition.regions around).map (·.place.owner) = (definition.enclosed outer).map Prod.fst
  | ⟨id, _, _, _, methods, _, _⟩, around, outer => by
    rw [TypeDef.regions, TypeDef.enclosed, List.map_cons, List.map_cons, owners_functionRegions methods _ id]
    rfl

end

/-! ## Definitions -/

/-- Type parameters are no variables. -/
lemma defining_typeParameters (owner : NodeId) (names : List Span) (position : Nat) :
    (typeParameterIntroductions owner position names).filter Introduction.defines =
      typeParameterIntroductions owner position names := by
  induction names generalizing position with
  | nil => rfl
  | cons name rest ih => exact congrArg (_ :: ·) (ih (position + 1))

/-- Fields and parameters are variables. -/
lemma defining_variables {α : Type} {introduction : α → Introduction}
    (names : ∀ one, (introduction one).what = .variable) (list : List α) :
    (list.map introduction).filter Introduction.defines = [] := by
  refine List.filter_eq_nil_iff.mpr (List.forall_mem_map.mpr fun one _ => ?_)
  simp [Introduction.defines, names]

mutual

/-- The functions, types and type parameters that the regions in a block introduce are those that the regions belong
to, each as often as it is introduced. -/
lemma Block.defining_regions : ∀ (block : Block) (nested : Bool) (around : Layer),
    (↑((block.regions nested around).flatMap Region.defining) : Multiset Introduction) =
      ↑((block.regions nested around).flatMap Region.defined)
  | ⟨id, kind, statements, span⟩, nested, around => by
    rw [Block.regions, List.flatMap_cons, List.flatMap_cons, ← Multiset.coe_add]
    exact defining_statementRegions statements nested _

lemma defining_statementRegions : ∀ (statements : List Statement) (nested : Bool) (around : Layer),
    (↑((statements.flatMap (Statement.introductions nested)).filter Introduction.defines) +
      ↑((statementRegions nested around statements).flatMap Region.defining) : Multiset Introduction) =
        ↑((statementRegions nested around statements).flatMap Region.defined)
  | [], nested, around => by
    rw [statementRegions]
    rfl
  | statement :: rest, nested, around => by
    rw [statementRegions, List.flatMap_cons, List.filter_append, List.flatMap_append, List.flatMap_append,
      ← Multiset.coe_add, ← Multiset.coe_add, ← Multiset.coe_add, add_add_add_comm,
      Statement.defining_regions statement nested around, defining_statementRegions rest nested around]

lemma Statement.defining_regions : ∀ (statement : Statement) (nested : Bool) (around : Layer),
    (↑((statement.introductions nested).filter Introduction.defines) +
      ↑((statement.regions nested around).flatMap Region.defining) : Multiset Introduction) =
        ↑((statement.regions nested around).flatMap Region.defined)
  | .type definition, nested, around => by
    rw [Statement.introductions, Statement.regions]
    cases nested with
    | true => rfl
    | false => exact TypeDef.defining_regions definition around
  | .function definition, nested, around => by
    rw [Statement.introductions, Statement.regions]
    cases nested with
    | true => rfl
    | false => exact FunctionDef.defining_regions definition around
  | .whileLoop _ _ body, nested, around => by
    rw [Statement.regions]
    exact (zero_add _).trans (Block.defining_regions body nested around)
  | .conditional conditional, nested, around => by
    rw [Statement.regions]
    exact (zero_add _).trans (Conditional.defining_regions conditional nested around)
  | .variable _, nested, around | .returning .., nested, around | .breaking _, nested, around
  | .continuing _, nested, around | .importing .., nested, around | .path .., nested, around
  | .expression _, nested, around => by
    rw [Statement.regions]
    rfl

lemma Conditional.defining_regions : ∀ (conditional : Conditional) (nested : Bool) (around : Layer),
    (↑((conditional.regions nested around).flatMap Region.defining) : Multiset Introduction) =
      ↑((conditional.regions nested around).flatMap Region.defined)
  | ⟨_, body, otherwise, _⟩, nested, around => by
    rw [Conditional.regions, List.flatMap_append, List.flatMap_append, ← Multiset.coe_add, ← Multiset.coe_add,
      Block.defining_regions body nested around, Otherwise.defining_regions otherwise nested around]

lemma Otherwise.defining_regions : ∀ (otherwise : Otherwise) (nested : Bool) (around : Layer),
    (↑((otherwise.regions nested around).flatMap Region.defining) : Multiset Introduction) =
      ↑((otherwise.regions nested around).flatMap Region.defined)
  | .nothing, nested, around => by
    rw [Otherwise.regions]
    rfl
  | .conditional conditional, nested, around => by
    rw [Otherwise.regions, Conditional.defining_regions conditional nested around]
  | .block block, nested, around => by
    rw [Otherwise.regions, Block.defining_regions block nested around]

lemma FunctionDef.defining_regions : ∀ (definition : FunctionDef) (around : Layer),
    (↑([definition.introduction].filter Introduction.defines) +
      ↑((definition.regions around).flatMap Region.defining) : Multiset Introduction) =
        ↑((definition.regions around).flatMap Region.defined)
  | ⟨id, name, typeParameters, parameters, returns, body, keyword⟩, around => by
    -- The definition and its type parameters are those of its own region, the others come from the body.
    have own : (FunctionDef.region around ⟨id, name, typeParameters, parameters, returns, body, keyword⟩).defining =
        typeParameterIntroductions id 0 (typeParameters.getD []) := by
      show (typeParameterIntroductions id 0 (typeParameters.getD []) ++ parameters.map _).filter _ = _
      rw [List.filter_append, defining_typeParameters, defining_variables fun _ => rfl, List.append_nil]
    rw [FunctionDef.regions, List.flatMap_cons, List.flatMap_cons, own, ← Multiset.coe_add, ← Multiset.coe_add,
      Block.defining_regions body true _, ← add_assoc]
    rfl

lemma defining_functionRegions : ∀ (definitions : List FunctionDef) (around : Layer),
    (↑((definitions.map FunctionDef.introduction).filter Introduction.defines) +
      ↑((functionRegions around definitions).flatMap Region.defining) : Multiset Introduction) =
        ↑((functionRegions around definitions).flatMap Region.defined)
  | [], around => by
    rw [functionRegions]
    rfl
  | definition :: rest, around => by
    rw [functionRegions, List.map_cons, ← List.singleton_append, List.filter_append, List.flatMap_append,
      List.flatMap_append, ← Multiset.coe_add, ← Multiset.coe_add, ← Multiset.coe_add, add_add_add_comm,
      FunctionDef.defining_regions definition around, defining_functionRegions rest around]

lemma TypeDef.defining_regions : ∀ (definition : TypeDef) (around : Layer),
    (↑([definition.introduction].filter Introduction.defines) +
      ↑((definition.regions around).flatMap Region.defining) : Multiset Introduction) =
        ↑((definition.regions around).flatMap Region.defined)
  | ⟨id, name, typeParameters, fields, methods, keyword, binding⟩, around => by
    -- The methods are introduced in the region of the type and have regions behind it.
    have own : (TypeDef.region around ⟨id, name, typeParameters, fields, methods, keyword, binding⟩).defining =
        typeParameterIntroductions id 0 (typeParameters.getD []) ++
          (methods.map FunctionDef.introduction).filter Introduction.defines := by
      show (typeParameterIntroductions id 0 (typeParameters.getD []) ++ (fields.map _ ++ _)).filter _ = _
      rw [List.filter_append, List.filter_append, defining_typeParameters, defining_variables fun _ => rfl,
        List.nil_append]
    rw [TypeDef.regions, List.flatMap_cons, List.flatMap_cons, own, ← Multiset.coe_add, ← Multiset.coe_add,
      ← Multiset.coe_add, add_assoc, defining_functionRegions methods _, ← add_assoc]
    rfl

end

/-! ## Types in the tree -/

namespace Analysis.Region

/-- The node of the type that a region belongs to, and what the type is bound to. -/
def typeBinding? (region : Region) : Option (NodeId × Option TypeId) :=
  region.typeDef?.map fun definition => (definition.id, definition.binding)

/-- The node of the type that a region belongs to, and the handle of the type. -/
def typeHandle? (handleOf : Origin → TypeId) (region : Region) : Option (NodeId × Option TypeId) :=
  region.typeDef?.map fun definition =>
    (definition.id, some (handleOf (.user definition.id definition.name.content)))

end Analysis.Region

mutual

/-- In the account of a block every type is bound to its own handle. -/
lemma Block.bindings_visited : ∀ (x : Block) (setting : Setting) (inner outer : Layer),
    ((x.visited setting).node.regions setting.nested inner).filterMap Region.typeBinding? =
      (x.regions setting.nested outer).filterMap (Region.typeHandle? fun origin => setting.code ⟨origin, 0⟩)
  | ⟨id, kind, statements, span⟩, setting, inner, outer => by
    rw [Block.visited, Block.regions, Block.regions]
    exact bindings_statementsVisited statements (setting.inside (statementLayer setting.nested statements)) _ _

lemma bindings_statementsVisited : ∀ (x : List Statement) (setting : Setting) (inner outer : Layer),
    (statementRegions setting.nested inner (statementsVisited setting x).node).filterMap Region.typeBinding? =
      (statementRegions setting.nested outer x).filterMap
        (Region.typeHandle? fun origin => setting.code ⟨origin, 0⟩)
  | [], setting, inner, outer => by
    rw [statementsVisited, statementRegions, statementRegions]
    rfl
  | statement :: rest, setting, inner, outer => by
    rw [statementsVisited, statementRegions, statementRegions, List.filterMap_append, List.filterMap_append,
      ← Statement.bindings_visited statement setting inner outer]
    exact congrArg _ (bindings_statementsVisited rest (setting.after (statement.visited setting).inferred) inner outer)

lemma Statement.bindings_visited : ∀ (x : Statement) (setting : Setting) (inner outer : Layer),
    ((x.visited setting).node.regions setting.nested inner).filterMap Region.typeBinding? =
      (x.regions setting.nested outer).filterMap (Region.typeHandle? fun origin => setting.code ⟨origin, 0⟩)
  | .type definition, setting, inner, outer => by
    rw [Statement.visited, Statement.regions]
    split
    · next nested =>
      rw [Statement.regions, if_pos nested]
      rfl
    · next outside =>
      rw [Statement.regions, if_neg outside]
      exact definition.bindings_visited setting inner outer
  | .function definition, setting, inner, outer => by
    rw [Statement.visited, Statement.regions]
    split
    · next nested =>
      rw [Statement.regions, if_pos nested]
      rfl
    · next outside =>
      rw [Statement.regions, if_neg outside]
      exact definition.bindings_visited setting inner outer
  | .whileLoop keyword condition body, setting, inner, outer => by
    rw [Statement.visited, Statement.regions, Statement.regions]
    exact body.bindings_visited setting inner outer
  | .conditional conditional, setting, inner, outer => by
    rw [Statement.visited, Statement.regions, Statement.regions]
    exact conditional.bindings_visited setting inner outer
  | .variable _, setting, inner, outer | .returning .., setting, inner, outer | .breaking _, setting, inner, outer
  | .continuing _, setting, inner, outer | .importing .., setting, inner, outer | .path .., setting, inner, outer
  | .expression _, setting, inner, outer => by
    rw [Statement.visited, Statement.regions, Statement.regions]
    rfl

lemma Conditional.bindings_visited : ∀ (x : Conditional) (setting : Setting) (inner outer : Layer),
    ((x.visited setting).node.regions setting.nested inner).filterMap Region.typeBinding? =
      (x.regions setting.nested outer).filterMap (Region.typeHandle? fun origin => setting.code ⟨origin, 0⟩)
  | ⟨condition, body, otherwise, keyword⟩, setting, inner, outer => by
    rw [Conditional.visited, Conditional.regions, Conditional.regions, List.filterMap_append, List.filterMap_append,
      ← body.bindings_visited setting inner outer]
    exact congrArg _ (otherwise.bindings_visited (setting.after (body.visited setting).inferred) inner outer)

lemma Otherwise.bindings_visited : ∀ (x : Otherwise) (setting : Setting) (inner outer : Layer),
    ((x.visited setting).node.regions setting.nested inner).filterMap Region.typeBinding? =
      (x.regions setting.nested outer).filterMap (Region.typeHandle? fun origin => setting.code ⟨origin, 0⟩)
  | .nothing, setting, inner, outer => by
    rw [Otherwise.visited, Otherwise.regions, Otherwise.regions]
    rfl
  | .conditional conditional, setting, inner, outer => by
    rw [Otherwise.visited, Otherwise.regions, Otherwise.regions]
    exact conditional.bindings_visited setting inner outer
  | .block block, setting, inner, outer => by
    rw [Otherwise.visited, Otherwise.regions, Otherwise.regions]
    exact block.bindings_visited setting inner outer

lemma FunctionDef.bindings_visited : ∀ (x : FunctionDef) (setting : Setting) (inner outer : Layer),
    ((x.visited setting).node.regions inner).filterMap Region.typeBinding? =
      (x.regions outer).filterMap (Region.typeHandle? fun origin => setting.code ⟨origin, 0⟩)
  | ⟨id, name, typeParameters, parameters, returns, body, keyword⟩, setting, inner, outer => by
    let definition : FunctionDef := ⟨id, name, typeParameters, parameters, returns, body, keyword⟩
    let inside := setting.inside definition.layer
    rw [FunctionDef.visited, FunctionDef.regions, FunctionDef.regions]
    exact body.bindings_visited (inside.body (definition.returned inside.around)) _ _

lemma bindings_functionsVisited : ∀ (x : List FunctionDef) (setting : Setting) (inner outer : Layer),
    (functionRegions inner (functionsVisited setting x).node).filterMap Region.typeBinding? =
      (functionRegions outer x).filterMap (Region.typeHandle? fun origin => setting.code ⟨origin, 0⟩)
  | [], setting, inner, outer => by
    rw [functionsVisited, functionRegions, functionRegions]
    rfl
  | definition :: rest, setting, inner, outer => by
    rw [functionsVisited, functionRegions, functionRegions, List.filterMap_append, List.filterMap_append,
      ← FunctionDef.bindings_visited definition setting inner outer]
    exact congrArg _ (bindings_functionsVisited rest (setting.after (definition.visited setting).inferred) inner outer)

lemma TypeDef.bindings_visited : ∀ (x : TypeDef) (setting : Setting) (inner outer : Layer),
    ((x.visited setting).node.regions inner).filterMap Region.typeBinding? =
      (x.regions outer).filterMap (Region.typeHandle? fun origin => setting.code ⟨origin, 0⟩)
  | ⟨id, name, typeParameters, fields, methods, keyword, binding⟩, setting, inner, outer => by
    let definition : TypeDef := ⟨id, name, typeParameters, fields, methods, keyword, binding⟩
    let inside := setting.inside definition.layer
    rw [TypeDef.visited, TypeDef.regions, TypeDef.regions]
    exact congrArg (_ :: ·) (bindings_functionsVisited methods
      (inside.after (declarationsVisited inside fields).inferred) _ _)

end

/-! ## Programs -/

/-- The handle of a declared type. Types are numbered in the order in which the regions have them. -/
def Block.handleOf (root : Block) (origin : Origin) : TypeId :=
  ⟨root.typeOrigins.idxOf origin⟩

namespace Analysis

/-- Of several declarations in one slot the first counts, and all others are reported. -/
structure Analyzed.FirstWins (program : Program) (analyzed : Analyzed) : Prop where
  /-- The regions are those of the owners of scopes, each with what is declared directly there. -/
  owners : (program.root.regions false .empty).map (·.place.owner) = program.root.scopeOwners
  /-- Their scopes hold what is introduced first. -/
  held : ∀ region ∈ program.root.regions false .empty, ∃ scope found,
    analyzed.state.scopes.scopeOf? region.place.owner = some scope ∧ analyzed.state.scopes.get? scope = some found ∧
      region.HeldIn program.root.handleOf found
  /-- All but the first are reported, and nothing else is reported as defined already. -/
  reported : ((analyzed.findings.filter (·.problem.isRepeated)).map
    (SemanticProblem.diagnostic analyzed.state.types)).Perm
      ((program.root.regions false .empty).flatMap Region.repeats)
  /-- All functions and types that are declared have a region of their own, not just the first ones. -/
  collected : ((program.root.regions false .empty).flatMap Region.defining).Perm
    ((program.root.regions false .empty).flatMap Region.defined)
  /-- Every type that is declared has a handle of its own, which the tree tells, too. -/
  handles : (((program.root.regions false .empty).flatMap fun region =>
    region.introductions.filterMap Introduction.origin?).map program.root.handleOf).Nodup
  registered : ∀ region ∈ program.root.regions false .empty, ∀ introduction ∈ region.introductions,
    ∀ origin ∈ introduction.origin?, analyzed.state.types.info? (program.root.handleOf origin) = some origin.info
  bound : (analyzed.program.root.regions false .empty).filterMap Region.typeBinding? =
    (program.root.regions false .empty).filterMap (Region.typeHandle? program.root.handleOf)
  /-- All declarations are visited where they stand, with what is written in them. -/
  ascribed : ∀ region ∈ program.root.regions false .empty, ∀ introduction ∈ region.introductions,
    introduction.AscribedIn analyzed.ascriptions
  resolved : ∀ ascription ∈ analyzed.ascriptions, ∀ written ∈ ascription.written, ∃ scope,
    analyzed.state.scopes.scopeOf? ascription.owner = some scope ∧ written.Resolved analyzed.state scope
  settled : ∀ encounter ∈ analyzed.encounters, encounter.Settled

/-- Definitions inside functions are not reported as defined already. -/
lemma onRegions_forbidden : OnRegions fun region => ∀ finding ∈ region.forbidden,
    finding.problem.isRepeated = false where
  block := by
    rintro nested around ⟨id, kind, statements, span⟩ finding mem
    obtain ⟨statement, -, mem⟩ := List.mem_flatMap.mp mem
    cases statement <;> cases nested <;> cases mem <;> first | rfl | contradiction
  function := fun _ _ => nofun
  type := fun _ _ => nofun

/-- The types that are introduced with a definition are those that are registered for its region. -/
lemma onRegions_defined : OnRegions fun region => region.defined.filterMap Introduction.origin? = region.origins where
  block := by
    rintro nested around ⟨id, kind, statements, span⟩
    rfl
  function := by
    rintro around ⟨id, name, typeParameters, parameters, returns, body, keyword⟩
    rw [FunctionDef.origins_region, List.map_filterMap]
    rfl
  type := by
    rintro around ⟨id, name, typeParameters, fields, methods, keyword, binding⟩
    rw [TypeDef.origins_region, List.map_filterMap]
    rfl

/-- Names that are introduced a second time are reported as such. -/
lemma isRepeated_of_mem_repeated {introductions : List Introduction} {known : Declared → String → Option Span} :
    ∀ finding ∈ repeated known introductions, finding.problem.isRepeated = true := by
  induction introductions generalizing known with
  | nil => exact nofun
  | cons introduction rest ih =>
    refine List.forall_mem_append.mpr ⟨fun finding mem => ?_, ih⟩
    obtain ⟨first, -, rfl⟩ := Option.map_eq_some_iff.mp (Option.mem_toList.mp mem)
    rfl

/-- Of the problems of a region those that a name is introduced again are the repeated names. -/
lemma filter_problems {region : Region}
    (forbidden : ∀ finding ∈ region.forbidden, finding.problem.isRepeated = false) :
    region.problems.filter (·.problem.isRepeated) = repeated (fun _ _ => none) region.introductions := by
  rw [Region.problems, List.filter_append, List.filter_eq_self.mpr isRepeated_of_mem_repeated,
    List.filter_eq_nil_iff.mpr fun finding mem => by simp [forbidden finding mem], List.append_nil]

/-- A block reports the names that are introduced a second time in its regions, and no others. -/
lemma runBlock_repeats (root : Block) : Yields (runBlock root) .initial fun _ t =>
    (t.findings.toList.filter (·.problem.isRepeated)).Perm
      ((root.regions false .empty).flatMap fun region => repeated (fun _ _ => none) region.introductions) := by
  have collects : Yields (declareBlock root) .initial fun _ u =>
      Collects none .initial u (.ofRegions (root.regions false .empty)) :=
    declareBlock_collects root .empty rfl rfl
  refine .bind (.adapt (collects.mono fun _ u collected => ?_))
  intro filled t ran
  have visited := visitBlock_fills false root (fun e => nomatch e) u (Noted.start u)
  rw [ran] at visited
  obtain ⟨added, same, others⟩ := visited.2.findings
  have declared : u.findings.toList.Perm ((root.regions false .empty).flatMap Region.problems) :=
    Multiset.coe_eq_coe.mp collected.found_ofRegions
  -- What is found by visiting is something else.
  have quiet : added.filter (·.problem.isRepeated) = [] :=
    List.filter_eq_nil_iff.mpr fun finding mem => by simp [others finding mem]
  rw [same, List.filter_append, quiet, List.append_nil]
  refine (declared.filter _).trans (.of_eq ?_)
  rw [List.filter_flatMap]
  exact List.flatMap_congr fun region mem =>
    filter_problems (root.forall_regions onRegions_forbidden false .empty region mem)

/-- Names that are introduced again are reported slot by slot, in words. -/
lemma Region.repeats_perm (region : Region) (types : TypeRegistry) :
    ((repeated (fun _ _ => none) region.introductions).map (SemanticProblem.diagnostic types)).Perm
      region.repeats := by
  refine ((repeated_perm region.introductions fun _ _ => none).map _).trans (.of_eq ?_)
  rw [List.map_flatMap]
  exact List.flatMap_congr fun slot _ => map_repeatingAll types _

/-- The types that are introduced anywhere are those that are registered for the regions. -/
lemma introduced_types_perm (root : Block) :
    ((root.regions false .empty).flatMap fun region => region.introductions.filterMap Introduction.origin?).Perm
      ((root.regions false .empty).flatMap Region.origins) := by
  have defining : ∀ introductions : List Introduction, introductions.filterMap Introduction.origin? =
      (introductions.filter Introduction.defines).filterMap Introduction.origin? := by
    intro introductions
    rw [List.filterMap_filter]
    refine List.filterMap_congr fun introduction _ => ?_
    obtain ⟨_, _, _ | _ | _⟩ := introduction <;> rfl
  have perm := (Multiset.coe_eq_coe.mp (root.defining_regions false .empty)).filterMap Introduction.origin?
  rw [List.filterMap_flatMap, List.filterMap_flatMap] at perm
  refine (List.Perm.of_eq (List.flatMap_congr fun region _ => defining _)).trans (perm.trans (.of_eq ?_))
  exact List.flatMap_congr fun region mem => root.forall_regions onRegions_defined false .empty region mem

/-- A fresh analysis of a program ends with the first declarations in the scopes and reports for all others. -/
lemma Analyzed.Ends.firstWins {program : Program} {analyzed : Analyzed} (ends : analyzed.Ends program)
    (blank : program.root.Blank) (nodup : program.root.ids.Nodup) (brackets : program.root.Bracketed)
    (repeats : (analyzed.findings.filter (·.problem.isRepeated)).Perm
      ((program.root.regions false .empty).flatMap fun region => repeated (fun _ _ => none) region.introductions)) :
    analyzed.FirstWins program := by
  obtain ⟨code, coded⟩ := exists_coded ends.accounted.grown
  have different := Block.nodup_typeOrigins nodup
  have introduced := introduced_types_perm program.root
  -- Handles and the declarations that they are for are found from each other.
  have handles : ∀ (type : TypeId) origin, program.root.typeOrigins[type.index]? = some origin →
      program.root.handleOf origin = type := by
    intro type origin listed
    obtain ⟨below, rfl⟩ := List.getElem?_eq_some_iff.mp listed
    exact congrArg TypeId.mk (different.idxOf_getElem _ below)
  have listed : ∀ origin ∈ program.root.typeOrigins,
      program.root.typeOrigins[(program.root.handleOf origin).index]? = some origin := fun origin mem =>
    List.getElem?_idxOf mem
  have declared : ∀ region ∈ program.root.regions false .empty, ∀ origin ∈ region.origins,
      origin ∈ program.root.typeOrigins := fun region within origin mem =>
    List.mem_append_right _ (List.mem_flatMap.mpr ⟨region, within, mem⟩)
  exact
    { owners := by rw [program.root.scopeOwners_eq program.root.id, Block.owners_regions]
      held := fun region within => by
        obtain ⟨scope, closed, ⟨found, there, agrees⟩, -⟩ := ends.kept region within
        obtain ⟨own, _, -, recorded, same, spans⟩ := ends.introduced region within
        obtain rfl := Option.some.inj (closed.symm.trans recorded)
        obtain rfl := Option.some.inj (there.symm.trans same)
        exact ⟨scope, found, closed, there, .of_agrees agrees spans handles⟩
      reported := by
        refine (repeats.map _).trans ?_
        rw [List.map_flatMap]
        exact List.Perm.flatMap_left _ fun region _ => region.repeats_perm _
      collected := Multiset.coe_eq_coe.mp (program.root.defining_regions false .empty)
      handles := by
        refine (introduced.map _).nodup_iff.mpr (List.Nodup.map_on ?_ (List.nodup_append.mp different).2.1)
        intro origin mem other mem' same
        have found := listed origin (List.mem_append_right _ mem)
        rw [same, listed other (List.mem_append_right _ mem')] at found
        exact (Option.some.inj found).symm
      registered := fun region within introduction mem origin there => by
        refine ends.accounted.grown.declared _ _ (listed origin (List.mem_append_right _ (introduced.subset ?_)))
        exact List.mem_flatMap.mpr ⟨region, within, List.mem_filterMap.mpr ⟨introduction, mem, there⟩⟩
      bound := by
        rw [ends.accounted.root code coded]
        refine (program.root.bindings_visited (program.root.setting code) .empty .empty).trans ?_
        refine List.filterMap_congr fun region within => ?_
        unfold Region.typeHandle? Region.typeDef?
        split
        · next definition own =>
          have mem : .user definition.id definition.name.content ∈ region.origins := by
            rw [Region.origins, own]
            exact List.mem_cons_self
          have handle := coded _ _ (.origin (listed _ (declared region within _ mem)))
          exact congrArg (fun type => some (definition.id, some type)) handle
        · rfl
        · rfl
      ascribed := (ends.ascribed coded ⟨program.root.id, .empty⟩).inside
      resolved := fun _ mem _ there => ends.resolved blank mem there
      settled := (ends.tells blank nodup brackets coded).settled }

/-- In every parsed program, wherever scopes are owned, first declarations win: whatever is declared again under the
same key as something of the same kind is reported, with the place of the first, and otherwise treated alike. -/
theorem first_declarations_win {file : String} {tokens : List Token}
    (sameFile : ∀ token ∈ tokens, token.span.file = file) :
    (analyze .initial (parse tokens).program).FirstWins (parse tokens).program := by
  obtain ⟨pieces, nodup⟩ := parse_fit tokens
  obtain ⟨file, inFile⟩ := file_of_fromTokens sameFile
  obtain ⟨root, t, ran, -, -⟩ := runBlock_succeeds inFile nodup pieces
  have ended : analyze .initial (parse tokens).program = finish (parse tokens).program root none t := by
    rw [analyze, ran]
  refine (parse_ends sameFile).firstWins (parse_blank tokens) nodup (parse_bracketed tokens) ?_
  rw [ended]
  exact runBlock_repeats _ root t ran

/-- Two variables, parameters, functions, fields, type parameters and types of one name. -/
theorem first_declarations_win_twice :
    let tokens := (Token.scan "a" ("x: int\nx: bool\nfunction f(p: int, p: T) \x7b\n\x7d\nfunction f() \x7b\n\x7d\n" ++
      "type T \x7b\nx: int\nx: T\n\x7d\ntype T<A, A> \x7b\n\x7d\ntype T \x7b\n\x7d\n")).tokens
    let analyzed := analyze .initial (parse tokens).program
    (∀ token ∈ tokens, token.span.file = "a") ∧
      analyzed.diagnostics.map Diagnostic.message = ["The variable x is already defined at a:(1,1).",
        "The variable p is already defined at a:(3,12).", "The function f is already defined at a:(3,10).",
        "The variable x is already defined at a:(8,1).", "The type A is already defined at a:(11,8).",
        "The type T is already defined at a:(7,6)."] ∧
      analyzed.FirstWins (parse tokens).program := by
  intro tokens analyzed
  have same : ∀ token ∈ tokens, token.span.file = "a" := fun _ => Token.file_of_mem_scan
  exact ⟨same, by decide +kernel, first_declarations_win same⟩

end Analysis

end ArrowScript
