import ArrowScript.Proofs.Analysis.ConfinedPrograms
import ArrowScript.Proofs.Analysis.Respelled
import ArrowScript.Proofs.Analysis.Wording
import ArrowScript.Proofs.Token.Mangling
import Mathlib.Data.List.TakeWhile
import Mathlib.Data.Set.Function
import Mathlib.Logic.Equiv.Basic

/-!
# Consistent renaming

A renaming of names extends to keys: it changes the name in front of the number of type parameters (`onKeys`). Two
different keys stay different, as no renamed name reaches into the number. So nothing but the equality of names
matters to the analysis: whether all names of a program are renamed before or after it makes no difference
(`analysis_respects_renaming`).
-/

namespace ArrowScript

/-! ## Keys -/

/-- A name that holds no apostrophe. -/
def Unmarked (name : String) : Prop :=
  apostrophe ∉ name.toList

/-- What of a key is the name. -/
def keyStem (key : List Char) : List Char :=
  key.takeWhile (· ≠ apostrophe)

/-- What of a key counts the type parameters, with the apostrophe in front. -/
def keyCount (key : List Char) : List Char :=
  key.dropWhile (· ≠ apostrophe)

/-- A renaming of names as one of keys. -/
def onKeys (rename : String → String) (key : String) : String :=
  rename (String.ofList (keyStem key.toList)) ++ String.ofList (keyCount key.toList)

/-- A renaming of names that hold no apostrophe: different names stay different, the built-in types keep their
names, and no renamed name holds an apostrophe. -/
structure Renames (rename : String → String) : Prop where
  injective : Set.InjOn rename {name | Unmarked name}
  builtin : ∀ entry ∈ TypeRegistry.builtins, rename entry.1 = entry.1
  unmarked : ∀ name, Unmarked name → Unmarked (rename name)

variable {rename : String → String}

/-- Characters other than the apostrophe pass. -/
lemma forall_ne_apostrophe {text : List Char} (unmarked : apostrophe ∉ text) :
    ∀ c ∈ text, decide (c ≠ apostrophe) = true :=
  fun _ mem => decide_eq_true fun same => unmarked (same ▸ mem)

/-- The stem of a key that starts with a name starts with the name. -/
lemma keyStem_append {name rest : List Char} (unmarked : apostrophe ∉ name) :
    keyStem (name ++ rest) = name ++ keyStem rest :=
  List.takeWhile_append_of_pos (forall_ne_apostrophe unmarked)

/-- What follows the stem of a key that starts with a name follows the name. -/
lemma keyCount_append {name rest : List Char} (unmarked : apostrophe ∉ name) :
    keyCount (name ++ rest) = keyCount rest :=
  List.dropWhile_append_of_pos (forall_ne_apostrophe unmarked)

/-- There is no apostrophe in the stem of a key. -/
lemma apostrophe_notMem_keyStem (key : List Char) : apostrophe ∉ keyStem key := by
  intro mem
  simpa using List.mem_takeWhile_imp mem

/-- The stem of a key is a name. -/
lemma unmarked_keyStem (key : List Char) : Unmarked (String.ofList (keyStem key)) := by
  rw [Unmarked, String.toList_ofList]
  exact apostrophe_notMem_keyStem key

/-- A key is its stem and what follows. -/
lemma keyStem_append_keyCount (key : List Char) : keyStem key ++ keyCount key = key :=
  List.takeWhile_append_dropWhile

/-- What follows the stem of a key starts with an apostrophe. -/
lemma keyStem_keyCount (key : List Char) : keyStem (keyCount key) = [] := by
  have parts : keyStem (keyStem key ++ keyCount key) = _ := keyStem_append (apostrophe_notMem_keyStem key)
  rw [keyStem_append_keyCount] at parts
  exact List.append_cancel_left (parts.symm.trans (List.append_nil _).symm)

/-- What does not start with a name is all count. -/
lemma keyCount_of_keyStem {key : List Char} (nameless : keyStem key = []) : keyCount key = key := by
  have parts := keyStem_append_keyCount key
  rwa [nameless, List.nil_append] at parts

/-- What follows something that does not start with a name does not make it start with one. -/
lemma keyStem_nameless {first rest : List Char} (before : keyStem first = []) (after : keyStem rest = []) :
    keyStem (first ++ rest) = [] := by
  cases first with
  | nil => exact after
  | cons c others =>
    unfold keyStem at before ⊢
    rw [List.cons_append, List.takeWhile_cons]
    rw [List.takeWhile_cons] at before
    split at before
    · cases before
    · next h => rw [if_neg h]

/-- The characters of a renamed key. -/
lemma toList_onKeys (rename : String → String) (key : String) : (onKeys rename key).toList =
    (rename (String.ofList (keyStem key.toList))).toList ++ keyCount key.toList := by
  rw [onKeys, String.toList_append, String.toList_ofList]

/-- A name is renamed as it is when it is a key. -/
lemma onKeys_of_unmarked {name : String} (unmarked : Unmarked name) : onKeys rename name = rename name := by
  have stem : keyStem name.toList = name.toList := List.takeWhile_eq_self_iff.mpr (forall_ne_apostrophe unmarked)
  have count : keyCount name.toList = [] := List.dropWhile_eq_nil_iff.mpr (forall_ne_apostrophe unmarked)
  refine String.toList_injective ?_
  rw [toList_onKeys, stem, count, String.ofList_toList, List.append_nil]

/-- The key of a name with a number of type parameters is renamed to the key of the renamed name with this number. -/
lemma onKeys_mangle (rename : String → String) (name : String) (arity : Nat) :
    onKeys rename (mangle name arity) = mangle (onKeys rename name) arity := by
  by_cases zero : arity = 0
  · rw [mangle, mangle, if_pos zero, if_pos zero]
  let number := apostrophe :: Nat.toDigits 10 arity
  -- The stem of the key is the stem of the name; the number only makes the count longer.
  have nameless : keyStem (keyCount name.toList ++ number) = [] :=
    keyStem_nameless (keyStem_keyCount _) (List.takeWhile_cons_of_neg (by simp))
  have parts : name.toList ++ number = keyStem name.toList ++ (keyCount name.toList ++ number) := by
    rw [← List.append_assoc, keyStem_append_keyCount]
  have stem : keyStem (name.toList ++ number) = keyStem name.toList := by
    rw [parts, keyStem_append (apostrophe_notMem_keyStem _), nameless, List.append_nil]
  have count : keyCount (name.toList ++ number) = keyCount name.toList ++ number := by
    rw [parts, keyCount_append (apostrophe_notMem_keyStem _), keyCount_of_keyStem nameless]
  refine String.toList_injective ?_
  rw [toList_mangle, toList_onKeys, toList_mangle, if_neg zero, if_neg zero, toList_onKeys, stem, count,
    List.append_assoc]

namespace Renames

variable (renames : Renames rename)
include renames

/-- The stem of a renamed key is the renamed stem, and the count stays. -/
lemma parts_onKeys (key : String) :
    keyStem (onKeys rename key).toList = (rename (String.ofList (keyStem key.toList))).toList ∧
      keyCount (onKeys rename key).toList = keyCount key.toList := by
  have unmarked := renames.unmarked _ (unmarked_keyStem key.toList)
  rw [toList_onKeys, keyStem_append unmarked, keyCount_append unmarked, keyStem_keyCount, List.append_nil]
  exact ⟨rfl, keyCount_of_keyStem (keyStem_keyCount _)⟩

/-- A renaming of names goes unnoticed as a change of spelling of keys. -/
lemma onKeys : Respelling (onKeys rename) where
  injective := by
    intro first second same
    -- Both parts of a key can be told from the renamed key: the stem by injectivity, the count as it stays.
    have stems := (renames.parts_onKeys first).1.symm.trans (same ▸ (renames.parts_onKeys second).1)
    have counts := (renames.parts_onKeys first).2.symm.trans (same ▸ (renames.parts_onKeys second).2)
    have stems := renames.injective (unmarked_keyStem _) (unmarked_keyStem _) (String.toList_injective stems)
    have stems : keyStem first.toList = keyStem second.toList := by
      simpa using congrArg String.toList stems
    refine String.toList_injective ?_
    rw [← keyStem_append_keyCount first.toList, stems, counts, keyStem_append_keyCount]
  builtin := by
    intro entry mem
    have unmarked : ∀ entry ∈ TypeRegistry.builtins, Unmarked entry.1 := by
      unfold Unmarked
      decide
    rw [onKeys_of_unmarked (unmarked entry mem), renames.builtin entry mem]
  mangle := onKeys_mangle rename

end Renames

/-! ## Programs -/

/-- A place in a file, whatever is written there. -/
def Span.place (span : Span) : Span :=
  { span with text := none }

namespace Analysis

/-- How the analysis of a renamed program goes along with the analysis of the program. The renamed names are in the
same places and stand for the same things; all handles are the same. -/
structure Analyzed.Renamed (rename : String → String) (first second : Analyzed) : Prop where
  fault : second.fault? = first.fault?
  program : second.program = first.program.respell rename
  types : second.state.types = first.state.types.respell rename
  kinds : ∀ type, second.state.types.kind? type = first.state.types.kind? type
  /-- Scopes declare the same under renamed keys. -/
  scopes : second.state.scopes = first.state.scopes.respell (onKeys rename)
  closed : second.state.scopes.closed = first.state.scopes.closed
  /-- Nodes are declared with the same types, have the same ones from their initial values and define the same. -/
  nodes : (second.state.declaredTypes, second.state.inferredTypes, second.state.definedTypes) =
    (first.state.declaredTypes, first.state.inferredTypes, first.state.definedTypes)
  around : (second.state.active, second.state.functionDepth, second.state.returnTypes) =
    (first.state.active, first.state.functionDepth, first.state.returnTypes)
  findings : second.findings = first.findings.map (findingRespell rename)
  /-- Diagnostics are in the same places. -/
  places : second.diagnostics.map (fun diagnostic => (diagnostic.kind, diagnostic.span.place)) =
    first.diagnostics.map fun diagnostic => (diagnostic.kind, diagnostic.span.place)
  /-- A message has its words and names before the renaming … -/
  before : first.diagnostics.map Diagnostic.message =
    first.findings.map fun finding => Fragment.render (finding.problem.wording first.state.types)
  /-- … and the same words and the renamed names after it. -/
  after : second.diagnostics.map Diagnostic.message = first.findings.map fun finding =>
    Fragment.render ((finding.problem.wording first.state.types).map (Fragment.respell rename))

/-- A fresh analysis knows no names that could be spelled differently. -/
lemma State.respell_initial (spell : String → String) : State.initial.respell spell = .initial := by
  have scopes : ScopeTable.empty.respell spell = .empty := by
    simp only [ScopeTable.respell, ScopeTable.empty, List.map_toArray, List.map_nil]
  unfold State.respell initial
  simp only [TypeRegistry.respell_initial, scopes, List.map_toArray, List.map_nil]

/-- The names of registered types are spelled the same. -/
lemma respell_types_congr {P : String → Prop} {spell other : String → String}
    (agree : ∀ name, P name → spell name = other name) {registry : TypeRegistry}
    (spelled : ∀ info ∈ registry.entries, info.Spelled P) : registry.respell spell = registry.respell other := by
  induction registry using TypeRegistry.registering with
  | empty => rfl
  | register registry info ih =>
    have new : info.Spelled P := spelled info (Array.mem_push_self)
    have old := ih fun other mem => spelled other (Array.mem_push_of_mem _ mem)
    have same : info.respell spell (registry.respell other) = info.respell other (registry.respell other) := by
      obtain ⟨name, kind⟩ := info
      cases kind with
      | user | parameter => exact congrArg (TypeInfo.mk · _) (agree name new)
      | builtin | array => rfl
    rw [TypeRegistry.respell_register, TypeRegistry.respell_register, old, same]

/-- A found problem stays in its place. -/
lemma place_findingRespell (spell : String → String) (finding : Finding SemanticProblem) :
    (findingRespell spell finding).span.place = finding.span.place := by
  unfold findingRespell
  dsimp only
  split <;> rfl

/-- Nothing but the equality of names matters to the analysis: whether the names of a program are renamed before or
after a fresh analysis of it makes no difference. -/
theorem analysis_respects_renaming (renames : Renames rename) (program : Program) (names : program.Spelled Unmarked) :
    (analyze .initial program).Renamed rename (analyze .initial (program.respell rename)) := by
  have unnoticed := renames.onKeys
  -- Keys hold apostrophes, so the simulation is about `onKeys rename`. It is `rename` on the names of the program
  -- and, as the analysis makes up no others, on all names in what comes of it.
  have agree : ∀ name, Unmarked name → onKeys rename name = rename name := fun name => onKeys_of_unmarked
  have confined := analyze_confined State.spelled_initial names
  have alike := analyze_respell unnoticed .initial program
  rw [State.respell_initial, names.respell_congr agree] at alike
  generalize analyze .initial program = first at alike confined
  rw [alike]
  have types : (first.respell (onKeys rename)).state.types = first.state.types.respell rename :=
    respell_types_congr agree confined.state.types
  have findings : (first.respell (onKeys rename)).findings = first.findings.map (findingRespell rename) :=
    List.map_congr_left fun finding mem => (confined.findings finding mem).respell_congr agree
  exact {
    fault := rfl
    program := confined.program.respell_congr agree
    types := types
    kinds := fun type => by rw [types, TypeRegistry.kind?_respell]
    scopes := rfl
    closed := rfl
    nodes := rfl
    around := rfl
    findings := findings
    places := by
      rw [Analyzed.diagnostics, Analyzed.diagnostics, findings, List.map_map, List.map_map, List.map_map]
      exact List.map_congr_left fun finding _ => congrArg (Prod.mk _) (place_findingRespell rename finding)
    before := by
      rw [Analyzed.diagnostics, List.map_map]
      exact List.map_congr_left fun finding _ => finding.problem.message_eq_render confined.state.arrays
    after := by
      rw [Analyzed.diagnostics, findings, types, List.map_map, List.map_map]
      exact List.map_congr_left fun finding _ => finding.problem.message_respell first.state.types }

/-- The program that declares a pear as a plum, which is not known. -/
def orchard : Program where
  file := "orchard"
  root := {
    id := ⟨0⟩
    kind := .program
    statements := [.variable {
      id := ⟨1⟩
      name := ⟨some "pear", "orchard", 0, 4, 1, 1⟩
      written := some (.named ⟨some "plum", "orchard", 6, 4, 1, 7⟩ false)
      initial := none
      type := none }]
    span := ⟨some "pear", "orchard", 0, 4, 1, 1⟩ }

/-- Pears and plums can be exchanged. -/
lemma renames_swap : Renames (Equiv.swap "pear" "plum") where
  injective := (Equiv.swap "pear" "plum").injective.injOn
  builtin := by decide
  unmarked := by
    intro name unmarked
    rw [Equiv.swap_apply_def]
    split
    · unfold Unmarked
      decide
    · split
      · unfold Unmarked
        decide
      · exact unmarked

/-- The names of the orchard hold no apostrophe. -/
lemma unmarked_orchard : orchard.Spelled Unmarked := by
  have names : Unmarked "pear" ∧ Unmarked "plum" := by
    unfold Unmarked
    decide
  refine ⟨⟨names.1, ?_, fun _ mem => by cases mem⟩, trivial⟩
  rintro _ ⟨⟩
  exact ⟨names.2, trivial⟩

/-- After pears and plums are exchanged, the pear is not known. -/
theorem analysis_respects_renaming_orchard :
    Renames (Equiv.swap "pear" "plum") ∧ orchard.Spelled Unmarked ∧
      (analyze .initial orchard).Renamed (Equiv.swap "pear" "plum")
        (analyze .initial (orchard.respell (Equiv.swap "pear" "plum"))) :=
  ⟨renames_swap, unmarked_orchard, analysis_respects_renaming renames_swap orchard unmarked_orchard⟩

example : (analyze .initial orchard).diagnostics.map Diagnostic.message = ["Cannot find type plum."] := by
  decide +kernel

example : (analyze .initial (orchard.respell (Equiv.swap "pear" "plum"))).diagnostics.map Diagnostic.message =
    ["Cannot find type pear."] := by
  decide +kernel

end Analysis

end ArrowScript
