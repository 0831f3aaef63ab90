import ArrowScript.Proofs.Analysis.AccountingStatements
import ArrowScript.Proofs.Analysis.Programs
import Mathlib.SetTheory.Cardinal.Arithmetic

/-!
# Programs by the account

A fresh analysis of a program whose handles are all different gives the program of the account, with every shape
coded by the handle that stands for it in the end, and reports the problems of the account in some order
(`analyze_accounts`). Such a code can be chosen as a bijection between shapes and handles (`exists_coded`).
-/

namespace ArrowScript.Analysis

variable {P : Piece → Prop} {file : String} {root : Block} {origins : List Origin} {registry : TypeRegistry}
  {t u : State}

/-! ## The registered types of a program -/

/-- A node defines at most one type. -/
lemma single_of_mem_typeOrigins (nodup : root.ids.Nodup) {node : NodeId} {name other : String}
    (mem : .user node name ∈ root.typeOrigins) (mem' : .user node other ∈ root.typeOrigins) : name = other := by
  have listed : ∀ {name : String}, .user node name ∈ root.typeOrigins →
      ∃ region ∈ root.regions false .empty, Origin.user node name ∈ region.origins := by
    intro name mem
    rcases List.mem_append.mp mem with builtin | mem
    · obtain ⟨entry, -, e⟩ := List.mem_map.mp builtin
      cases e
    · exact List.mem_flatMap.mp mem
  have regular := root.forall_regions onRegions_regular false .empty
  obtain ⟨first, there, mem⟩ := listed mem
  obtain ⟨second, there', mem'⟩ := listed mem'
  have owner := Option.some.inj ((regular first there).node _ mem)
  have owner' := Option.some.inj ((regular second there').node _ mem')
  obtain rfl := List.inj_on_of_nodup_map (Block.nodup_owners nodup) there there' (owner.symm.trans owner')
  exact (regular first there).single node name other mem mem'

/-- The types of a program have the handles after those of the built-in types. -/
lemma lies_typeOrigins (root : Block) :
    Lies root.typeOrigins 6 ((root.regions false .empty).flatMap Region.origins) := by
  intro position origin found
  rw [Block.typeOrigins, List.getElem?_append_right (Nat.le_add_right 6 position)]
  rwa [show builtinOrigins.length = 6 from rfl, Nat.add_sub_cancel_left]

/-- After a program was declared, the state knows the types that nodes define. -/
lemma defined_of_declared (nodup : root.ids.Nodup)
    (collects : Collects none .initial t (.ofRegions (root.regions false .empty))) {node : NodeId}
    {name : String} (mem : .user node name ∈ root.typeOrigins) :
    ∃ type : TypeId, t.definedTypes.lookup node = some type ∧
      root.typeOrigins[type.index]? = some (.user node name) := by
  -- Definitions are recorded at the places of their origins.
  have listed : ∀ type, (node, type) ∈ t.definedTypes ↔
      ∃ name, root.typeOrigins[type.index]? = some (.user node name) := by
    intro type
    rw [collects.registers.defined]
    constructor
    · rintro (nowhere | ⟨name, position, found, place⟩)
      · cases nowhere
      · refine ⟨name, ?_⟩
        rw [place]
        exact (lies_typeOrigins root) position _ found
    · rintro ⟨name, found⟩
      rcases Nat.lt_or_ge type.index builtinOrigins.length with builtin | beyond
      · rw [Block.typeOrigins, List.getElem?_append_left builtin] at found
        obtain ⟨entry, -, e⟩ := List.mem_map.mp (List.mem_of_getElem? found)
        cases e
      · rw [Block.typeOrigins, List.getElem?_append_right beyond] at found
        exact .inr ⟨name, _, found, (Nat.add_sub_cancel' beyond).symm⟩
  obtain ⟨index, place⟩ := List.getElem?_of_mem mem
  have key : node ∈ t.definedTypes.map Prod.fst := List.mem_map_of_mem ((listed ⟨index⟩).mpr ⟨name, place⟩)
  obtain ⟨type, found⟩ := exists_lookup_of_mem key
  obtain ⟨other, place'⟩ := (listed type).mp (mem_of_lookup_eq_some found)
  obtain rfl := single_of_mem_typeOrigins nodup (List.mem_of_getElem? place') mem
  exact ⟨type, found, place'⟩

/-- The regions of a program that are kept are charted. -/
lemma charted_of_kept {table : ScopeTable} (nodup : root.ids.Nodup)
    (kept : AllKept root.typeOrigins table (root.regions false .empty)) :
    AllCharted (.of (root.regions false .empty)) root.typeOrigins table (root.regions false .empty) := by
  intro region mem
  obtain ⟨scope, stays⟩ := kept region mem
  refine ⟨scope, stays.closed, stays.views, fun write listed => sited_of_kept nodup mem stays listed, ?_⟩
  exact fun origin there => List.mem_append_right _ (List.mem_flatMap.mpr ⟨region, mem, there⟩)

/-! ## Findings -/

/-- The unknown names in the types of declarations whose types were found, each once and all of those that are
written, are those in the written types. -/
lemma flatMap_unknown (nodup : root.ids.Nodup) {fresh : List NodeId} (different : fresh.Nodup)
    (covers : ∀ site ∈ (root.regions false .empty).flatMap Region.sites, site.1 ∈ fresh) :
    (fresh.flatMap (Facts.of (root.regions false .empty)).unknown).Perm
      (((root.regions false .empty).flatMap Region.sites).flatMap fun site => site.2.unknown) := by
  have keys := Block.nodup_sites nodup
  generalize e : (root.regions false .empty).flatMap Region.sites = sites at covers keys
  have unknown : ∀ node, (Facts.of (root.regions false .empty)).unknown node =
      (sites.lookup node).elim [] Site.unknown := by
    intro node
    rw [← e]
    rfl
  have subset : sites.map Prod.fst ⊆ fresh := by
    intro node mem
    obtain ⟨site, there, rfl⟩ := List.mem_map.mp mem
    exact covers site there
  -- The nodes that were looked up are those with written types and others, which report nothing.
  obtain ⟨first, same, sublist⟩ := keys.subperm subset
  obtain ⟨rest, perm⟩ := sublist.exists_perm_append
  replace perm := perm.trans (same.append_right rest)
  have others : rest.flatMap (Facts.of (root.regions false .empty)).unknown = [] := by
    refine List.flatMap_eq_nil_iff.mpr fun node mem => ?_
    have absent : sites.lookup node = none := by
      refine List.lookup_eq_none_iff.mpr fun site there => bne_iff_ne.mpr fun same => ?_
      have apart := List.disjoint_of_nodup_append (perm.nodup_iff.mp different)
      exact apart (List.mem_map_of_mem there) (same ▸ mem)
    rw [unknown, absent]
    rfl
  have listed : (sites.map Prod.fst).flatMap (Facts.of (root.regions false .empty)).unknown =
      sites.flatMap fun site => site.2.unknown := by
    rw [List.flatMap_map]
    refine List.flatMap_congr fun site mem => ?_
    rw [unknown, lookup_eq_some_of_mem keys mem]
    rfl
  refine (perm.flatMap_right _).trans ?_
  rw [List.flatMap_append, others, listed, List.append_nil]

/-! ## Programs -/

/-- What a fresh analysis of a program gives is the account of it. -/
structure Analyzed.Accounted (program : Program) (analyzed : Analyzed) : Prop where
  fault : analyzed.fault? = none
  grown : Grown program.root.typeOrigins analyzed.state.types
  root : ∀ code, Coded program.root.typeOrigins analyzed.state.types code →
    analyzed.program.root = (program.root.account code).node
  findings : ∀ code, Coded program.root.typeOrigins analyzed.state.types code →
    analyzed.findings.Perm (program.root.problems code)

/-- A program was declared in a fresh state: its regions are kept, it can be visited from outside, and nothing was
looked up yet. -/
structure Prepared (root : Block) (code : Shape → TypeId) (s : State) : Prop where
  kept : AllKept root.typeOrigins s.scopes (root.regions false .empty)
  located : Located root.typeOrigins s.scopes (root.setting code) s none
  frame : SameFrame .initial s
  fresh : s.declaredTypes = []
  introduced : ∀ region ∈ root.regions false .empty, region.IntroducedIn 0 s.scopes
  found : s.found = ↑((root.regions false .empty).flatMap Region.problems)

/-- Declaring a program prepares visiting it. -/
lemma declareBlock_prepares (code : Shape → TypeId) (nodup : root.ids.Nodup)
    (pieces : ∀ piece ∈ root.pieces, P piece) :
    Yields (declareBlock root) .initial fun _ u => Prepared root code u := by
  have ready : Ready none false .initial root.ids := ⟨rfl, nofun, rfl, nodup, fun _ _ => rfl⟩
  have declares := declareBlock_succeeds root ready pieces
  have collects : Yields (declareBlock root) .initial fun _ t =>
      Collects none .initial t (.ofRegions (root.regions false .empty)) :=
    declareBlock_collects root .empty rfl rfl
  intro _ t ran
  obtain ⟨_, u, ran', declared⟩ := declares
  obtain ⟨-, rfl⟩ := EStateM.Result.ok.inj (ran'.symm.trans ran)
  have collected := collects _ _ ran
  have laid : root.Laid P u.scopes false 6 none := declared.laid u (.refl _ _ _)
  have kept := laid.kept (lies_typeOrigins root) .nowhere
  obtain ⟨inferred, found⟩ := Prod.mk.inj declared.typesFound
  -- Nothing was looked up while declaring, so no type is known yet.
  have tracks : Tracks (.of (root.regions false .empty)) root.typeOrigins u.scopes u :=
    { scopes := rfl
      grown := grown_of_declared nodup collected
      declared := fun node type known => by
        rw [found] at known
        cases known
      nodup := by
        rw [found]
        exact List.nodup_nil
      defined := fun node name mem => defined_of_declared nodup collected mem }
  have located : Located root.typeOrigins u.scopes (root.setting code) u none :=
    { surveyed := surveyed_of_declared nodup collected kept
      tracks := tracks
      innermost := by
        rw [declared.frame.active]
        rfl
      views := .nowhere
      known := fun node => by
        rw [inferred]
        exact .none
      returned := by
        rw [declared.frame.returnTypes]
        exact .none
      nested := by
        rw [declared.frame.functionDepth]
        rfl }
  exact ⟨kept, located, declared.frame, found, collected.inside nofun, collected.found_ofRegions⟩

/-- A block is declared and then visited as the account says. -/
lemma runBlock_visits (code : Shape → TypeId) (nodup : root.ids.Nodup) (pieces : ∀ piece ∈ root.pieces, P piece) :
    Yields (runBlock root) .initial fun r t => ∃ u, Prepared root code u ∧
      Accounts (.of (root.regions false .empty)) root.typeOrigins u.scopes code u t (root.account code).problems
        (root.account code).inferred ((root.regions false .empty).flatMap Region.writes)
        (r = (root.account code).node) := by
  refine .bind (.adapt ((declareBlock_prepares code nodup pieces).mono fun _ u prepared => ?_))
  refine (visitBlock_accounts root prepared.located (charted_of_kept nodup prepared.kept)).mono fun r t visited => ?_
  exact ⟨u, prepared, visited⟩

/-- A block is analyzed as the account says. -/
lemma runBlock_accounts (code : Shape → TypeId) (nodup : root.ids.Nodup)
    (pieces : ∀ piece ∈ root.pieces, P piece) :
    Yields (runBlock root) .initial fun r t => Grown root.typeOrigins t.types ∧
      (Coded root.typeOrigins t.types code → r = (root.account code).node ∧
        t.found = ↑(root.problems code)) := by
  refine (runBlock_visits code nodup pieces).mono fun r t ⟨u, prepared, visited⟩ => ?_
  refine ⟨visited.follows.tracks.grown, fun coded => ⟨visited.same coded, ?_⟩⟩
  obtain ⟨fresh, keys, notes⟩ := visited.follows.notes coded
  rw [prepared.fresh] at keys
  have keys : t.declaredTypes.map Prod.fst = fresh := keys.trans (List.append_nil _)
  -- Every written type is looked up in the end, whichever use of its variable came first.
  have unknown := flatMap_unknown nodup (keys ▸ visited.follows.tracks.nodup) fun site mem => by
    obtain ⟨region, there, mem⟩ := List.mem_flatMap.mp mem
    obtain ⟨write, listed, rfl⟩ := List.mem_map.mp mem
    exact keys ▸ visited.covers coded write (List.mem_flatMap.mpr ⟨region, there, listed⟩)
  have unknown : (↑(fresh.flatMap (Facts.of (root.regions false .empty)).unknown) :
      Multiset (Finding SemanticProblem)) = _ := Multiset.coe_eq_coe.mpr unknown
  rw [notes, prepared.found, unknown, Block.problems, ← Multiset.coe_add, ← Multiset.coe_add]

/-- A fresh analysis of a program gives the account of it. -/
theorem analyze_accounts (sameFile : ∀ piece, P piece → piece.span.file = file) (program : Program)
    (nodup : program.root.ids.Nodup) (pieces : ∀ piece ∈ program.root.pieces, P piece) :
    (analyze .initial program).Accounted program := by
  obtain ⟨root, t, ran, -, -⟩ := runBlock_succeeds sameFile nodup pieces
  have e : analyze .initial program = finish program root none t := by rw [analyze, ran]
  have accounts (code : Shape → TypeId) := runBlock_accounts code nodup pieces root t ran
  rw [e]
  refine ⟨rfl, (accounts fun _ => .nothing).1, fun code coded => ((accounts code).2 coded).1,
    fun code coded => ?_⟩
  exact Multiset.coe_eq_coe.mp ((accounts code).2 coded).2

/-! ## Codes -/

/-- There are only countably many texts. -/
lemma countable_string : Countable String := by
  have char : Countable Char :=
    Function.Injective.countable fun first second (same : first.toNat = second.toNat) => Char.toNat_inj.mp same
  exact Function.Injective.countable fun _ _ => String.toList_inj.mp

/-- What a declaration of a type consists of. -/
def Origin.parts : Origin → TypeId ⊕ (NodeId × String) ⊕ (NodeId × Nat × String)
  | .builtin type => .inl type
  | .user node name => .inr (.inl (node, name))
  | .parameter owner position name => .inr (.inr (owner, position, name))

/-- There are only countably many declarations that types can come from. -/
lemma countable_origin : Countable Origin := by
  have string := countable_string
  have node : Countable NodeId := Function.Injective.countable (f := NodeId.index) fun ⟨_⟩ ⟨_⟩ => congrArg _
  have type : Countable TypeId := Function.Injective.countable (f := TypeId.index) fun ⟨_⟩ ⟨_⟩ => congrArg _
  refine Function.Injective.countable (f := Origin.parts) fun first second same => ?_
  cases first <;> cases second <;> simp_all [Origin.parts]

/-- There are as many handles as shapes. -/
lemma nonempty_handles_equiv_shapes : Nonempty (TypeId ≃ Shape) := by
  have origin := countable_origin
  have type : Countable TypeId := Function.Injective.countable (f := TypeId.index) fun ⟨_⟩ ⟨_⟩ => congrArg _
  have shape : Countable Shape :=
    Function.Injective.countable (f := fun shape : Shape => (shape.origin, shape.depth))
      fun ⟨_, _⟩ ⟨_, _⟩ same => by simpa using same
  have types : Infinite TypeId := Infinite.of_injective TypeId.mk fun _ _ => TypeId.mk.inj
  have shapes : Infinite Shape :=
    Infinite.of_injective (fun depth => (⟨.builtin .nothing, depth⟩ : Shape)) fun _ _ same => (Shape.mk.inj same).2
  exact nonempty_equiv_of_countable

/-- Shapes can be coded one to one by handles, those that are registered by the handles that stand for them. -/
lemma exists_coded (grown : Grown origins registry) :
    ∃ code : Shape ≃ TypeId, Coded origins registry code := by
  let known : Set TypeId := {type | type.index < registry.size}
  choose form shaped using fun type : known => Shaped.of_known grown type.2
  have injective : Function.Injective form := fun first second same =>
    Subtype.ext ((shaped first).injective grown (same ▸ shaped second))
  have finite : Finite known :=
    Finite.of_injective (fun type : known => (⟨type.1.index, type.2⟩ : Fin registry.size))
      fun first second same => Subtype.ext (congrArg TypeId.mk (Fin.mk.inj same))
  have types : Infinite TypeId := Infinite.of_injective TypeId.mk fun _ _ => TypeId.mk.inj
  have few : Cardinal.mk known < Cardinal.mk TypeId :=
    (Cardinal.lt_aleph0_of_finite known).trans_le (Cardinal.aleph0_le_mk TypeId)
  obtain ⟨shapeOf, extends'⟩ :=
    Cardinal.extend_function_of_lt ⟨form, injective⟩ few nonempty_handles_equiv_shapes
  refine ⟨shapeOf.symm, fun type shape stands => ?_⟩
  have same := extends' ⟨type, stands.known grown⟩
  rw [Equiv.symm_apply_eq]
  exact (stands.unique grown (shaped ⟨type, stands.known grown⟩)).trans same.symm

end ArrowScript.Analysis
