import ArrowScript.Proofs.Analysis.Ascriptions
import ArrowScript.Proofs.Analysis.HindsightStatements

/-!
# Programs in hindsight

What a fresh analysis of a program knows in the end is in line with the program (`Analyzed.Ends`). So the
program is shown from outside of it, all that is encountered in it is told, and the names that are reported as
not found are those in ascriptions and those that are encountered (`Analyzed.Ends.unfound`).
-/

namespace ArrowScript.Analysis
open Grammar

variable {P : Piece → Prop} {file : String} {program : Program} {analyzed : Analyzed} {code : Shape → TypeId}

/-- What a fresh analysis of a program knows in the end is in line with the program. -/
structure Analyzed.Ends (program : Program) (analyzed : Analyzed) : Prop where
  accounted : analyzed.Accounted program
  tracks : Tracks (.of (program.root.regions false .empty)) program.root.typeOrigins analyzed.state.scopes
    analyzed.state
  surveyed : Surveyed (.of (program.root.regions false .empty)) program.root.typeOrigins analyzed.state.scopes
  kept : AllKept program.root.typeOrigins analyzed.state.scopes (program.root.regions false .empty)
  introduced : ∀ region ∈ program.root.regions false .empty, region.IntroducedIn 0 analyzed.state.scopes
  frame : SameFrame .initial analyzed.state

/-- A fresh analysis of a program ends in line with it. -/
lemma analyze_ends (sameFile : ∀ piece, P piece → piece.span.file = file) (program : Program)
    (nodup : program.root.ids.Nodup) (pieces : ∀ piece ∈ program.root.pieces, P piece) :
    (analyze .initial program).Ends program := by
  have accounted := analyze_accounts sameFile program nodup pieces
  obtain ⟨root, t, ran, -, -⟩ := runBlock_succeeds sameFile nodup pieces
  have e : analyze .initial program = finish program root none t := by rw [analyze, ran]
  obtain ⟨u, prepared, visited⟩ := runBlock_visits (fun _ => .nothing) nodup pieces root t ran
  have tracks := visited.follows.tracks
  -- The scopes are those after declaring.
  have scopes : t.scopes = u.scopes := tracks.scopes
  rw [← scopes] at tracks
  have frame := prepared.frame.trans visited.follows.frame
  rw [e] at accounted ⊢
  exact
    { accounted
      tracks := ⟨rfl, tracks.grown, tracks.declared, tracks.nodup, tracks.defined⟩
      surveyed := scopes ▸ prepared.located.surveyed
      kept := scopes ▸ prepared.kept
      introduced := scopes ▸ prepared.introduced
      frame := ⟨frame.active, frame.functionDepth, frame.returnTypes⟩ }

/-- What is reported when a program is declared is no name that is not found. -/
lemma onRegions_unfound (registry : TypeRegistry) :
    OnRegions fun region => region.problems.filterMap (unfound? registry) = [] := by
  have repeats : ∀ (introductions : List Introduction) (known : Declared → String → Option Span),
      (repeated known introductions).filterMap (unfound? registry) = [] := by
    intro introductions
    induction introductions with
    | nil => exact fun _ => rfl
    | cons introduction rest ih =>
      intro known
      rw [repeated, List.filterMap_append, ih]
      cases known introduction.what introduction.key <;> rfl
  have forbidden : ∀ (nested : Bool) (statements : List Statement),
      (statements.flatMap (Statement.forbidden nested)).filterMap (unfound? registry) = [] := by
    intro nested statements
    rw [List.filterMap_flatMap, List.flatMap_eq_nil_iff]
    intro statement _
    cases statement <;> cases nested <;> rfl
  have problems : ∀ region : Region, region.forbidden.filterMap (unfound? registry) = [] →
      region.problems.filterMap (unfound? registry) = [] := by
    intro region quiet
    rw [Region.problems, List.filterMap_append, repeats, quiet, List.append_nil]
  refine ⟨fun nested around block => ?_, fun _ _ => problems _ rfl, fun _ _ => problems _ rfl⟩
  cases block with
  | mk id kind statements span => exact problems _ (forbidden nested statements)

namespace Analyzed.Ends

variable (ends : analyzed.Ends program) (blank : program.root.Blank) (nodup : program.root.ids.Nodup)

/-! ## Ascriptions -/

section
variable (coded : Coded program.root.typeOrigins analyzed.state.types code)
include ends coded

/-- The ascriptions are those of the regions. -/
lemma ascribed (place : Place) :
    Ascribed code place [] [] (program.root.regions false .empty) program.root.ids analyzed.ascriptions := by
  have listed := program.root.ascribed_visited (program.root.setting code) place
  rw [Analyzed.ascriptions, ends.accounted.root code coded]
  exact listed

/-- What is written in an ascription is written at some site. -/
lemma exists_site {ascription : Ascription} (mem : ascription ∈ analyzed.ascriptions) {written : TypeRef}
    (there : written ∈ ascription.written) :
    ∃ site ∈ (program.root.regions false .empty).flatMap Region.sites, site.1 = ascription.node ∧
      site.2.place.owner = ascription.owner ∧ site.2.written.bound code site.2.place.layer = written := by
  have listed : (ascription.node, ascription.owner, written) ∈ analyzed.ascriptions.filterMap ascribed? :=
    List.mem_filterMap.mpr ⟨ascription, mem, by rw [ascribed?, there]; rfl⟩
  have perm := (ends.ascribed coded ⟨ascription.owner, .empty⟩).written
  obtain ⟨site, listed, e⟩ := List.mem_map.mp (perm.subset listed)
  obtain ⟨node, rest⟩ := Prod.mk.inj e
  obtain ⟨owner, bound⟩ := Prod.mk.inj rest
  exact ⟨site, listed, node, owner, bound⟩

end

include ends blank in
/-- The types in ascriptions are registered. -/
lemma clip_written {ascription : Ascription} (mem : ascription ∈ analyzed.ascriptions) {written : TypeRef}
    (there : written ∈ ascription.written) : written.rename analyzed.state.types.clip = written := by
  have stays := congrArg (Block.ascriptions false) (ends.accounted.clip_root blank)
  rw [Block.ascriptions_rename] at stays
  have own := List.map_inj_left.mp (stays.trans (List.map_id _).symm) ascription mem
  have type : ascription.written.map (TypeRef.rename analyzed.state.types.clip) = ascription.written :=
    congrArg Ascription.written own
  rw [there] at type
  exact Option.some.inj type

include ends blank in
/-- The written type of an ascription is resolved from the scope that it stands in. -/
lemma resolved {ascription : Ascription} (mem : ascription ∈ analyzed.ascriptions) {written : TypeRef}
    (there : written ∈ ascription.written) : ∃ scope,
      analyzed.state.scopes.scopeOf? ascription.owner = some scope ∧ written.Resolved analyzed.state scope := by
  obtain ⟨code, coded⟩ := exists_coded ends.accounted.grown
  have stays := ends.clip_written blank mem there
  obtain ⟨site, listed, -, owner, rfl⟩ := ends.exists_site coded mem there
  obtain ⟨region, within, listed⟩ := List.mem_flatMap.mp listed
  obtain ⟨write, -, rfl⟩ := List.mem_map.mp listed
  obtain ⟨scope, kept⟩ := ends.kept region within
  exact ⟨scope, owner ▸ kept.closed,
    TypeRef.resolved_bound (foundAgain ends.tracks kept.views coded code.injective) write.2 stays⟩

/-! ## Regions -/

section
variable {code : Shape ≃ TypeId} (coded : Coded program.root.typeOrigins analyzed.state.types code)
include ends blank nodup coded

/-- What a region introduces is noted in the ascriptions. -/
lemma noted {region : Region} (within : region ∈ program.root.regions false .empty) :
    (Layer.of region.introductions).Noted program.root.typeOrigins analyzed.state.types
      analyzed.hindsight.ascriptions (.of (program.root.regions false .empty)) := by
  intro key entry found
  obtain ⟨introduction, introduced, named⟩ : ∃ introduction ∈ region.introductions,
      introduction.entry? = some entry := by
    rcases found with found | found
    all_goals obtain ⟨introduction, introduced, same⟩ := List.mem_filterMap.mp (mem_of_lookup_eq_some found)
    · exact ⟨introduction, introduced, Introduction.entry?_of_asVariable same⟩
    · exact ⟨introduction, introduced, Introduction.entry?_of_asFunction same⟩
  have ascribed := ends.ascribed coded region.place
  obtain ⟨ascription, mem, node, typed⟩ := ascribed.inside region within introduction introduced entry named
  have keys : (analyzed.hindsight.ascriptions.map Prod.fst).Nodup := by
    rw [Analyzed.hindsight, List.map_map]
    exact ascribed.nodes.nodup nodup
  refine ⟨ascription.written, ?_, typed, fun written there => ?_⟩
  · rw [← node]
    exact lookup_eq_some_of_mem keys (List.mem_map_of_mem mem)
  · have stays := congrArg TypeRef.binding (ends.clip_written blank mem there)
    obtain ⟨site, listed, same, -, rfl⟩ := ends.exists_site coded mem there
    have declared : (Facts.of (program.root.regions false .empty)).declared entry.node =
        site.2.place.layer.shape? site.2.written := by
      rw [← node, ← same]
      exact congrArg (Option.bind · Site.shape?) (lookup_eq_some_of_mem (Block.nodup_sites nodup) listed)
    rw [declared, TypeRef.binding_bound]
    refine coded.typed code.injective ends.accounted.grown ?_
    rw [TypeRef.binding_rename, TypeRef.binding_bound] at stays
    exact stays

/-- Every region is shown. -/
lemma shown {region : Region} (within : region ∈ program.root.regions false .empty) :
    region.Shown program.root.typeOrigins analyzed.state.scopes analyzed.state.types
      analyzed.hindsight.ascriptions (.of (program.root.regions false .empty)) := by
  obtain ⟨scope, kept⟩ := ends.kept region within
  exact ⟨⟨scope, kept.closed, kept.views⟩, ends.noted blank nodup coded within⟩

/-- The whole program is shown from outside. -/
lemma shows : analyzed.hindsight.Shows program.root.typeOrigins analyzed.state.scopes
    (program.root.setting code) none where
  located :=
    { surveyed := ends.surveyed
      tracks := ⟨rfl, ends.tracks.grown, ends.tracks.declared, ends.tracks.nodup, ends.tracks.defined⟩
      innermost := by
        show analyzed.state.active.head? = none
        rw [ends.frame.active]
        rfl
      views := .nowhere
      known := fun _ => .none
      returned := by
        show Typed _ _ analyzed.state.returnTypes.head?.join none
        rw [ends.frame.returnTypes]
        exact .none
      nested := by
        show decide (0 < analyzed.state.functionDepth) = false
        rw [ends.frame.functionDepth]
        rfl }
  coded := coded
  injective := code.injective
  around := nofun
  members := fun node layer found => by
    obtain ⟨region, within, members⟩ := List.mem_filterMap.mp (mem_of_lookup_eq_some found)
    unfold Region.members at members
    split at members <;> cases members
    exact ends.noted blank nodup coded within

end

/-! ## Encounters -/

section
variable (brackets : program.root.Bracketed)
include ends blank nodup brackets

/-- What is reported while a program is visited tells of the encounters in it. -/
lemma tells {code : Shape ≃ TypeId} (coded : Coded program.root.typeOrigins analyzed.state.types code) :
    Tells analyzed.state.types (program.root.account code).problems analyzed.encounters := by
  have stays := ends.accounted.clip_root blank
  have told := blank.told brackets (ends.shows blank nodup coded)
    (fun region within => ends.shown blank nodup coded within)
  rw [ends.accounted.root code coded] at stays
  rw [Analyzed.encounters, ends.accounted.root code coded]
  exact (told stays).tells

/-- The names that are reported as not found are those in ascriptions and those that are encountered. -/
lemma unfound : analyzed.unfound.Perm
    (analyzed.ascriptions.flatMap Ascription.unresolved ++ analyzed.encounters.flatMap Encounter.unfound) := by
  obtain ⟨code, coded⟩ := exists_coded ends.accounted.grown
  -- Of the three sources of problems the first has no names, the others those of encounters and of ascriptions.
  have findings := (ends.accounted.findings code coded).filterMap (unfound? analyzed.state.types)
  have declared : ((program.root.regions false .empty).flatMap Region.problems).filterMap
      (unfound? analyzed.state.types) = [] := by
    rw [List.filterMap_flatMap, List.flatMap_eq_nil_iff]
    exact program.root.forall_regions (onRegions_unfound _) false .empty
  have ascribed : (analyzed.ascriptions.flatMap Ascription.unresolved).Perm
      ((((program.root.regions false .empty).flatMap Region.sites).flatMap fun site =>
        site.2.unknown).filterMap (unfound? analyzed.state.types)) := by
    have perm := (ends.ascribed coded ⟨program.root.id, .empty⟩).written.flatMap_right
      fun written => written.2.2.unresolved
    rw [List.filterMap_eq_flatMap_toList, List.flatMap_assoc, List.flatMap_map] at perm
    rw [List.filterMap_flatMap]
    refine (List.Perm.of_eq (List.flatMap_congr fun ascription _ => ?_)).trans
      (perm.trans (.of_eq (List.flatMap_congr fun site _ => ?_)))
    · rw [Ascription.unresolved, ascribed?]
      cases ascription.written with
      | none => rfl
      | some written => exact (List.append_nil _).symm
    · exact TypeRef.unresolved_bound _ site.2.written
  rw [Block.problems, List.filterMap_append, List.filterMap_append, declared, List.nil_append,
    (ends.tells blank nodup brackets coded).unfound] at findings
  exact findings.trans (List.perm_append_comm.trans (ascribed.symm.append_right _))

end

end Analyzed.Ends

/-! ## Parsed programs -/

/-- A fresh analysis of a parsed program ends in line with it. -/
lemma parse_ends {tokens : List Token} (sameFile : ∀ token ∈ tokens, token.span.file = file) :
    (analyze .initial (parse tokens).program).Ends (parse tokens).program := by
  obtain ⟨pieces, nodup⟩ := parse_fit tokens
  obtain ⟨file, inFile⟩ := file_of_fromTokens sameFile
  exact analyze_ends inFile (parse tokens).program nodup pieces

end ArrowScript.Analysis
