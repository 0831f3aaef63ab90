import ArrowScript.Proofs.Analysis.Functions
import ArrowScript.Proofs.Analysis.SoundStatements

/-!
# Soundness of the analysis

A program without findings is well typed by the types that are recorded in it (`clean_analysis_well_typed`). The
account of a program says in the same words what is compared and what is recorded, so each form of the syntax is
well typed when the account finds no problem in it.
-/

namespace ArrowScript
open Analysis Grammar

/-! ## Functions that can be seen -/

namespace Analysis

/-- A region of a function is that of its definition. -/
lemma onRegions_function : OnRegions fun region => ∀ definition, region.definition = some (.inl definition) →
    ∃ around, region = definition.region around where
  block := by
    rintro nested around ⟨id, kind, statements, span⟩
    nofun
  function := by
    rintro around definition _ e
    cases e
    exact ⟨around, rfl⟩
  type := nofun

/-- The parameters of a function are among what is written in its region. -/
lemma mem_writes_region {definition : FunctionDef} {parameter : Parameter} (mem : parameter ∈ definition.parameters)
    (around : Layer) : (parameter.id, parameter.written) ∈ (definition.region around).writes := by
  obtain ⟨id, name, typeParameters, parameters, returns, body, keyword⟩ := definition
  exact List.mem_append_left _ (List.mem_map.mpr ⟨parameter, mem, rfl⟩)

namespace Analyzed.Accounted

variable {program : Program} {analyzed : Analyzed} (accounted : analyzed.Accounted program)
  (blank : program.root.Blank) (nodup : program.root.ids.Nodup) {code : Shape → TypeId}
  (coded : Coded program.root.typeOrigins analyzed.state.types code)

include accounted blank in
/-- The handles in the functions of an analyzed program are registered. -/
lemma clip_function {definition : FunctionDef} (mem : definition ∈ analyzed.program.root.functions) :
    definition.rename analyzed.state.types.clip = definition := by
  have stays : (analyzed.program.root.rename analyzed.state.types.clip).functions = _ :=
    congrArg Block.functions (accounted.clip_root blank)
  rw [Block.functions_rename] at stays
  exact List.map_inj_left.mp (stays.trans (List.map_id _).symm) definition mem

include accounted blank nodup coded in
/-- The functions that a region introduces are documented in the analyzed program. -/
lemma documented {region : Region} (mem : region ∈ program.root.regions false .empty) :
    (Layer.of region.introductions).Documented ⟨analyzed.state.types, analyzed.program.root.functions⟩
      (.of (program.root.regions false .empty)) code := by
  intro key entry found
  obtain ⟨introduction, there, meaning⟩ := List.mem_filterMap.mp (mem_of_lookup_eq_some found)
  replace meaning : introduction.meaning = .function entry := by
    unfold Introduction.asFunction at meaning
    split at meaning <;> cases meaning
    assumption
  obtain ⟨own, listed, definition, known, id⟩ :=
    program.root.haveRegions false .empty region mem introduction there entry meaning
  -- Visiting fills a definition in, and that one is recorded under the same handle.
  obtain ⟨final, final_mem, final_id, parameters⟩ :=
    program.root.records_visited (program.root.setting code) own listed definition known
  obtain ⟨around, rfl⟩ := program.root.forall_regions onRegions_function false .empty own listed definition known
  have final_mem : final ∈ analyzed.program.root.functions := by
    rw [accounted.root code coded]
    exact final_mem
  have signature : (Facts.of (program.root.regions false .empty)).parameters entry.node =
      final.parameters.map Parameter.id := by
    have kept := Block.lookup_view nodup Region.owner_of_signature listed rfl
    rw [← id, parameters, List.map_map]
    exact congrArg (Option.getD · []) kept
  refine ⟨final, final_mem, final_id.trans id, signature, fun parameter there => ⟨?_, ?_⟩⟩
  · rw [parameters] at there
    obtain ⟨before, mem, rfl⟩ := List.mem_map.mp there
    have site := lookup_eq_some_of_mem (Block.nodup_sites nodup) (List.mem_flatMap.mpr
      ⟨_, listed, List.mem_map_of_mem (mem_writes_region mem around)⟩)
    rw [TypeRef.binding_bound]
    exact congrArg (Option.map code) (congrArg (Option.bind · Site.shape?) site).symm
  · have stays := congrArg FunctionDef.parameters (accounted.clip_function blank final_mem)
    obtain ⟨_, _, _, list, _, _, _⟩ := final
    rw [FunctionDef.rename] at stays
    exact List.map_inj_left.mp (stays.trans (List.map_id _).symm) parameter there

include accounted blank nodup in
/-- A program without findings is well typed. -/
lemma wellTyped (none : analyzed.findings = []) : analyzed.WellTyped := by
  obtain ⟨code, coded⟩ := exists_coded accounted.grown
  have documented {region : Region} (mem : region ∈ program.root.regions false .empty) :=
    accounted.documented blank nodup coded mem
  obtain ⟨allowed, visited⟩ := accounted.clean none coded
  have sound : (program.root.setting code).Sound program.root.typeOrigins
      ⟨analyzed.state.types, analyzed.program.root.functions⟩ :=
    { grown := accounted.grown
      coded := coded
      injective := code.injective
      members := fun node layer found => by
        obtain ⟨region, mem, members⟩ := List.mem_filterMap.mp (mem_of_lookup_eq_some found)
        unfold Region.members at members
        split at members <;> cases members
        exact documented mem
      around := nofun
      returned := rfl }
  have fine : ∀ region ∈ program.root.regions false .empty, region.Fine
      ⟨analyzed.state.types, analyzed.program.root.functions⟩ (program.root.setting code).facts code :=
    fun region mem => ⟨allowed region mem, documented mem⟩
  have stays := accounted.clip_root blank
  rw [accounted.root code coded] at stays
  have wellTyped := blank.visited_wellTyped sound fine ⟨visited, stays⟩
  rw [Analyzed.WellTyped, accounted.root code coded]
  rw [accounted.root code coded] at wellTyped
  exact wellTyped

end Analyzed.Accounted

/-! ## Parsed programs -/

/-- A parsed program for which a fresh analysis reports nothing is well typed by the types that are recorded in
it. -/
theorem clean_analysis_well_typed {file : String} {tokens : List Token}
    (sameFile : ∀ token ∈ tokens, token.span.file = file)
    (clean : (analyze .initial (parse tokens).program).diagnostics = []) :
    (analyze .initial (parse tokens).program).WellTyped := by
  obtain ⟨pieces, nodup⟩ := parse_fit tokens
  obtain ⟨file, inFile⟩ := file_of_fromTokens sameFile
  have accounted := analyze_accounts inFile (parse tokens).program nodup pieces
  exact accounted.wellTyped (parse_blank tokens) nodup (List.map_eq_nil_iff.mp clean)

/-- A function, a call that comes before it, an array and an assignment. -/
theorem clean_analysis_well_typed_call :
    let tokens := (Token.scan "a"
      "x: int[] -> new [f(2)]\nfunction f(n: int): int \x7b\n  return n + 1\n\x7d\nx[0] -> f(x[1])\n").tokens
    let analyzed := analyze .initial (parse tokens).program
    (∀ token ∈ tokens, token.span.file = "a") ∧ analyzed.diagnostics = [] ∧ analyzed.WellTyped := by
  intro tokens analyzed
  have same : ∀ token ∈ tokens, token.span.file = "a" := fun _ => Token.file_of_mem_scan
  have clean : analyzed.diagnostics = [] := by decide +kernel
  exact ⟨same, clean, clean_analysis_well_typed same clean⟩

end Analysis

end ArrowScript
