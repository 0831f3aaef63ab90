import ArrowScript.Proofs.Analysis.HindsightPrograms

/-!
# Types that are resolved once

The type of a declaration is looked up at its first use, wherever that is, and kept for the others. What is kept
is nevertheless what looking it up from the place of the declaration gives in the end, all uses have that type,
and a name that is not found is reported once, in words that tell it (`declared_types_resolve_once`).
-/

namespace ArrowScript
open Analysis Grammar

/-! ## Names of types -/

mutual

/-- The names in a written type are those of types. -/
lemma TypeRef.what_of_mem_unresolved : ∀ {written : TypeRef}, ∀ name ∈ written.unresolved, name.what = .type
  | ⟨name, _, arguments, _, binding⟩, sought, mem => by
    rw [TypeRef.unresolved] at mem
    rcases List.mem_append.mp mem with own | inner
    · split at own
      · rw [List.mem_singleton.mp own]
        rfl
      · cases own
    · exact what_of_mem_typesUnresolved sought inner

lemma what_of_mem_typesUnresolved : ∀ {list : List TypeRef}, ∀ name ∈ typesUnresolved list, name.what = .type
  | [], _, mem => by cases mem
  | written :: rest, sought, mem => by
    rw [typesUnresolved] at mem
    rcases List.mem_append.mp mem with own | others
    · exact TypeRef.what_of_mem_unresolved sought own
    · exact what_of_mem_typesUnresolved sought others

end

namespace Analysis

/-- All names in ascriptions are those of types. -/
lemma typesAmong_ascriptions (ascriptions : List Ascription) :
    typesAmong (ascriptions.flatMap Ascription.unresolved) = ascriptions.flatMap Ascription.unresolved := by
  refine List.filter_eq_self.mpr fun name mem => decide_eq_true ?_
  obtain ⟨ascription, -, there⟩ := List.mem_flatMap.mp mem
  rw [Ascription.unresolved] at there
  cases e : ascription.written with
  | none =>
    rw [e] at there
    cases there
  | some written =>
    rw [e] at there
    exact TypeRef.what_of_mem_unresolved name there

/-! ## Programs -/

/-- Declared types are resolved once, where they are written. -/
structure Analyzed.ResolvesOnce (analyzed : Analyzed) : Prop where
  nodes : (analyzed.ascriptions.map Ascription.node).Nodup
  /-- A declared type is bound to what is found from the scope that the declaration stands in. -/
  resolved : ∀ ascription ∈ analyzed.ascriptions, ∀ written ∈ ascription.written, ∃ scope,
    analyzed.state.scopes.scopeOf? ascription.owner = some scope ∧ written.Resolved analyzed.state scope
  /-- Links have the types that are written for what they are bound to. -/
  settled : ∀ encounter ∈ analyzed.encounters, encounter.Settled
  /-- Names of types are reported once for each place where they are written but not found. -/
  reported : (typesAmong analyzed.unfound).Perm (analyzed.ascriptions.flatMap Ascription.unresolved ++
    typesAmong (analyzed.encounters.flatMap Encounter.unfound))
  /-- The diagnostics that types cannot be found say so of these names, where they are written. -/
  shown : (analyzed.missingDiagnostics [.type]).Perm ((analyzed.ascriptions.flatMap Ascription.unresolved ++
    typesAmong (analyzed.encounters.flatMap Encounter.unfound)).map Unfound.diagnostic)

/-- In every parsed program declared types are resolved once, where they are written, whatever the order of their
uses. -/
theorem declared_types_resolve_once {file : String} {tokens : List Token}
    (sameFile : ∀ token ∈ tokens, token.span.file = file) :
    (analyze .initial (parse tokens).program).ResolvesOnce := by
  have nodup := (parse_fit tokens).2
  have ends := parse_ends sameFile
  have blank := parse_blank tokens
  have brackets := parse_bracketed tokens
  obtain ⟨code, coded⟩ := exists_coded ends.accounted.grown
  have reported := (ends.unfound blank nodup brackets).filter (·.what = .type)
  rw [List.filter_append] at reported
  change (typesAmong _).Perm (typesAmong _ ++ typesAmong _) at reported
  rw [typesAmong_ascriptions] at reported
  exact
    { nodes := (ends.ascribed coded ⟨(parse tokens).program.root.id, .empty⟩).nodes.nodup nodup
      resolved := fun _ mem _ there => ends.resolved blank mem there
      settled := (ends.tells blank nodup brackets coded).settled
      reported
      shown := by
        rw [Analyzed.missingDiagnostics_eq]
        simp only [List.mem_singleton]
        exact reported.map Unfound.diagnostic }

/-- Variables that are used before they are declared, with types that are not found. -/
theorem declared_types_resolve_once_unknown :
    let tokens := (Token.scan "a"
      "f(x[0], y)\nx: T[]\ny: List<T>\nf(y, x)\nfunction f(a: int, b: int) \x7b\n\x7d\n").tokens
    let analyzed := analyze .initial (parse tokens).program
    (∀ token ∈ tokens, token.span.file = "a") ∧
      ((analyzed.missingDiagnostics [.type]).map fun shown => (shown.message, shown.span.locus)) =
        [("Cannot find type T.", "a:(2,4)"), ("Cannot find type List.", "a:(3,4)"),
          ("Cannot find type T.", "a:(3,9)")] ∧
      analyzed.ResolvesOnce := by
  intro tokens analyzed
  have same : ∀ token ∈ tokens, token.span.file = "a" := fun _ => Token.file_of_mem_scan
  exact ⟨same, by decide +kernel, declared_types_resolve_once same⟩

end Analysis

end ArrowScript
