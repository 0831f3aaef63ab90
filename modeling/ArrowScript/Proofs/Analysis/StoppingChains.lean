import ArrowScript.Proofs.Analysis.HindsightPrograms

/-!
# Chains that stop

Links are visited from left to right, and a link of which no type is known is the last one. So the visit of a
chain does not depend on what comes behind an unbound link (`Stops`), wherever the chain stands. In an analyzed
program the bound links of every chain come first, and the names that are reported as not found are those of the
unbound links that are reached, each in the words for a missing type, function, variable or member
(`unbound_links_stop_chains`).
-/

namespace ArrowScript.Analysis
open Grammar

variable {s t : State} {owner : Option TypeId}

/-! ## Links with a type -/

/-- A variable with a type is bound. -/
lemma bindVariable_binds (owner : Option TypeId) (identifier : Identifier) :
    Yields (bindVariable owner identifier) s fun r _ => r.2.isSome → r.1.binding.isSome := by
  refine .bind (.askFor fun found _ => ?_)
  cases found with
  | some symbol => exact .bind fun _ _ _ => .pure fun _ => rfl
  | none => exact .bind fun _ _ _ => .pure nofun

/-- A called function with a type is bound. -/
lemma bindFunction_binds (owner : Option TypeId) (arity : Nat) (arguments : List (Option TypeId × Span))
    (identifier : Identifier) :
    Yields (bindFunction owner arity arguments identifier) s fun r _ => r.2.isSome → r.1.binding.isSome := by
  refine .bind (.askFor fun found _ => ?_)
  cases found with
  | some symbol => exact .bind fun _ _ _ => .bind fun _ _ _ => .pure fun _ => rfl
  | none => exact .bind fun _ _ _ => .pure nofun

/-- The name of a new value with a type is bound. -/
lemma bindConstructed_binds (arity : Nat) (identifier : Identifier) :
    Yields (bindConstructed arity identifier) s fun r _ => r.2.isSome → r.1.binding.isSome := by
  refine .bind (.askFor fun scope _ => .bind (.get ?_))
  cases constructedType? s scope identifier.name arity with
  | some type => exact .pure fun _ => rfl
  | none => exact .bind fun _ _ _ => .pure nofun

/-- A link with a type is bound. -/
lemma visitLink_binds (owner : Option TypeId) (link : Link) :
    Yields (visitLink owner link) s fun r _ => r.2.isSome → r.1.isBound := by
  cases link with
  | name identifier =>
    rw [visitLink]
    exact .bind (.within ((bindVariable_binds owner identifier).mono fun r t binds => .pure binds))
  | index identifier index close =>
    rw [visitLink]
    refine .bind fun _ _ _ => .bind fun _ _ _ => .bind (.within ((bindVariable_binds owner identifier).mono
      fun r t binds => .bind (.get (.pure ?_))))
    rw [Option.isSome_map]
    exact binds
  | call identifier written arguments close =>
    rw [visitLink]
    exact .bind fun _ _ _ => .bind fun _ _ _ => .bind (.within ((bindFunction_binds owner _ _ identifier).mono
      fun r t binds => .pure binds))

/-- A link behind `new` with a type is bound. -/
lemma visitMade_binds (link : Link) : Yields (visitMade link) s fun r _ => r.2.isSome → r.1.isBound := by
  cases link with
  | name identifier =>
    rw [visitMade]
    exact .pure nofun
  | index identifier index close =>
    rw [visitMade]
    refine .bind fun _ _ _ => .bind fun _ _ _ => .bind (.within ((bindConstructed_binds 0 identifier).mono
      fun r t binds => ?_))
    obtain ⟨identifier, type⟩ := r
    cases type with
    | some type => exact .bind fun _ _ _ => .pure fun _ => binds rfl
    | none => exact .pure nofun
  | call identifier written arguments close =>
    rw [visitMade]
    exact .bind fun _ _ _ => .bind fun _ _ _ => .bind (.within ((bindConstructed_binds _ identifier).mono
      fun r t binds => .pure binds))

/-- Some links with a last type are bound. -/
lemma visitLinks_binds (links : List Link) :
    Yields (visitLinks owner links) s fun r _ => r.2.isSome → ∀ link ∈ r.1, link.isBound := by
  induction links generalizing owner s with
  | nil =>
    rw [visitLinks]
    exact .pure fun _ => nofun
  | cons link rest ih =>
    rw [visitLinks]
    refine .bind (.within ((visitLink_binds owner link).mono fun r t binds => ?_))
    obtain ⟨link, type⟩ := r
    cases type with
    | none => exact .pure nofun
    | some owner => exact .bind (.within (ih.mono fun r t others => .pure fun known =>
        List.forall_mem_cons.mpr ⟨binds rfl, others known⟩))

/-! ## Links behind an unknown type -/

/-- A sequence goes on with what its first action gives. -/
lemma run_bind {ε α β : Type} {action : EStateM ε State α} {a : α} (ran : action s = .ok a t)
    (next : α → EStateM ε State β) : (action >>= next) s = next a t := by
  show EStateM.bind action next s = _
  rw [EStateM.bind, ran]

/-- Work on a part gives what the work gives. -/
lemma run_within {ν μ α : Type} {place : ν → μ} {visit : Visit ν α} {a : α} (ran : visit s = .ok a t) :
    within place visit s = .ok a t := by
  rw [within, EStateM.adaptExcept, ran]

/-- Behind links of which the last has no known type further ones are left alone. -/
lemma visitLinks_append {links : List Link} (rest : List Link) (starts : links = [] → owner.isSome) :
    Yields (visitLinks owner links) s fun r t => r.2 = none →
      visitLinks owner (links ++ rest) s = .ok (r.1 ++ rest, none) t := by
  induction links generalizing owner s with
  | nil =>
    rw [visitLinks]
    refine .pure fun unknown : owner = none => ?_
    rw [unknown] at starts
    cases starts rfl
  | cons link others ih =>
    rw [visitLinks, List.cons_append, visitLinks]
    refine .bind (.within fun r u first => ?_)
    rw [run_bind (run_within first)]
    obtain ⟨link, type⟩ := r
    cases type with
    | none => exact .pure fun _ => rfl
    | some owner =>
      refine .bind (.within ((ih fun _ => rfl).mono fun r t goes => .pure fun unknown => ?_))
      exact run_bind (run_within (goes unknown)) _

/-- Visiting chains of a kind stops at the first unbound link: what comes behind is left as it is, and nothing
is reported for it. -/
def Stops (visit : Chain → Visit Chain (Chain × Option TypeId)) : Prop :=
  ∀ links span type s, Yields (visit ⟨links, span, type⟩) s fun r t => (∃ link ∈ r.1.links, link.isBound = false) →
    ∀ rest, visit ⟨links ++ rest, span, type⟩ s = .ok (⟨r.1.links ++ rest, span, none⟩, none) t

/-- No type is known behind an unbound link. -/
lemma eq_none_of_unbound {links : List Link} {type : Option TypeId}
    (binds : type.isSome → ∀ link ∈ links, link.isBound) (unbound : ∃ link ∈ links, link.isBound = false) :
    type = none := by
  obtain ⟨link, mem, free⟩ := unbound
  cases type with
  | none => rfl
  | some known => exact absurd ((binds rfl link mem).symm.trans free) Bool.noConfusion

/-- Visiting a chain stops at the first unbound link. -/
lemma visitChain_stops : Stops visitChain := by
  intro links span type s
  rw [visitChain]
  refine .bind (.within fun r t first => .pure fun unbound rest => ?_)
  have unknown := eq_none_of_unbound (visitLinks_binds links r t first) unbound
  have starts : links = [] → (none : Option TypeId).isSome := by
    rintro rfl
    rw [visitLinks] at first
    cases first
    obtain ⟨_, ⟨⟩, _⟩ := unbound
  rw [visitChain]
  exact run_bind (run_within (visitLinks_append rest starts r t first unknown)) _

/-- Visiting a chain behind `new` stops at the first unbound link. -/
lemma visitNew_stops : Stops visitNew := by
  rintro (_ | ⟨first, links⟩) span type s
  · rw [visitNew]
    exact .pure fun ⟨_, mem, _⟩ => by cases mem
  · rw [visitNew]
    refine .bind (.within fun r u ran => ?_)
    obtain ⟨made, type⟩ := r
    cases type with
    | none =>
      refine .pure fun _ rest => ?_
      rw [List.cons_append, visitNew]
      exact run_bind (run_within ran) _
    | some owner =>
      refine .bind (.within fun r t ran' => .pure fun unbound rest => ?_)
      have bound : made.isBound := visitMade_binds first _ u ran rfl
      have unknown := eq_none_of_unbound
        (fun known => List.forall_mem_cons.mpr ⟨bound, visitLinks_binds links r t ran' known⟩) unbound
      rw [List.cons_append, visitNew, run_bind (run_within ran)]
      exact run_bind (run_within (visitLinks_append rest (fun _ => rfl) r t ran' unknown)) _

/-! ## Programs -/

/-- An unbound link ends its chain, and only names that are looked up are reported as not found. -/
structure Analyzed.StopsChains (analyzed : Analyzed) : Prop where
  /-- The bound links of a chain come first, and all are bound if its type is known. -/
  halts : ∀ encounter ∈ analyzed.encounters, encounter.Halts
  /-- Links are looked up as far as the types of those before them are known. -/
  reaches : ∀ encounter ∈ analyzed.encounters, encounter.Reaches analyzed.encounters
  /-- Each name that is looked up but not found is reported once, and no other. -/
  reported : analyzed.unfound.Perm
    (analyzed.ascriptions.flatMap Ascription.unresolved ++ analyzed.encounters.flatMap Encounter.unfound)
  /-- The diagnostics that something cannot be found or is missing say so of these names. -/
  shown : (analyzed.missingDiagnostics [.type, .function, .variable]).Perm
    ((analyzed.ascriptions.flatMap Ascription.unresolved ++
      analyzed.encounters.flatMap Encounter.unfound).map Unfound.diagnostic)

/-- In every parsed program an unbound link ends its chain and is reported once. Wherever a chain is visited,
nothing happens to what comes behind an unbound link. -/
theorem unbound_links_stop_chains {file : String} {tokens : List Token}
    (sameFile : ∀ token ∈ tokens, token.span.file = file) :
    (analyze .initial (parse tokens).program).StopsChains ∧ Stops visitChain ∧ Stops visitNew := by
  have nodup := (parse_fit tokens).2
  have ends := parse_ends sameFile
  have blank := parse_blank tokens
  have brackets := parse_bracketed tokens
  obtain ⟨code, coded⟩ := exists_coded ends.accounted.grown
  have tells := ends.tells blank nodup brackets coded
  have reported := ends.unfound blank nodup brackets
  have everyKind : ∀ kind : Declared, kind ∈ [Declared.type, .function, .variable] := by
    intro kind
    cases kind <;> decide
  refine ⟨⟨tells.halts, tells.reaches, reported, ?_⟩, visitChain_stops, visitNew_stops⟩
  rw [Analyzed.missingDiagnostics_eq, List.filter_eq_self.mpr fun name _ => decide_eq_true (everyKind name.what)]
  exact reported.map Unfound.diagnostic

/-- Chains that end at a member, a variable and a type, with names behind that are not looked up. -/
theorem unbound_links_stop_chains_member :
    let tokens := (Token.scan "a"
      "n: int\nf(n.g(h(1)).k(m), o[p].q)\nr: int -> new S(u).v\n").tokens
    let analyzed := analyze .initial (parse tokens).program
    (∀ token ∈ tokens, token.span.file = "a") ∧
      (analyzed.missingDiagnostics [.type, .function, .variable]).map Diagnostic.message =
        ["Missing function h.", "Missing function g on type int.", "Missing variable p.", "Missing variable o.",
          "Missing function f.", "Missing variable u.", "Cannot find type S."] ∧
        analyzed.StopsChains ∧ Stops visitChain ∧ Stops visitNew := by
  intro tokens analyzed
  have same : ∀ token ∈ tokens, token.span.file = "a" := fun _ => Token.file_of_mem_scan
  exact ⟨same, by decide +kernel, unbound_links_stop_chains same⟩

end ArrowScript.Analysis
