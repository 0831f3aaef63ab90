import ArrowScript.Proofs.Analysis.VisitingStatements
import ArrowScript.Proofs.Grammar.CleanParse

/-!
# Analysis of parsed programs

A parsed program carries handles that are all different, spans that lie in one file, and unbound names that
are words. That is what declaring and visiting ask for, so a fresh analysis of a parsed program ends without
a fault, whatever was reported on the way, and nothing stays open (`Settled`). Names are resolved by lexical
scoping: each is bound to what the rule says of the analyzed tree.
-/

namespace ArrowScript.Analysis
open Token Grammar

variable {P : Piece → Prop} {t : State} {file : String}

/-! ## A fresh analysis -/

/-- The members of types, when a block is the first thing that is declared after the built-in types. -/
def memberTable (root : Block) : List (Option Owner) :=
  List.replicate 6 none ++ root.registrations false 6

/-- All types that are registered at first are built-in types. -/
lemma kind?_initial (type : TypeId) :
    TypeRegistry.initial.kind? type = none ∨ TypeRegistry.initial.kind? type = some .builtin := by
  have builtin : ∀ info ∈ TypeRegistry.initial.entries.toList, info.kind = .builtin := by decide
  unfold TypeRegistry.kind? TypeRegistry.info?
  cases e : TypeRegistry.initial.entries[type.index]? with
  | none => exact .inl rfl
  | some info =>
    have mem := Array.mem_toList_iff.mpr (Array.mem_of_getElem? e)
    exact .inr (congrArg some (builtin info mem))

/-- In the state in which nothing is known, all types that scopes and arrays know of are registered. -/
lemma typesKnown_initial : TypesKnown .initial where
  symbols := fun _ _ get => by cases get
  elements := fun type element array => by
    have array : TypeRegistry.initial.element? type = some element := array
    unfold TypeRegistry.element? at array
    rcases kind?_initial type with e | e <;> rw [e] at array <;> cases array

/-- What a root declares is where the members of types are looked up. -/
lemma homes_declared {root : Block} {laid : State → Prop}
    (h : Declares P none .initial t root.ids .empty (root.registrations false 6) laid) :
    Homes P (memberTable root) t := by
  intro type
  have builtins : State.initial.types.size = 6 := rfl
  -- The six built-in types are no definitions; all others were registered by the program.
  rcases Nat.lt_or_ge type.index 6 with old | new
  · have member : (memberTable root)[type.index]? = some none := by
      rw [memberTable, List.getElem?_append_left (by simpa using old), List.getElem?_replicate,
        if_pos old]
    rw [member]
    show t.types.userNode? type = none
    have initial : TypeRegistry.initial.userNode? type = none := by
      unfold TypeRegistry.userNode?
      rcases kind?_initial type with e | e <;> rw [e]
    unfold TypeRegistry.userNode? TypeRegistry.kind? at initial ⊢
    rw [h.oldTypes type old]
    exact initial
  · have member : (memberTable root)[type.index]? = (root.registrations false 6)[type.index - 6]? := by
      rw [memberTable, List.getElem?_append_right (by simpa using new), List.length_replicate]
    rw [member]
    have place : type = ⟨State.initial.types.size + (type.index - 6)⟩ := by
      rw [builtins, Nat.add_sub_cancel' new]
    cases e : (root.registrations false 6)[type.index - 6]? with
    | some members =>
      rw [place]
      exact h.housed t (.refl _ _ _) _ members e
    | none =>
      have beyond : t.types.size ≤ type.index := by
        have := List.getElem?_eq_none_iff.mp e
        have := h.types
        omega
      show t.types.userNode? type = none
      have none : t.types.info? type = none := Array.getElem?_eq_none beyond
      unfold TypeRegistry.userNode? TypeRegistry.kind?
      rw [none]
      rfl

/-- After a root was declared in a fresh state, it may be visited. -/
lemma visiting_declared {root : Block} {laid : State → Prop}
    (h : Declares P none .initial t root.ids .empty (root.registrations false 6) laid) :
    Visiting P (memberTable root) t.scopes t none [] where
  sound := by
    obtain ⟨inferred, declared⟩ := Prod.mk.inj h.typesFound
    refine ⟨?_, h.known typesKnown_initial, ?_, ?_⟩
    · rw [h.types]
      exact Nat.le_add_right 6 _
    · rw [declared]
      exact nofun
    · rw [inferred]
      exact nofun
  table := rfl
  homes := homes_declared h
  active := by
    rw [h.frame.active]
    rfl
  around := .nowhere

/-- A fresh analysis of a block ends without a fault, nothing stays open, and names mean what the rule
says. -/
lemma runBlock_succeeds (sameFile : ∀ piece, P piece → piece.span.file = file) {root : Block}
    (nodup : root.ids.Nodup) (pieces : ∀ piece ∈ root.pieces, P piece) :
    Succeeds (runBlock root) .initial fun r t =>
      (t.active = [] ∧ t.functionDepth = 0 ∧ t.returnTypes = []) ∧
        (Exact P → ∀ w, Later t w → r.Scoped false 6 ⟨w, memberTable r, [], []⟩) := by
  have ready : Ready none false .initial root.ids := ⟨rfl, nofun, rfl, nodup, fun _ _ => rfl⟩
  refine .bind (.adapt ((declareBlock_succeeds root ready pieces).mono fun _ t declared => ?_))
  have visiting := visiting_declared declared
  have depth : decide (0 < t.functionDepth) = false := by
    rw [declared.frame.functionDepth]
    rfl
  have laid : root.Laid P t.scopes false 6 none := declared.laid t (.refl _ _ _)
  refine (visitBlock_succeeds sameFile root visiting depth laid pieces).mono fun r u visited => ?_
  obtain ⟨fills, same⟩ := visited
  have frame := declared.frame.trans fills.visits.frame
  refine ⟨⟨frame.active, frame.functionDepth, frame.returnTypes⟩, fun exact w later => ?_⟩
  have means := fills.means exact w later
  obtain ⟨inferred, -⟩ := Prod.mk.inj declared.typesFound
  rw [inferred] at means
  rw [memberTable, same]
  exact means

/-- An analysis that ended without a fault and left nothing open. -/
structure Analyzed.Settled (analyzed : Analyzed) : Prop where
  fault : analyzed.fault? = none
  active : analyzed.state.active = []
  functionDepth : analyzed.state.functionDepth = 0
  returnTypes : analyzed.state.returnTypes = []

/-- The names in a program that was the first to be analyzed mean what the rule says. -/
def Analyzed.Lexical (analyzed : Analyzed) : Prop :=
  let root := analyzed.program.root
  root.Scoped false 6 ⟨analyzed.state, memberTable root, [], []⟩

/-- A fresh analysis of a program settles, and names mean what the rule says. -/
lemma analyze_settles (sameFile : ∀ piece, P piece → piece.span.file = file) (program : Program)
    (nodup : program.root.ids.Nodup) (pieces : ∀ piece ∈ program.root.pieces, P piece) :
    (analyze .initial program).Settled ∧ (Exact P → (analyze .initial program).Lexical) := by
  obtain ⟨root, t, ran, frame, means⟩ := runBlock_succeeds sameFile nodup pieces
  have e : analyze .initial program = finish program root none t := by rw [analyze, ran]
  rw [e]
  refine ⟨⟨rfl, frame.1, frame.2.1, frame.2.2⟩, fun exact => ?_⟩
  exact means exact _ ((Later.refl _).same rfl rfl)

/-! ## Parsed programs -/

/-- A parsed program has pieces from its tokens, and handles that are all different. -/
lemma parse_fit (tokens : List Token) :
    (∀ piece ∈ (parse tokens).program.root.pieces,
      FromTokens ((Cursor.onFirst tokens).skip .insensitive) piece) ∧
      (parse tokens).program.root.ids.Nodup := by
  obtain ⟨s, t, pieces, start, -, -, -, written, reads, -⟩ := parse_reads tokens
  refine ⟨fun piece mem => ?_, ?_⟩
  · rw [← start]
    exact reads.fromTokens piece (written.perm.symm.subset mem)
  · exact reads.nodes.symm.nodup (nodup_handles _ _)

/-- The tokens that are parsed are among the given ones. -/
lemma pending_onFirst (tokens : List Token) :
    ((Cursor.onFirst tokens).skip .insensitive).pending ⊆ tokens := by
  refine List.Subset.trans (List.dropWhile_suffix _).subset ?_
  unfold Cursor.onFirst
  split
  · split
    · exact List.dropLast_subset _
    · exact List.Subset.refl _
  · exact List.nil_subset _

/-- Pieces from tokens of one file lie in one file. -/
lemma file_of_fromTokens {tokens : List Token} (same : ∀ token ∈ tokens, token.span.file = file) :
    ∃ file, ∀ piece, FromTokens ((Cursor.onFirst tokens).skip .insensitive) piece →
      piece.span.file = file := by
  have pending := pending_onFirst tokens
  -- Without any token all pieces are of the end of file, which stands for a file without a name.
  by_cases empty : tokens = []
  · subst empty
    refine ⟨"", fun piece h => ?_⟩
    cases piece with
    | link identifier =>
      obtain ⟨token, mem, -⟩ := h
      cases pending mem
    | leaf span | mark span =>
      obtain rfl | ⟨token, mem, -⟩ := h
      · rfl
      · cases pending mem
  · have closing : (Cursor.onFirst tokens).closing.file = file := by
      have last := same _ (List.getLast_mem empty)
      rw [Cursor.onFirst, List.getLast?_eq_some_getLast empty]
      simp only
      split <;> exact last
    refine ⟨file, fun piece h => ?_⟩
    cases piece with
    | link identifier =>
      obtain ⟨token, mem, -, rfl⟩ := h
      exact same token (pending mem)
    | leaf span | mark span =>
      obtain rfl | ⟨token, mem, rfl⟩ := h
      · exact closing
      · exact same token (pending mem)

/-- Names and built-in types can be the names of links. -/
lemma isLinkName_iff {kind : Kind} : isLinkName kind ↔ kind = .identifier ∨ kind = .builtinType := by
  cases kind <;> simp [isLinkName]

/-- The names in a parsed source are unbound words, and the declared ones are unmangled. -/
lemma exact_scan (file source : String) :
    Exact (FromTokens ((Cursor.onFirst (scan file source).tokens).skip .insensitive)) where
  link := by
    rintro identifier ⟨token, mem, name, rfl⟩
    exact ⟨rfl, isWord_of_mem_scan (pending_onFirst _ mem) (isLinkName_iff.mp name)⟩
  leaf := by
    rintro span (rfl | ⟨token, mem, rfl⟩)
    · obtain ⟨body, last, e, kind, -⟩ := endsOnce_scan file source
      rw [e, onFirst_append kind]
      exact unmangled_of_mem_scan (e ▸ List.mem_append_right _ List.mem_cons_self)
    · exact unmangled_of_mem_scan (pending_onFirst _ mem)

/-- A fresh analysis of tokens of one file settles. -/
lemma parse_settles {tokens : List Token} (same : ∀ token ∈ tokens, token.span.file = file) :
    (analyze .initial (parse tokens).program).Settled := by
  obtain ⟨file, sameFile⟩ := file_of_fromTokens same
  obtain ⟨pieces, nodup⟩ := parse_fit tokens
  exact (analyze_settles sameFile _ nodup pieces).1

/-- Whatever the source is and whatever is wrong with it, a fresh analysis of the parsed tokens ends without
a fault and leaves nothing open. The same holds for all tokens that carry one file path. -/
theorem analysis_settles :
    (∀ file source, (analyze .initial (parse (scan file source).tokens).program).Settled) ∧
    ∀ file tokens, (∀ token ∈ tokens, token.span.file = file) →
      (analyze .initial (parse tokens).program).Settled :=
  ⟨fun _ _ => parse_settles fun _ => file_of_mem_scan, fun _ _ => parse_settles⟩

/-- A type with a field and a function, and chains with indices and a call, where an index, a statement and a call break
off. All scopes are recorded, and arrays, calls and members are looked into. -/
theorem analysis_settles_broken :
    let tokens := (scan "a" ("type L<T> \x7b\nv: T[] -> new T[0\nfunction at(i: int): T \x7b\nreturn v[i].n ->\n" ++
      "\x7d\n\x7d\nl: L<int> -> new L<int>()\nl.v[true] -> l.at(1, 2\n")).tokens
    let analyzed := analyze .initial (parse tokens).program
    (∀ token ∈ tokens, token.span.file = "a") ∧
      ((parse tokens).diagnostics.map Diagnostic.message = ["Indexor is missing ].",
          "Statements must end with a new line.", "Invalid statement.", "Function call is missing )."] ∧
        analyzed.diagnostics.map Diagnostic.message = ["Missing variable n on type T.",
          "Index must be int but found bool.", "Function at expects 1 argument(s) but got 2."] ∧
        analyzed.state.scopes.size = 4) ∧
      analyzed.Settled := by
  intro tokens analyzed
  have same : ∀ token ∈ tokens, token.span.file = "a" := fun _ => file_of_mem_scan
  exact ⟨same, by decide +kernel, analysis_settles.2 "a" tokens same⟩

/-- Name resolution is lexical scoping: in every source, each name that the analysis reaches is bound to
exactly what the rule says of the analyzed tree. -/
theorem names_resolve_lexically (file source : String) :
    (analyze .initial (parse (scan file source).tokens).program).Lexical := by
  obtain ⟨file', sameFile⟩ := file_of_fromTokens
    fun token (mem : token ∈ (scan file source).tokens) => file_of_mem_scan mem
  obtain ⟨pieces, nodup⟩ := parse_fit (scan file source).tokens
  exact (analyze_settles sameFile _ nodup pieces).2 (exact_scan file source)

end ArrowScript.Analysis
