import ArrowScript.Proofs.Analysis.HindsightNames
import ArrowScript.Proofs.Grammar.NewValues

/-!
# Expressions in hindsight

What is encountered in the account of an expression is settled, an unbound link ends its chain there, and the
names that are not found are those that were reported, in the same order (`Expr.Blank.tells`).
-/

namespace ArrowScript
open Analysis Grammar

variable {origins : List Origin} {table : ScopeTable} {setting : Setting} {scope : ScopeId} {view : Hindsight}
  {registry : TypeRegistry}

/-! ## What reports tell -/

namespace Analysis

/-- More is reached among more encounters. -/
lemma Encounter.Reaches.mono {encounters more : List Encounter} {encounter : Encounter}
    (h : encounter.Reaches encounters) (sub : encounters ⊆ more) : encounter.Reaches more := by
  cases encounter with
  | chain view path => exact fun before next after e known => sub (h before next after e known)
  | new view path =>
    intro first rest e
    obtain ⟨made, others⟩ := h first rest e
    exact ⟨sub made, fun before next after e known => sub (others before next after e known)⟩
  | link | made => trivial

/-- The names that are reported as not found are those of some encounters, which are settled and end where they
should. The names of types are those in a registry. -/
structure Tells (registry : TypeRegistry) (problems : List (Finding SemanticProblem)) (encounters : List Encounter) :
    Prop where
  settled : ∀ encounter ∈ encounters, encounter.Settled
  halts : ∀ encounter ∈ encounters, encounter.Halts
  reaches : ∀ encounter ∈ encounters, encounter.Reaches encounters
  unfound : problems.filterMap (unfound? registry) = encounters.flatMap Encounter.unfound

namespace Tells

variable {problems more : List (Finding SemanticProblem)} {encounters others : List Encounter}

/-- Nothing is reported and nothing encountered. -/
lemma nothing : Tells registry [] [] :=
  ⟨nofun, nofun, nofun, rfl⟩

/-- One part behind another. -/
lemma append (h : Tells registry problems encounters) (g : Tells registry more others) :
    Tells registry (problems ++ more) (encounters ++ others) where
  settled := List.forall_mem_append.mpr ⟨h.settled, g.settled⟩
  halts := List.forall_mem_append.mpr ⟨h.halts, g.halts⟩
  reaches := List.forall_mem_append.mpr
    ⟨fun encounter mem => (h.reaches encounter mem).mono (List.subset_append_left _ _),
      fun encounter mem => (g.reaches encounter mem).mono (List.subset_append_right _ _)⟩
  unfound := by rw [List.filterMap_append, List.flatMap_append, h.unfound, g.unfound]

/-- Other problems tell nothing of names. -/
lemma quiet (h : Tells registry problems encounters) (other : more.filterMap (unfound? registry) = []) :
    Tells registry (problems ++ more) encounters :=
  { h with unfound := by rw [List.filterMap_append, other, List.append_nil, h.unfound] }

/-- A chain is encountered before what is in it. -/
lemma before (h : Tells registry problems encounters) {encounter : Encounter} (settled : encounter.Settled)
    (halts : encounter.Halts) (reaches : encounter.Reaches encounters) (silent : encounter.unfound = []) :
    Tells registry problems (encounter :: encounters) where
  settled := List.forall_mem_cons.mpr ⟨settled, h.settled⟩
  halts := List.forall_mem_cons.mpr ⟨halts, h.halts⟩
  reaches := List.forall_mem_cons.mpr ⟨reaches.mono (List.subset_cons_self _ _),
    fun encounter mem => (h.reaches encounter mem).mono (List.subset_cons_self _ _)⟩
  unfound := by rw [List.flatMap_cons, silent, List.nil_append, h.unfound]

/-- A link is encountered on its own. -/
lemma single {encounter : Encounter} (settled : encounter.Settled) (halts : encounter.Halts)
    (reaches : encounter.Reaches [encounter]) (unfound : problems.filterMap (unfound? registry) = encounter.unfound) :
    Tells registry problems [encounter] where
  settled := List.forall_mem_singleton.mpr settled
  halts := List.forall_mem_singleton.mpr halts
  reaches := List.forall_mem_singleton.mpr reaches
  unfound := by rw [unfound, List.flatMap_singleton]

end Tells

/-- A link is encountered if the types of the links before it are known. -/
lemma mem_linksEncounters {next : Link} {after : List Link} : ∀ {before : List Link} {owner : Option TypeId},
    before = [] ∨ (linksType view owner before).isSome →
      .link view (linksType view owner before) next ∈ linksEncounters view owner (before ++ next :: after)
  | [], owner, _ => by
    rw [List.nil_append, linksEncounters, linksType]
    exact List.mem_append_right _ List.mem_cons_self
  | link :: before, owner, known => by
    replace known := known.resolve_left (List.cons_ne_nil _ _)
    rw [linksType] at known ⊢
    rw [List.cons_append, linksEncounters]
    refine List.mem_append_right _ (List.mem_cons_of_mem _ ?_)
    cases type : link.typeIn view with
    | none =>
      rw [type] at known
      cases known
    | some owner =>
      rw [type] at known
      exact mem_linksEncounters (.inr known)

/-- The links of a chain are encountered as far as the types of those before them are known. -/
lemma reaches_chain (links : List Link) (span : Span) (type : Option TypeId) :
    (Encounter.chain view ⟨links, span, type⟩).Reaches (linksEncounters view none links) := by
  rintro before next after e known
  obtain rfl : links = before ++ next :: after := e
  exact mem_linksEncounters known

/-- The links behind `new` are encountered as far as the types of those before them are known. -/
lemma reaches_new (view : Hindsight) (first : Link) (rest : List Link) (span : Span) (type : Option TypeId) :
    (Encounter.new view ⟨first :: rest, span, type⟩).Reaches (first.innerEncounters view ++ .made view first ::
      match first.madeIn view with
      | none => []
      | some owner => linksEncounters view (some owner) rest) := by
  rintro _ _ ⟨⟩
  refine ⟨List.mem_append_right _ List.mem_cons_self, ?_⟩
  rintro before next after rfl known
  refine List.mem_append_right _ (List.mem_cons_of_mem _ ?_)
  rw [newType] at known ⊢
  cases made : first.madeIn view with
  | none =>
    rw [made] at known
    cases known
  | some owner =>
    rw [made] at known
    exact mem_linksEncounters (.inr known)

end Analysis

/-! ## Chains that end at an unbound link -/

/-- An unbound name belongs to a blank link. -/
lemma Link.Blank.unbound {link : Link} (blank : link.Blank) : link.identifier.binding = none := by
  cases link with
  | name identifier => rwa [Link.Blank] at blank
  | index identifier index close =>
    rw [Link.Blank] at blank
    exact blank.1
  | call identifier written arguments close =>
    rw [Link.Blank] at blank
    exact blank.1

/-- If a last type is known some links are bound, and what comes behind an unbound link is blank. -/
structure LinksHalt (known : Bool) (links : List Link) : Prop where
  known : known → ∀ link ∈ links, link.isBound
  untouched : links.Pairwise fun link later => link.isBound = false → later.Blank

/-- If only blank links come behind an unbound one, the bound links come first. -/
lemma boundLinks_first {links : List Link}
    (untouched : links.Pairwise fun link later => link.isBound = false → later.Blank) :
    links.filter Link.isBound <+: links := by
  induction links with
  | nil => exact List.prefix_rfl
  | cons link rest ih =>
    obtain ⟨head, tail⟩ := List.pairwise_cons.mp untouched
    cases bound : link.isBound with
    | true =>
      rw [List.filter_cons_of_pos bound]
      exact List.cons_prefix_cons.mpr ⟨rfl, ih tail⟩
    | false =>
      have others : rest.filter Link.isBound = [] := by
        refine List.filter_eq_nil_iff.mpr fun later mem => ?_
        rw [Link.isBound, (head later mem bound).unbound]
        exact Bool.false_ne_true
      rw [List.filter_cons_of_neg (by rw [bound]; exact Bool.false_ne_true), others]
      exact List.nil_prefix

namespace LinksHalt

variable {known : Bool} {links : List Link} {link : Link}

/-- No links. -/
lemma nil : LinksHalt known [] :=
  ⟨nofun, .nil⟩

/-- No type is known behind a link that ends the chain. -/
lemma stop (link : Link) (blank : linksBlank links) : LinksHalt false (link :: links) := by
  have later := linksBlank_iff.mp blank
  refine ⟨nofun, List.pairwise_cons.mpr ⟨fun other mem _ => later other mem, ?_⟩⟩
  exact List.pairwise_of_forall_mem_list fun _ _ other mem _ => later other mem

/-- A bound link goes before. -/
lemma next (h : LinksHalt known links) (bound : link.isBound) : LinksHalt known (link :: links) where
  known := fun last => List.forall_mem_cons.mpr ⟨bound, h.known last⟩
  untouched := List.pairwise_cons.mpr
    ⟨fun _ _ unbound => absurd (bound.symm.trans unbound) Bool.noConfusion, h.untouched⟩

/-- The links of a chain. -/
lemma chain {type : Option TypeId} (h : LinksHalt type.isSome links) (span : Span) :
    Chain.Halts ⟨links, span, type⟩ :=
  ⟨boundLinks_first h.untouched, h.known, h.untouched⟩

end LinksHalt

/-- A link with a name that is bound to something with a type is bound. -/
lemma Link.isBound_of_boundType {link : Link} (known : link.boundType view ≠ none) : link.isBound := by
  rw [Link.isBound, Option.isSome_iff_ne_none]
  exact fun none => known (by rw [Link.boundType, none]; rfl)

/-- A link with a type is bound. -/
lemma Link.isBound_of_typeIn {link : Link} {type : TypeId} (known : link.typeIn view = some type) :
    link.isBound := by
  refine Link.isBound_of_boundType fun none : link.boundType view = none => ?_
  cases link <;> simp [Link.typeIn, none] at known

/-- A link behind `new` with a type is bound. -/
lemma Link.isBound_of_madeIn {link : Link} {type : TypeId} (known : link.madeIn view = some type) :
    link.isBound := by
  refine Link.isBound_of_boundType fun none : link.boundType view = none => ?_
  cases link <;> simp [Link.madeIn, none] at known

/-! ## Expressions -/

/-- Something behind nothing known is not known. -/
lemma Analysis.Owned.eq_none {registry : TypeRegistry} {type : Option TypeId}
    (h : Owned origins registry type none) : type = none := by
  cases h with
  | typed typed =>
    cases typed
    rfl

/-- Something behind a known type is known. -/
lemma Analysis.Owned.exists_eq_some {registry : TypeRegistry} {type : Option TypeId} {form : Shape}
    (h : Owned origins registry type (some form)) : ∃ found, type = some found := by
  cases h with
  | typed typed =>
    cases typed
    exact ⟨_, rfl⟩
  | array => exact ⟨_, rfl⟩

/-- What an index asks of its type tells nothing of names. -/
lemma unfound_indexProblems (index : Expression) (shape : Option Shape) :
    (setting.indexProblems index shape).filterMap (unfound? registry) = [] := by
  unfold Setting.indexProblems
  split
  · split <;> rfl
  · rfl

/-- What an operation asks of its operands tells nothing of names. -/
lemma unfound_operandProblems (span : Span) (left right : Option Shape) :
    (setting.operandProblems span left right).filterMap (unfound? registry) = [] := by
  unfold Setting.operandProblems
  split
  · split <;> rfl
  · rfl

/-- What an assignment asks of its target tells nothing of names. -/
lemma unfound_targetProblems (operator : BinaryOperator) (target : Expr) :
    (targetProblems operator target).filterMap (unfound? registry) = [] := by
  unfold targetProblems
  split
  · split <;> rfl
  · rfl

/-- The type arguments of a call are resolved, and the unknown names in them are reported. -/
lemma resolved_judgeTypeArguments (shows : view.Shows origins table setting (some scope))
    {written : Option (List TypeRef)}
    (stays : (setting.judgeTypeArguments written).node.map (typesRename view.state.types.clip) =
      (setting.judgeTypeArguments written).node) :
    (∃ scope, view.state.scope = .ok scope ∧
        typesResolved view.state scope ((setting.judgeTypeArguments written).node.getD [])) ∧
      (setting.judgeTypeArguments written).problems.filterMap (unfound? registry) =
        typesUnresolved ((setting.judgeTypeArguments written).node.getD []) := by
  cases written with
  | none => exact ⟨⟨scope, scope_of_head? shows.located.innermost, trivial⟩, rfl⟩
  | some list =>
    refine ⟨shows.resolved_typeArguments list (Option.some.inj stays), ?_⟩
    show _ = typesUnresolved (list.map (TypeRef.bound setting.code setting.around))
    rw [← typesFilled_eq_map, typesUnresolved_filled]
    rfl

/-- There are as many type arguments as are written. -/
lemma shape_judgeTypeArguments (written : Option (List TypeRef)) :
    (setting.judgeTypeArguments written).node.elim 0 List.length = (setting.judgeTypeArguments written).shape := by
  cases written with
  | none => rfl
  | some list => exact List.length_map _

/-- An operation tells what its operands tell. -/
lemma binary_tells {operator : BinaryOperator} {span : Span} {left right : Expr} {type : Option TypeId}
    (first : (left.judged setting).node.rename view.state.types.clip = (left.judged setting).node →
      Tells view.state.types (left.judged setting).problems ((left.judged setting).node.encounters view))
    (second : (right.judged setting).node.rename view.state.types.clip = (right.judged setting).node →
      Tells view.state.types (right.judged setting).problems ((right.judged setting).node.encounters view))
    (stays : ((Expr.binary operator span left right type).judged setting).node.rename view.state.types.clip =
      ((Expr.binary operator span left right type).judged setting).node) :
    Tells view.state.types ((Expr.binary operator span left right type).judged setting).problems
      (((Expr.binary operator span left right type).judged setting).node.encounters view) := by
  rw [Expr.judged, Expr.rename] at stays
  obtain ⟨-, -, left, right, -⟩ := Expr.binary.inj stays
  rw [Expr.judged, Expr.encounters]
  exact (((first left).quiet (unfound_targetProblems _ _)).append (second right)).quiet
    (unfound_operandProblems _ _ _)

mutual

/-- An expression tells what is encountered in it. -/
lemma Expr.Blank.tells (shows : view.Shows origins table setting (some scope)) : ∀ {x : Expr}, x.Blank →
    x.Bracketed → (x.judged setting).node.rename view.state.types.clip = (x.judged setting).node →
    Tells view.state.types (x.judged setting).problems ((x.judged setting).node.encounters view)
  | .binary operator span left right type, blank, brackets, stays => by
    rw [Expr.Blank] at blank
    rw [Expr.Bracketed] at brackets
    exact binary_tells (blank.2.1.tells shows brackets.1) (blank.2.2.1.tells shows brackets.2) stays
  | .unary operator span operand type, blank, brackets, stays => by
    rw [Expr.Blank] at blank
    rw [Expr.Bracketed] at brackets
    rw [Expr.judged, Expr.rename] at stays
    rw [Expr.judged, Expr.encounters]
    exact blank.1.tells shows brackets (Expr.unary.inj stays).2.2.1
  | .chain path, blank, brackets, stays => by
    rw [Expr.Blank] at blank
    rw [Expr.Bracketed] at brackets
    rw [Expr.judged, Expr.rename] at stays
    rw [Expr.judged, Expr.encounters]
    exact blank.tells shows brackets (Expr.chain.inj stays)
  | .new keyword path, blank, brackets, stays => by
    rw [Expr.Blank] at blank
    rw [Expr.Bracketed] at brackets
    rw [Expr.judged, Expr.rename] at stays
    rw [Expr.judged, Expr.encounters]
    exact blank.tells_new shows brackets.1 brackets.2 (Expr.new.inj stays).2
  | .newArray keyword element, blank, brackets, stays => by
    rw [Expr.Blank] at blank
    rw [Expr.Bracketed] at brackets
    rw [Expr.judged, Expr.rename] at stays
    rw [Expr.judged, Expr.encounters]
    exact blank.tells shows brackets (Expr.newArray.inj stays).2
  | .literal .., _, _, _ | .nothing _, _, _, _ | .missing _, _, _, _ => by
    rw [Expr.judged, Expr.encounters]
    exact .nothing

lemma Expression.Blank.tells (shows : view.Shows origins table setting (some scope)) : ∀ {x : Expression},
    x.Blank → x.Bracketed → (x.judged setting).node.rename view.state.types.clip = (x.judged setting).node →
    Tells view.state.types (x.judged setting).problems ((x.judged setting).node.encounters view)
  | ⟨root, type⟩, blank, brackets, stays => by
    rw [Expression.Blank] at blank
    rw [Expression.Bracketed] at brackets
    rw [Expression.judged, Expression.rename] at stays
    rw [Expression.judged, Expression.encounters]
    exact blank.1.tells shows brackets (Expression.mk.inj stays).1

lemma Chain.Blank.tells (shows : view.Shows origins table setting (some scope)) : ∀ {x : Chain}, x.Blank →
    x.Bracketed → (x.judged setting).node.rename view.state.types.clip = (x.judged setting).node →
    Tells view.state.types (x.judged setting).problems ((x.judged setting).node.encounters view)
  | ⟨links, span, type⟩, blank, brackets, stays => by
    rw [Chain.Blank] at blank
    rw [Chain.Bracketed] at brackets
    rw [Chain.judged, Chain.rename] at stays
    rw [Chain.judged, Chain.encounters]
    obtain ⟨tells, types, halts⟩ := linksBlank_tells shows blank.1 brackets (.typed .none) (fun _ => rfl)
      (Chain.mk.inj stays).1
    rw [← Option.isSome_map] at halts
    exact tells.before types.symm (halts.chain span) (reaches_chain _ span _) rfl

lemma Chain.Blank.tells_new (shows : view.Shows origins table setting (some scope)) : ∀ {x : Chain}, x.Blank →
    x.startsWithBrackets → x.Bracketed →
    (x.judgedNew setting).node.rename view.state.types.clip = (x.judgedNew setting).node →
    Tells view.state.types (x.judgedNew setting).problems ((x.judgedNew setting).node.newEncounters view)
  | ⟨first :: rest, span, type⟩, blank, starts, brackets, stays => by
    rw [Chain.Blank, linksBlank] at blank
    rw [Chain.Bracketed, linksBracketed] at brackets
    rw [Chain.judgedNew] at stays ⊢
    simp only at stays ⊢
    split at stays
    · next unknown =>
      rw [Chain.rename, linksRename] at stays
      obtain ⟨head, -⟩ := List.cons.inj (Chain.mk.inj stays).1
      obtain ⟨tells, owned, -⟩ := blank.1.1.tells_made shows starts brackets.1 head
      rw [unknown] at owned
      simp only
      rw [Chain.newEncounters, owned.eq_none]
      have halts : LinksHalt (none : Option TypeId).isSome ((first.judgedMade setting).node :: rest) :=
        .stop _ blank.1.2
      have reaches := reaches_new view (first.judgedMade setting).node rest span none
      rw [owned.eq_none] at reaches
      refine tells.before ?_ (halts.chain span) reaches rfl
      show none = newType view _
      rw [newType, owned.eq_none]
      rfl
    · next form known =>
      rw [Chain.rename, linksRename] at stays
      obtain ⟨links, -, type⟩ := Chain.mk.inj stays
      obtain ⟨head, tail⟩ := List.cons.inj links
      obtain ⟨tells, owned, recorded⟩ := blank.1.1.tells_made shows starts brackets.1 head
      rw [known] at owned recorded
      obtain ⟨found, made⟩ := owned.exists_eq_some
      rw [made] at owned recorded
      -- Without further links the type of the chain is that of the new value, which is recorded.
      have last : rest = [] → some found = (some form).map setting.code := by
        rintro rfl
        rw [linksJudged] at type
        exact recorded type
      obtain ⟨others, types, halts⟩ := linksBlank_tells shows blank.1.2 brackets.2 owned last tail
      simp only
      rw [Chain.newEncounters, made]
      have whole := tells.append others
      rw [List.append_assoc] at whole
      rw [← Option.isSome_map] at halts
      have reaches := reaches_new view (first.judgedMade setting).node
        (linksJudged setting (some form) rest).node span ((linksJudged setting (some form) rest).shape.map setting.code)
      rw [made] at reaches
      refine whole.before ?_ ((halts.next (Link.isBound_of_madeIn made)).chain span) reaches rfl
      show _ = newType view _
      rw [newType, made]
      exact types.symm

lemma linksBlank_tells (shows : view.Shows origins table setting (some scope)) :
    ∀ {x : List Link} {owner : Option TypeId} {shape : Option Shape}, linksBlank x → linksBracketed x →
    Owned origins view.state.types owner shape → (x = [] → owner = shape.map setting.code) →
    linksRename view.state.types.clip (linksJudged setting shape x).node = (linksJudged setting shape x).node →
    Tells view.state.types (linksJudged setting shape x).problems
        (linksEncounters view owner (linksJudged setting shape x).node) ∧
      linksType view owner (linksJudged setting shape x).node = (linksJudged setting shape x).shape.map setting.code ∧
      LinksHalt (linksJudged setting shape x).shape.isSome (linksJudged setting shape x).node
  | [], owner, shape, _, _, _, last, _ => by
    rw [linksJudged, linksEncounters, linksType]
    exact ⟨.nothing, last rfl, .nil⟩
  | link :: rest, owner, shape, blank, brackets, owned, _, stays => by
    rw [linksBlank] at blank
    rw [linksBracketed] at brackets
    rw [linksJudged] at stays ⊢
    simp only at stays ⊢
    split at stays
    · next unknown =>
      -- Without a type the walk ends here, and the links behind have stayed blank.
      rw [linksRename] at stays
      obtain ⟨tells, typed⟩ := blank.1.tells shows brackets.1 owned (List.cons.inj stays).1
      rw [unknown] at typed
      have none : (link.judged setting shape).node.typeIn view = none := Owned.eq_none (.typed typed)
      simp only
      rw [linksEncounters, linksType, none]
      exact ⟨tells, rfl, .stop _ blank.2⟩
    · next form known =>
      rw [linksRename] at stays
      obtain ⟨head, tail⟩ := List.cons.inj stays
      obtain ⟨tells, typed⟩ := blank.1.tells shows brackets.1 owned head
      rw [known] at typed
      obtain ⟨type, found, shaped⟩ : ∃ type, (link.judged setting shape).node.typeIn view = some type ∧
          Shaped origins view.state.types type form := by
        generalize (link.judged setting shape).node.typeIn view = type? at typed
        cases typed with
        | some shaped => exact ⟨_, rfl, shaped⟩
      obtain ⟨others, types, halts⟩ := linksBlank_tells shows blank.2 brackets.2 (.typed (.some shaped))
        (fun _ => (Typed.coded (.some shaped) shows.coded)) tail
      simp only
      rw [linksEncounters, linksType, found]
      have whole := tells.append others
      rw [List.append_assoc] at whole
      exact ⟨whole, types, halts.next (Link.isBound_of_typeIn found)⟩

lemma Link.Blank.tells (shows : view.Shows origins table setting (some scope)) : ∀ {x : Link}
    {owner : Option TypeId} {shape : Option Shape}, x.Blank → x.Bracketed → Owned origins view.state.types owner shape →
    (x.judged setting shape).node.rename view.state.types.clip = (x.judged setting shape).node →
    Tells view.state.types (x.judged setting shape).problems
        ((x.judged setting shape).node.innerEncounters view ++ [.link view owner (x.judged setting shape).node]) ∧
      Typed origins view.state.types ((x.judged setting shape).node.typeIn view) (x.judged setting shape).shape
  | .name identifier, owner, shape, blank, _, owned, _ => by
    have unbound : identifier.binding = none := blank.unbound
    rw [Link.judged, Link.innerEncounters, Link.typeIn]
    have innermost := scope_of_head? shows.located.innermost
    refine ⟨.single ⟨shows.sought_variable owned unbound rfl rfl, scope, innermost, trivial⟩ trivial trivial
      (shows.lost_variable owned unbound rfl), shows.boundType_variable shape unbound rfl⟩
  | .index identifier index close, owner, shape, blank, brackets, owned, stays => by
    have unbound : identifier.binding = none := blank.unbound
    rw [Link.Blank] at blank
    rw [Link.Bracketed] at brackets
    rw [Link.judged, Link.rename] at stays
    rw [Link.judged, Link.innerEncounters, Link.typeIn]
    have inner := blank.2.tells shows brackets (Link.index.inj stays).2.1
    have innermost := scope_of_head? shows.located.innermost
    refine ⟨(inner.quiet (unfound_indexProblems _ _)).append (.single
      ⟨shows.sought_variable owned unbound rfl rfl, scope, innermost, trivial⟩ trivial trivial
      (shows.lost_variable owned unbound rfl)), ?_⟩
    exact (shows.boundType_variable shape unbound rfl).element shows.located.tracks.grown
  | .call identifier written arguments close, owner, shape, blank, brackets, owned, stays => by
    have unbound : identifier.binding = none := blank.unbound
    rw [Link.Blank] at blank
    rw [Link.Bracketed] at brackets
    rw [Link.judged, Link.rename] at stays
    obtain ⟨-, types, values, -⟩ := Link.call.inj stays
    obtain ⟨resolved, names⟩ := resolved_judgeTypeArguments shows types
    rw [Link.judged, Link.innerEncounters, Link.typeIn]
    have inner := argumentsBlank_tells shows blank.2.2 brackets values
    refine ⟨?_, shows.boundType_function shape unbound _ _ rfl⟩
    rw [List.append_assoc]
    -- The arguments are visited first, then the type arguments are bound, and the name comes last.
    refine inner.append (.single ⟨shows.sought_function owned unbound rfl (shape_judgeTypeArguments written) rfl,
      resolved⟩ trivial trivial ?_)
    rw [List.filterMap_append, names]
    exact congrArg _ (shows.lost_function owned unbound _ _ rfl)

lemma Link.Blank.tells_made (shows : view.Shows origins table setting (some scope)) : ∀ {x : Link}, x.Blank →
    !x.isName → x.Bracketed →
    (x.judgedMade setting).node.rename view.state.types.clip = (x.judgedMade setting).node →
    Tells view.state.types (x.judgedMade setting).problems
        ((x.judgedMade setting).node.innerEncounters view ++ [.made view (x.judgedMade setting).node]) ∧
      Owned origins view.state.types ((x.judgedMade setting).node.madeIn view) (x.judgedMade setting).shape ∧
      (((x.judgedMade setting).shape.map setting.code).map view.state.types.clip =
          (x.judgedMade setting).shape.map setting.code →
        (x.judgedMade setting).node.madeIn view = (x.judgedMade setting).shape.map setting.code)
  | .index identifier index close, blank, _, brackets, stays => by
    have unbound : identifier.binding = none := blank.unbound
    rw [Link.Blank] at blank
    rw [Link.Bracketed] at brackets
    rw [Link.judgedMade, Link.rename] at stays
    rw [Link.judgedMade, Link.innerEncounters]
    have inner := blank.2.tells shows brackets (Link.index.inj stays).2.1
    refine ⟨(inner.quiet (unfound_indexProblems _ _)).append (.single
      ⟨scope, scope_of_head? shows.located.innermost, trivial⟩ trivial trivial
      (unfound_judgeConstructed 0 unbound rfl)), ?_⟩
    have typed := shows.boundType_constructed unbound 0 (show Link.identifier
      (.index _ (index.judged setting).node close) = (setting.judgeConstructed 0 identifier).node from rfl)
    rw [Link.madeIn]
    simp only
    generalize Link.boundType view _ = element? at typed
    generalize (setting.judgeConstructed 0 identifier).shape = shape? at typed
    cases typed with
    | none => exact ⟨.typed .none, fun _ => rfl⟩
    | @some element form shaped =>
      refine ⟨.array shaped, fun recorded => ?_⟩
      -- The array is registered if it is recorded.
      have array := shows.coded.typed shows.injective shows.located.tracks.grown recorded
      cases array with
      | some array =>
        show some (view.state.types.arrayOf element).1 = _
        rw [TypeRegistry.arrayOf, shaped.array?_eq_some shows.located.tracks.grown array]
        rfl
  | .call identifier written arguments close, blank, _, brackets, stays => by
    have unbound : identifier.binding = none := blank.unbound
    rw [Link.Blank] at blank
    rw [Link.Bracketed] at brackets
    rw [Link.judgedMade, Link.rename] at stays
    obtain ⟨-, types, values, -⟩ := Link.call.inj stays
    obtain ⟨resolved, names⟩ := resolved_judgeTypeArguments shows types
    rw [Link.judgedMade, Link.innerEncounters, Link.madeIn]
    have inner := argumentsBlank_tells shows blank.2.2 brackets values
    have typed := shows.boundType_constructed unbound _ (show Link.identifier (.call _
      (setting.judgeTypeArguments written).node (argumentsJudged setting arguments).node close) =
        (setting.judgeConstructed (setting.judgeTypeArguments written).shape identifier).node from rfl)
    refine ⟨?_, .typed typed, fun _ => typed.coded shows.coded⟩
    rw [List.append_assoc]
    refine inner.append (.single resolved trivial trivial ?_)
    rw [List.filterMap_append, names]
    exact congrArg _ (unfound_judgeConstructed _ unbound rfl)

lemma argumentsBlank_tells (shows : view.Shows origins table setting (some scope)) : ∀ {x : List Expression},
    argumentsBlank x → argumentsBracketed x →
    argumentsRename view.state.types.clip (argumentsJudged setting x).node = (argumentsJudged setting x).node →
    Tells view.state.types (argumentsJudged setting x).problems
      (argumentsEncounters view (argumentsJudged setting x).node)
  | [], _, _, _ => by
    rw [argumentsJudged, argumentsEncounters]
    exact .nothing
  | argument :: rest, blank, brackets, stays => by
    rw [argumentsBlank] at blank
    rw [argumentsBracketed] at brackets
    rw [argumentsJudged, argumentsRename] at stays
    obtain ⟨head, tail⟩ := List.cons.inj stays
    rw [argumentsJudged, argumentsEncounters]
    exact (blank.1.tells shows brackets.1 head).append (argumentsBlank_tells shows blank.2 brackets.2 tail)

end

/-- An expression that is a statement tells what is encountered in it. -/
lemma Expression.BlankStatement.tells (shows : view.Shows origins table setting (some scope)) {x : Expression}
    (blank : x.BlankStatement) (brackets : x.Bracketed)
    (stays : (x.judged setting).node.rename view.state.types.clip = (x.judged setting).node) :
    Tells view.state.types (x.judged setting).problems ((x.judged setting).node.encounters view) := by
  unfold Expression.BlankStatement at blank
  split at blank
  · obtain ⟨⟨left, right, -⟩, -⟩ := blank
    rw [Expression.Bracketed, Expr.Bracketed] at brackets
    rw [Expression.judged, Expression.rename] at stays
    rw [Expression.judged, Expression.encounters]
    exact binary_tells (left.tells shows brackets.1) (right.tells shows brackets.2) (Expression.mk.inj stays).1
  · exact blank.tells shows brackets stays

end ArrowScript
