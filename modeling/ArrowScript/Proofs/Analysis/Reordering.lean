import ArrowScript.Proofs.Analysis.Registered

/-!
# The order of statements

When every variable is declared with a written type, and no name is declared twice at the top of a program, the
order of the statements there does not matter to the analysis: what is collected does not depend on it, no
statement makes a type known that another needs, and the handles of types differ only in their numbers
(`statement_order_irrelevant`).
-/

namespace ArrowScript
open Analysis Grammar

/-! ## Variables with written types -/

mutual

/-- The variables that are declared in a block, wherever they are. -/
def Block.declarations : Block → List Declaration
  | ⟨_, _, statements, _⟩ => statementDeclarations statements

/-- The variables that are declared in some statements. -/
def statementDeclarations : List Statement → List Declaration
  | [] => []
  | statement :: rest => statement.declarations ++ statementDeclarations rest

/-- The variables that are declared in a statement. -/
def Statement.declarations : Statement → List Declaration
  | .type definition => definition.declarations
  | .function definition => definition.declarations
  | .variable declaration => [declaration]
  | .whileLoop _ _ body => body.declarations
  | .conditional conditional => conditional.declarations
  | .returning .. | .breaking _ | .continuing _ | .importing .. | .path .. | .expression _ => []

/-- The variables that are declared in a conditional. -/
def Conditional.declarations : Conditional → List Declaration
  | ⟨_, body, otherwise, _⟩ => body.declarations ++ otherwise.declarations

/-- The variables that are declared in what is done when a condition fails. -/
def Otherwise.declarations : Otherwise → List Declaration
  | .nothing => []
  | .conditional conditional => conditional.declarations
  | .block block => block.declarations

/-- The variables that are declared in a function. -/
def FunctionDef.declarations : FunctionDef → List Declaration
  | ⟨_, _, _, _, _, body, _⟩ => body.declarations

/-- The variables that are declared in some functions. -/
def functionDeclarations : List FunctionDef → List Declaration
  | [] => []
  | definition :: rest => definition.declarations ++ functionDeclarations rest

/-- The variables that are declared in a type: its fields, and those in its methods. -/
def TypeDef.declarations : TypeDef → List Declaration
  | ⟨_, _, _, fields, methods, _, _⟩ => fields ++ functionDeclarations methods

end

namespace Analysis

/-- All of some variables are declared with a written type. -/
def AllWritten (declarations : List Declaration) : Prop :=
  ∀ declaration ∈ declarations, declaration.written.isSome

namespace AllWritten

variable {first second : List Declaration}

/-- The first of some variables. -/
lemma left (h : AllWritten (first ++ second)) : AllWritten first :=
  fun declaration mem => h declaration (List.mem_append_left _ mem)

/-- The last of some variables. -/
lemma right (h : AllWritten (first ++ second)) : AllWritten second :=
  fun declaration mem => h declaration (List.mem_append_right _ mem)

/-- A statement among some. -/
lemma of_mem {statements : List Statement} (h : AllWritten (statementDeclarations statements))
    {statement : Statement} (mem : statement ∈ statements) : AllWritten statement.declarations := by
  induction statements with
  | nil => cases mem
  | cons first rest ih =>
    rw [statementDeclarations] at h
    rcases List.mem_cons.mp mem with rfl | mem
    · exact h.left
    · exact ih h.right mem

end AllWritten

/-- A variable with a written type makes no type known. -/
lemma inferred_of_written {declaration : Declaration} (written : declaration.written.isSome) (setting : Setting) :
    (declaration.visited setting).inferred = [] := by
  obtain ⟨type, e⟩ := Option.isSome_iff_exists.mp written
  unfold Declaration.visited
  rw [e]

/-- Variables with written types make no types known. -/
lemma inferred_of_allWritten {list : List Declaration} (written : AllWritten list) :
    ∀ setting : Setting, (declarationsVisited setting list).inferred = [] := by
  induction list with
  | nil => exact fun setting => rfl
  | cons declaration rest ih =>
    intro setting
    rw [declarationsVisited]
    simp only [inferred_of_written (written declaration List.mem_cons_self),
      ih fun other mem => written other (List.mem_cons_of_mem _ mem), List.append_nil]

end Analysis

mutual

/-- A block with written types makes no types known. -/
lemma Block.inferred_of_allWritten : ∀ {x : Block}, AllWritten x.declarations → ∀ setting : Setting,
    (x.visited setting).inferred = []
  | ⟨id, kind, statements, span⟩, written, setting => by
    rw [Block.declarations] at written
    rw [Block.visited]
    exact statementsInferred_of_allWritten written _

lemma statementsInferred_of_allWritten : ∀ {x : List Statement}, AllWritten (statementDeclarations x) →
    ∀ setting : Setting, (statementsVisited setting x).inferred = []
  | [], _, setting => by rw [statementsVisited]
  | statement :: rest, written, setting => by
    rw [statementDeclarations] at written
    rw [statementsVisited]
    simp only [Statement.inferred_of_allWritten written.left, statementsInferred_of_allWritten written.right,
      List.append_nil]

lemma Statement.inferred_of_allWritten : ∀ {x : Statement}, AllWritten x.declarations → ∀ setting : Setting,
    (x.visited setting).inferred = []
  | .type definition, written, setting => by
    rw [Statement.declarations] at written
    rw [Statement.visited]
    -- A definition inside a function is not visited.
    split
    · rfl
    · exact definition.inferred_of_allWritten written setting
  | .function definition, written, setting => by
    rw [Statement.declarations] at written
    rw [Statement.visited]
    split
    · rfl
    · exact definition.inferred_of_allWritten written setting
  | .variable declaration, written, setting => by
    rw [Statement.declarations] at written
    rw [Statement.visited]
    exact inferred_of_written (written declaration List.mem_cons_self) setting
  | .whileLoop keyword condition body, written, setting => by
    rw [Statement.declarations] at written
    rw [Statement.visited]
    exact body.inferred_of_allWritten written setting
  | .conditional conditional, written, setting => by
    rw [Statement.declarations] at written
    rw [Statement.visited]
    exact conditional.inferred_of_allWritten written setting
  | .returning .., _, setting => by
    rw [Statement.visited]
    rfl
  | .breaking _, _, setting | .continuing _, _, setting | .importing .., _, setting | .path .., _, setting
  | .expression _, _, setting => by rw [Statement.visited]

lemma Conditional.inferred_of_allWritten : ∀ (x : Conditional), AllWritten x.declarations →
    ∀ setting : Setting, (x.visited setting).inferred = []
  | ⟨condition, body, otherwise, keyword⟩, written, setting => by
    rw [Conditional.declarations] at written
    rw [Conditional.visited]
    simp only [Block.inferred_of_allWritten written.left, Otherwise.inferred_of_allWritten _ written.right,
      List.append_nil]

lemma Otherwise.inferred_of_allWritten : ∀ (x : Otherwise), AllWritten x.declarations →
    ∀ setting : Setting, (x.visited setting).inferred = []
  | .nothing, _, setting => by rw [Otherwise.visited]
  | .conditional conditional, written, setting => by
    rw [Otherwise.declarations] at written
    rw [Otherwise.visited]
    exact conditional.inferred_of_allWritten written setting
  | .block block, written, setting => by
    rw [Otherwise.declarations] at written
    rw [Otherwise.visited]
    exact block.inferred_of_allWritten written setting

lemma FunctionDef.inferred_of_allWritten : ∀ (x : FunctionDef), AllWritten x.declarations →
    ∀ setting : Setting, (x.visited setting).inferred = []
  | ⟨id, name, typeParameters, parameters, returns, body, keyword⟩, written, setting => by
    rw [FunctionDef.declarations] at written
    rw [FunctionDef.visited]
    exact body.inferred_of_allWritten written _

lemma functionsInferred_of_allWritten : ∀ {x : List FunctionDef}, AllWritten (functionDeclarations x) →
    ∀ setting : Setting, (functionsVisited setting x).inferred = []
  | [], _, setting => by rw [functionsVisited]
  | definition :: rest, written, setting => by
    rw [functionDeclarations] at written
    rw [functionsVisited]
    simp only [FunctionDef.inferred_of_allWritten _ written.left, functionsInferred_of_allWritten written.right,
      List.append_nil]

lemma TypeDef.inferred_of_allWritten : ∀ (x : TypeDef), AllWritten x.declarations →
    ∀ setting : Setting, (x.visited setting).inferred = []
  | ⟨id, name, typeParameters, fields, methods, keyword, binding⟩, written, setting => by
    rw [TypeDef.declarations] at written
    rw [TypeDef.visited]
    simp only [Analysis.inferred_of_allWritten written.left, functionsInferred_of_allWritten written.right,
      List.append_nil]

end

/-! ## Reordered statements -/

namespace Analysis

variable {setting : Setting} {statements reordered : List Statement}

/-- Visiting goes on as before when nothing became known. -/
lemma Setting.after_nil (setting : Setting) : setting.after [] = setting := rfl

/-- Statements that make no types known are visited one by one. -/
lemma statementsVisited_eq (inferred : ∀ statement ∈ statements, (statement.visited setting).inferred = []) :
    statementsVisited setting statements =
      ⟨statements.map fun statement => (statement.visited setting).node,
        statements.flatMap fun statement => (statement.visited setting).problems, []⟩ := by
  induction statements with
  | nil => rw [statementsVisited, List.map_nil, List.flatMap_nil]
  | cons statement rest ih =>
    rw [statementsVisited, inferred statement List.mem_cons_self, Setting.after_nil,
      ih fun other mem => inferred other (List.mem_cons_of_mem _ mem)]
    rfl

/-- What is found under a key does not depend on the order of different keys. -/
lemma lookup_perm {κ α : Type} [BEq κ] [LawfulBEq κ] {first second : List (κ × α)} (perm : first.Perm second)
    (nodup : (second.map Prod.fst).Nodup) (key : κ) : first.lookup key = second.lookup key := by
  have nodup' : (first.map Prod.fst).Nodup := (perm.map _).nodup_iff.mpr nodup
  refine Option.ext fun value => ⟨fun found => ?_, fun found => ?_⟩
  · exact lookup_eq_some_of_mem nodup (perm.subset (mem_of_lookup_eq_some found))
  · exact lookup_eq_some_of_mem nodup' (perm.symm.subset (mem_of_lookup_eq_some found))

/-- Keys of one kind are different if all kinds and keys are. -/
lemma nodup_keys {α : Type} {introductions : List Introduction} {view : Introduction → Option (String × α)}
    {what : Declared} (sees : ∀ introduction value, view introduction = some value →
      introduction.slot = (what, value.1)) (nodup : (introductions.map Introduction.slot).Nodup) :
    ((introductions.filterMap view).map Prod.fst).Nodup := by
  have slots : ((introductions.filterMap view).map fun value => (what, value.1)).Nodup := by
    refine nodup.sublist ?_
    clear nodup
    induction introductions with
    | nil => exact .slnil
    | cons introduction rest ih =>
      rw [List.filterMap_cons]
      cases e : view introduction with
      | none => exact ih.cons _
      | some value =>
        rw [List.map_cons, List.map_cons, sees introduction value e]
        exact ih.cons_cons _
  exact List.Nodup.of_map (fun key => (what, key)) (by rwa [List.map_map])

/-- A layer does not depend on the order of different introductions. -/
lemma Layer.of_perm {first second : List Introduction} (perm : first.Perm second)
    (nodup : (second.map Introduction.slot).Nodup) : Layer.of first = Layer.of second := by
  have sees {α : Type} (view : Introduction → Option (String × α)) (what : Declared)
      (slots : ∀ introduction value, view introduction = some value → introduction.slot = (what, value.1))
      (key : String) : (first.filterMap view).lookup key = (second.filterMap view).lookup key :=
    lookup_perm (perm.filterMap _) (nodup_keys slots nodup) key
  refine Layer.ext (funext (sees _ .variable ?_)) (funext (sees _ .function ?_)) (funext (sees _ .type ?_))
  all_goals
    rintro ⟨name, key, meaning⟩ value e
    cases meaning
    all_goals
      cases e
      try rfl

/-- Names that are introduced once are no problem. -/
lemma repeated_eq_nil {introductions : List Introduction} (nodup : (introductions.map Introduction.slot).Nodup)
    {known : Declared → String → Option Span}
    (fresh : ∀ introduction ∈ introductions, known introduction.what introduction.key = none) :
    repeated known introductions = [] := by
  induction introductions generalizing known with
  | nil => rfl
  | cons introduction rest ih =>
    rw [List.map_cons, List.nodup_cons] at nodup
    rw [repeated, fresh introduction List.mem_cons_self, ih nodup.2]
    · rfl
    · intro other mem
      rw [noting, fresh other (List.mem_cons_of_mem _ mem), Option.none_or, if_neg]
      rintro ⟨what, key⟩
      refine nodup.1 (List.mem_map.mpr ⟨other, mem, ?_⟩)
      rw [Introduction.slot, Introduction.slot, what, key]

end Analysis

/-- The statements at the top of a program declare different names. -/
def Block.Distinct (root : Block) : Prop :=
  ((root.statements.flatMap (Statement.introductions false)).map Introduction.slot).Nodup

/-- The regions of a program are that of the program itself and those in its statements. -/
lemma Block.regions_top (root : Block) : root.regions false .empty =
    Block.region false .empty root ::
      statementRegions false (Block.region false .empty root).place.layer root.statements := by
  obtain ⟨id, kind, statements, span⟩ := root
  rfl

/-- The region of a program. -/
lemma Block.region_top (root : Block) : Block.region false .empty root =
    { place := ⟨root.id, (statementLayer false root.statements).shadowing .empty⟩
      introductions := root.statements.flatMap (Statement.introductions false)
      writes := root.statements.flatMap Statement.writes
      definition := none
      forbidden := root.statements.flatMap (Statement.forbidden false) } := by
  obtain ⟨id, kind, statements, span⟩ := root
  rfl

/-- The same block with its statements in another order. -/
structure Block.Reorders (first second : Block) : Prop where
  id : first.id = second.id
  kind : first.kind = second.kind
  span : first.span = second.span
  statements : first.statements.Perm second.statements

namespace Block.Reorders

variable {first second : Block} (reorders : first.Reorders second) (distinct : second.Distinct)

include reorders distinct

/-- The names at the top are different in any order. -/
lemma distinct_left : first.Distinct :=
  ((reorders.statements.flatMap_right _).map _).nodup_iff.mpr distinct

/-- The layer at the top is the same in any order. -/
lemma layer_eq : statementLayer false first.statements = statementLayer false second.statements :=
  Layer.of_perm (reorders.statements.flatMap_right _) distinct

/-- The place at the top is the same in any order. -/
lemma place_eq : (Block.region false .empty first).place = (Block.region false .empty second).place := by
  rw [Block.region_top, Block.region_top, reorders.id, reorders.layer_eq distinct]

/-- The regions inside are the same in any order. -/
lemma regions_perm :
    (statementRegions false (Block.region false .empty first).place.layer first.statements).Perm
      (statementRegions false (Block.region false .empty second).place.layer second.statements) := by
  rw [reorders.place_eq distinct, statementRegions_eq_flatMap, statementRegions_eq_flatMap]
  exact reorders.statements.flatMap_right _

/-- The same types are written in any order. -/
lemma sites_perm : ((first.regions false .empty).flatMap Region.sites).Perm
    ((second.regions false .empty).flatMap Region.sites) := by
  rw [Block.regions_top, Block.regions_top, List.flatMap_cons, List.flatMap_cons]
  refine List.Perm.append ?_ ((reorders.regions_perm distinct).flatMap_right _)
  rw [Region.sites, Region.sites, reorders.place_eq distinct, Block.region_top, Block.region_top]
  exact (reorders.statements.flatMap_right Statement.writes).map _

/-- The facts are the same in any order. -/
lemma facts_eq (nodup : second.ids.Nodup) :
    Facts.of (first.regions false .empty) = Facts.of (second.regions false .empty) := by
  have regions {α : Type} (view : Region → Option (NodeId × α)) (top : ∀ block : Block,
      view (Block.region false .empty block) = none)
      (keys : ∀ region value, view region = some value → value.1 = region.place.owner) (node : NodeId) :
      ((first.regions false .empty).filterMap view).lookup node =
        ((second.regions false .empty).filterMap view).lookup node := by
    refine lookup_perm ?_ (nodup_filterMap_fst keys (Block.nodup_owners nodup)) node
    rw [Block.regions_top, Block.regions_top, List.filterMap_cons_none (top first),
      List.filterMap_cons_none (top second)]
    exact (reorders.regions_perm distinct).filterMap view
  have sites := lookup_perm (reorders.sites_perm distinct) (Block.nodup_sites nodup)
  have members := regions Region.members (fun block => by rw [block.region_top]; rfl) Region.owner_of_members
  have signatures := regions Region.signature (fun block => by rw [block.region_top]; rfl) Region.owner_of_signature
  refine Facts.ext (funext fun node => ?_) (funext fun node => ?_) (funext members) (funext fun node => ?_)
  · exact congrArg (Option.bind · Site.shape?) (sites node)
  · exact congrArg (Option.elim · [] Site.unknown) (sites node)
  · exact congrArg (Option.getD · []) (signatures node)

end Block.Reorders

/-! ## Reordered programs -/

/-- What can be seen at the top of a program. -/
def Block.top (code : Shape → TypeId) (root : Block) : Setting :=
  (root.setting code).inside (statementLayer false root.statements)

/-- If all types are written, the statements of a program are visited one by one. -/
lemma Block.account_of_allWritten {root : Block} (written : AllWritten root.declarations) (code : Shape → TypeId) :
    root.account code =
      ⟨{ root with statements := root.statements.map fun statement => (statement.visited (root.top code)).node },
        root.statements.flatMap fun statement => (statement.visited (root.top code)).problems, []⟩ := by
  obtain ⟨id, kind, statements, span⟩ := root
  rw [Block.declarations] at written
  have visited := statementsVisited_eq fun statement mem =>
    statement.inferred_of_allWritten (written.of_mem mem) (Block.top code ⟨id, kind, statements, span⟩)
  rw [Block.account, Block.visited]
  show Outcome.mk (Block.mk id kind (statementsVisited (Block.top code ⟨id, kind, statements, span⟩) _).node span)
    (statementsVisited (Block.top code ⟨id, kind, statements, span⟩) statements).problems
    (statementsVisited (Block.top code ⟨id, kind, statements, span⟩) statements).inferred = _
  rw [visited]

/-- A program with different names at the top has problems only further inside. -/
lemma Block.problems_top {root : Block} (distinct : root.Distinct) :
    (Block.region false .empty root).problems = [] := by
  have forbidden : root.statements.flatMap (Statement.forbidden false) = [] :=
    List.flatMap_eq_nil_iff.mpr fun statement _ => by cases statement <;> rfl
  rw [Region.problems, Block.region_top]
  show repeated _ _ ++ _ = []
  rw [repeated_eq_nil distinct fun _ _ => rfl, forbidden, List.append_nil]

namespace Block.Reorders

variable {first second : Block} (reorders : first.Reorders second) (distinct : second.Distinct)
  (nodup : second.ids.Nodup)

include reorders distinct nodup

/-- The same can be seen at the top in any order. -/
lemma top_eq (code : Shape → TypeId) : first.top code = second.top code := by
  rw [Block.top, Block.top, reorders.layer_eq distinct, Block.setting, Block.setting,
    reorders.facts_eq distinct nodup]

/-- The problems are the same in any order. -/
lemma problems_perm (written : AllWritten first.declarations) (written' : AllWritten second.declarations)
    (code : Shape → TypeId) : (first.problems code).Perm (second.problems code) := by
  refine List.Perm.append (List.Perm.append ?_ ?_) ((reorders.sites_perm distinct).flatMap_right _)
  · rw [Block.regions_top, Block.regions_top, List.flatMap_cons, List.flatMap_cons,
      Block.problems_top distinct, Block.problems_top (reorders.distinct_left distinct)]
    exact (reorders.regions_perm distinct).flatMap_right _
  · rw [Block.account_of_allWritten written, Block.account_of_allWritten written',
      reorders.top_eq distinct nodup]
    exact reorders.statements.flatMap_right _

end Block.Reorders

namespace Analysis

/-! ## Two analyses -/

/-- The types of two registries correspond: built-in types to themselves, and others to types with the same name
that the same node defines. -/
structure Corresponds (ξ : TypeId ≃ TypeId) (first second : TypeRegistry) : Prop where
  builtin : ∀ type : TypeId, type.index < 6 → ξ type = type
  name : ∀ type : TypeId, type.index < first.size → (ξ type).index < second.size →
    second.name (ξ type) = first.name type
  userNode : ∀ type : TypeId, type.index < first.size → (ξ type).index < second.size →
    second.userNode? (ξ type) = first.userNode? type

variable {origins others : List Origin} {registry later : TypeRegistry}

/-- Handles that stand for the same shapes correspond. -/
lemma corresponds_of_coded (grown : Grown origins registry) (grown' : Grown others later)
    {code : Shape ≃ TypeId} {code' : Shape ≃ TypeId} (coded : Coded origins registry code)
    (coded' : Coded others later code') : Corresponds (code.symm.trans code') registry later := by
  have same : ∀ {type : TypeId} {shape : Shape}, Shaped origins registry type shape →
      (code.symm.trans code') type = code' shape := by
    intro type shape shaped
    obtain rfl := coded type shape shaped
    rw [Equiv.trans_apply, Equiv.symm_apply_apply]
  refine ⟨fun type small => ?_, fun type known known' => ?_, fun type known known' => ?_⟩
  · rw [same (grown.shaped_builtin small)]
    exact coded' _ _ (grown'.shaped_builtin small)
  · obtain ⟨shape, shaped⟩ := Shaped.of_known grown known
    rw [same shaped] at known' ⊢
    exact ((coded'.shaped code'.injective grown' known').name grown').trans (shaped.name grown).symm
  · obtain ⟨shape, shaped⟩ := Shaped.of_known grown known
    rw [same shaped] at known' ⊢
    exact ((coded'.shaped code'.injective grown' known').userNode? grown').trans (shaped.userNode? grown).symm

/-- What is found in renamed programs reads the same. -/
lemma diagnostics_perm {program reordered : Program} {first second : Analyzed}
    (accounted : first.Accounted program) (accounted' : second.Accounted reordered) (blank : program.root.Blank)
    (blank' : reordered.root.Blank) {ξ : TypeId ≃ TypeId}
    (corresponds : Corresponds ξ first.state.types second.state.types)
    (findings : second.findings.Perm (first.findings.map (renameFinding ξ))) :
    first.diagnostics.Perm second.diagnostics := by
  refine List.Perm.symm ((findings.map _).trans (List.Perm.of_eq ?_))
  rw [List.map_map]
  refine List.map_congr_left fun finding mem => ?_
  have names : ∀ type ∈ finding.problem.types,
      second.state.types.name (ξ type) = first.state.types.name type := by
    intro type there
    refine corresponds.name type (accounted.registered blank mem there) ?_
    have renamed : renameFinding ξ finding ∈ second.findings := findings.symm.subset (List.mem_map_of_mem mem)
    refine accounted'.registered blank' renamed ?_
    rw [renameFinding, SemanticProblem.types_rename]
    exact List.mem_map_of_mem there
  exact congrArg (Diagnostic.mk .semantic · finding.span) (SemanticProblem.message_rename names)

/-- Two analyses of a program, the second with its statements in another order, give the same statements up to
corresponding types, and the same diagnostics. -/
structure SameButOrder (program : Program) (statements : List Statement) (first second : Analyzed) : Prop where
  faultless : first.fault? = none ∧ second.fault? = none
  filled : ∃ (ξ : TypeId ≃ TypeId) (visited : Statement → Statement),
    Corresponds ξ first.state.types second.state.types ∧
    first.program = { program with
      root := { program.root with statements := program.root.statements.map visited } } ∧
    second.program = { program with
      root := { program.root with statements := statements.map fun statement => (visited statement).rename ξ } }
  diagnostics : first.diagnostics.Perm second.diagnostics

/-- Analyzing fills the root of a program in. -/
lemma analyze_program (state : State) (program : Program) :
    (analyze state program).program = { program with root := (analyze state program).program.root } := by
  unfold analyze
  split <;> rfl

end Analysis

/-! ## The order of statements -/

/-- The handles in some statements are those in each of them. -/
lemma statementIds_eq_flatMap (statements : List Statement) :
    statementIds statements = statements.flatMap Statement.ids := by
  induction statements with
  | nil => rfl
  | cons statement rest ih => rw [statementIds, ih, List.flatMap_cons]

/-- The variables that are declared in some statements are those in each of them. -/
lemma statementDeclarations_eq_flatMap (statements : List Statement) :
    statementDeclarations statements = statements.flatMap Statement.declarations := by
  induction statements with
  | nil => rfl
  | cons statement rest ih => rw [statementDeclarations, ih, List.flatMap_cons]

/-- The statements of a blank block are blank. -/
lemma Block.Blank.statements {root : Block} (blank : root.Blank) : statementsBlank root.statements := by
  obtain ⟨_, _, statements, _⟩ := root
  rwa [Block.Blank] at blank

namespace Block.Reorders

variable {first second : Block} (reorders : first.Reorders second)

include reorders

/-- The same pieces are in any order. -/
lemma pieces_subset : first.pieces ⊆ second.pieces := by
  obtain ⟨_, _, statements, span⟩ := first
  obtain ⟨_, _, statements', span'⟩ := second
  obtain rfl : span = span' := reorders.span
  rw [Block.pieces, Block.pieces, statementPieces_eq_flatMap, statementPieces_eq_flatMap]
  exact List.cons_subset_cons _ (reorders.statements.flatMap_right _).subset

/-- The same handles are in any order. -/
lemma ids_perm : first.ids.Perm second.ids := by
  obtain ⟨id, _, statements, _⟩ := first
  obtain ⟨id', _, statements', _⟩ := second
  obtain rfl : id = id' := reorders.id
  rw [Block.ids, Block.ids, statementIds_eq_flatMap, statementIds_eq_flatMap]
  exact (reorders.statements.flatMap_right _).cons _

/-- The same variables are declared in any order. -/
lemma declarations_subset : first.declarations ⊆ second.declarations := by
  obtain ⟨_, _, statements, _⟩ := first
  obtain ⟨_, _, statements', _⟩ := second
  rw [Block.declarations, Block.declarations, statementDeclarations_eq_flatMap,
    statementDeclarations_eq_flatMap]
  exact (reorders.statements.flatMap_right _).subset

/-- A blank program stays blank in any order. -/
lemma blank (blank : second.Blank) : first.Blank := by
  obtain ⟨_, _, statements, _⟩ := first
  obtain ⟨_, _, statements', _⟩ := second
  rw [Block.Blank, statementsBlank_iff] at blank ⊢
  exact fun statement mem => blank statement (reorders.statements.subset mem)

end Block.Reorders

namespace Analysis

/-- The order of the statements at the top of a program does not matter, if every variable has a written type
and no name is declared twice there. -/
theorem statement_order_irrelevant {file : String} {tokens : List Token} {statements : List Statement}
    (sameFile : ∀ token ∈ tokens, token.span.file = file)
    (perm : statements.Perm (parse tokens).program.root.statements)
    (written : AllWritten (parse tokens).program.root.declarations)
    (distinct : (parse tokens).program.root.Distinct) :
    let program := (parse tokens).program
    SameButOrder program statements (analyze .initial program)
      (analyze .initial { program with root := { program.root with statements } }) := by
  intro program
  let reordered : Program := { program with root := { program.root with statements } }
  have reorders : reordered.root.Reorders program.root := ⟨rfl, rfl, rfl, perm⟩
  obtain ⟨pieces, nodup⟩ := parse_fit tokens
  obtain ⟨file, inFile⟩ := file_of_fromTokens sameFile
  have blank : program.root.Blank := parse_blank tokens
  have written' : AllWritten reordered.root.declarations :=
    fun declaration mem => written declaration (reorders.declarations_subset mem)
  have accounted : (analyze .initial program).Accounted program :=
    analyze_accounts inFile program nodup pieces
  have accounted' : (analyze .initial reordered).Accounted reordered :=
    analyze_accounts inFile reordered (reorders.ids_perm.nodup_iff.mpr nodup)
      fun piece mem => pieces piece (reorders.pieces_subset mem)
  obtain ⟨code, coded⟩ := exists_coded accounted.grown
  obtain ⟨code', coded'⟩ := exists_coded accounted'.grown
  -- Types are numbered as they are registered, so the renaming goes through their shapes.
  let ξ := code.symm.trans code'
  have recoded : (code' : Shape → TypeId) = fun shape => ξ (code shape) := by
    funext shape
    rw [Equiv.trans_apply, Equiv.symm_apply_apply]
  have corresponds : Corresponds ξ _ _ := corresponds_of_coded accounted.grown accounted'.grown coded coded'
  have findings : (analyze .initial reordered).findings.Perm
      ((analyze .initial program).findings.map (renameFinding ξ)) := by
    refine (accounted'.findings code' coded').trans ?_
    refine (reorders.problems_perm distinct nodup written' written code').trans ?_
    rw [recoded, blank.problems_recoded code]
    exact ((accounted.findings code coded).map _).symm
  refine ⟨⟨accounted.fault, accounted'.fault⟩,
    ⟨ξ, fun statement => (statement.visited (program.root.top code)).node, corresponds, ?_, ?_⟩,
    diagnostics_perm accounted accounted' blank (reorders.blank blank) corresponds findings⟩
  · rw [analyze_program, accounted.root code coded, Block.account_of_allWritten written]
  · have visited : statements.map (fun statement => (statement.visited (program.root.top code')).node) =
        statements.map fun statement => (statement.visited (program.root.top code)).node.rename ξ := by
      rw [recoded]
      refine List.map_congr_left fun statement mem => ?_
      have blank := statementsBlank_iff.mp ((reorders.blank blank).statements) statement mem
      exact congrArg Outcome.node (blank.visited_recoded (ξ := ξ) (program.root.top code))
    rw [analyze_program, accounted'.root code' coded', Block.account_of_allWritten written',
      reorders.top_eq distinct nodup, ← visited]

/-- A variable that is used before it is declared, and a type that is not known, in reversed order. -/
theorem statement_order_irrelevant_reversed :
    let tokens := (Token.scan "a" "y: Shape -> x\nx: int[]\n").tokens
    let program := (parse tokens).program
    let reversed := program.root.statements.reverse
    (∀ token ∈ tokens, token.span.file = "a") ∧ reversed.Perm program.root.statements ∧
      AllWritten program.root.declarations ∧ program.root.Distinct ∧
      SameButOrder program reversed (analyze .initial program)
        (analyze .initial { program with root := { program.root with statements := reversed } }) := by
  intro tokens program reversed
  have same : ∀ token ∈ tokens, token.span.file = "a" := fun _ => Token.file_of_mem_scan
  have perm : reversed.Perm program.root.statements := List.reverse_perm _
  have written : AllWritten program.root.declarations := by
    unfold AllWritten
    decide +kernel
  have distinct : program.root.Distinct := by
    unfold Block.Distinct
    decide +kernel
  exact ⟨same, perm, written, distinct, statement_order_irrelevant same perm written distinct⟩

end Analysis

end ArrowScript
