import ArrowScript.Proofs.Analysis.Hindsight
import ArrowScript.Proofs.Analysis.Registered

/-!
# Ascriptions by the account

The ascriptions in the account of a program belong to different nodes. There is one for everything that is
introduced in a region, and what is written in them is what is written in the regions, filled in as it is found
there (`Ascribed`).
-/

namespace ArrowScript
open Analysis

/-! ## Renamed ascriptions -/

section
variable (ξ : TypeId → TypeId)

/-- An ascription, with types renamed. -/
def Ascription.rename (ascription : Ascription) : Ascription :=
  { ascription with written := ascription.written.map (TypeRef.rename ξ) }

mutual

/-- Renaming types in a block renames them in its ascriptions. -/
lemma Block.ascriptions_rename : ∀ (x : Block) (nested : Bool),
    (x.rename ξ).ascriptions nested = (x.ascriptions nested).map (Ascription.rename ξ)
  | ⟨id, kind, statements, span⟩, nested => by
    rw [Block.rename, Block.ascriptions, Block.ascriptions, statementAscriptions_rename]

lemma statementAscriptions_rename : ∀ (x : List Statement) (nested : Bool) (owner : NodeId),
    statementAscriptions nested owner (statementsRename ξ x) =
      (statementAscriptions nested owner x).map (Ascription.rename ξ)
  | [], nested, owner => by rw [statementsRename, statementAscriptions, List.map_nil]
  | statement :: rest, nested, owner => by
    rw [statementsRename, statementAscriptions, statementAscriptions, List.map_append,
      statement.ascriptions_rename, statementAscriptions_rename rest]

lemma Statement.ascriptions_rename : ∀ (x : Statement) (nested : Bool) (owner : NodeId),
    (x.rename ξ).ascriptions nested owner = (x.ascriptions nested owner).map (Ascription.rename ξ)
  | .type definition, nested, owner => by
    rw [Statement.rename, Statement.ascriptions, Statement.ascriptions, definition.ascriptions_rename]
    split <;> rfl
  | .function definition, nested, owner => by
    rw [Statement.rename, Statement.ascriptions, Statement.ascriptions, definition.ascriptions_rename]
    split <;> rfl
  | .variable declaration, nested, owner => by
    rw [Statement.rename, Statement.ascriptions, Statement.ascriptions]
    rfl
  | .whileLoop keyword condition body, nested, owner => by
    rw [Statement.rename, Statement.ascriptions, Statement.ascriptions, body.ascriptions_rename]
  | .conditional conditional, nested, owner => by
    rw [Statement.rename, Statement.ascriptions, Statement.ascriptions, conditional.ascriptions_rename]
  | .returning .., nested, owner | .breaking _, nested, owner | .continuing _, nested, owner
  | .importing .., nested, owner | .path .., nested, owner | .expression _, nested, owner => rfl

lemma Conditional.ascriptions_rename : ∀ (x : Conditional) (nested : Bool),
    (x.rename ξ).ascriptions nested = (x.ascriptions nested).map (Ascription.rename ξ)
  | ⟨condition, body, otherwise, keyword⟩, nested => by
    rw [Conditional.rename, Conditional.ascriptions, Conditional.ascriptions, List.map_append,
      body.ascriptions_rename, otherwise.ascriptions_rename]

lemma Otherwise.ascriptions_rename : ∀ (x : Otherwise) (nested : Bool),
    (x.rename ξ).ascriptions nested = (x.ascriptions nested).map (Ascription.rename ξ)
  | .nothing, nested => by rw [Otherwise.rename, Otherwise.ascriptions, List.map_nil]
  | .conditional conditional, nested => by
    rw [Otherwise.rename, Otherwise.ascriptions, Otherwise.ascriptions, conditional.ascriptions_rename]
  | .block block, nested => by
    rw [Otherwise.rename, Otherwise.ascriptions, Otherwise.ascriptions, block.ascriptions_rename]

lemma FunctionDef.ascriptions_rename : ∀ x : FunctionDef,
    (x.rename ξ).ascriptions = x.ascriptions.map (Ascription.rename ξ)
  | ⟨id, name, typeParameters, parameters, returns, body, keyword⟩ => by
    rw [FunctionDef.rename, FunctionDef.ascriptions, FunctionDef.ascriptions, List.map_append, List.map_cons,
      body.ascriptions_rename, List.map_map, List.map_map]
    rfl

lemma functionAscriptions_rename : ∀ x : List FunctionDef,
    functionAscriptions (functionsRename ξ x) = (functionAscriptions x).map (Ascription.rename ξ)
  | [] => by rw [functionsRename, functionAscriptions, List.map_nil]
  | definition :: rest => by
    rw [functionsRename, functionAscriptions, functionAscriptions, List.map_append,
      definition.ascriptions_rename, functionAscriptions_rename rest]

/-- Renaming types in a type renames them in its ascriptions. -/
lemma TypeDef.ascriptions_rename : ∀ x : TypeDef,
    (x.rename ξ).ascriptions = x.ascriptions.map (Ascription.rename ξ)
  | ⟨id, name, typeParameters, fields, methods, keyword, binding⟩ => by
    rw [TypeDef.rename, TypeDef.ascriptions, TypeDef.ascriptions, List.map_append,
      functionAscriptions_rename, List.map_map, List.map_map]
    rfl

end

end

/-! ## Ascribed regions -/

namespace Analysis

/-- The variable or function that is introduced, if it is one. -/
def Introduction.entry? (introduction : Introduction) : Option Entry :=
  match introduction.meaning with
  | .variable entry | .function entry => some entry
  | .type _ => none

/-- A variable that is introduced is an entry. -/
lemma Introduction.entry?_of_asVariable {key : String} {entry : Entry} : ∀ {introduction : Introduction},
    introduction.asVariable = some (key, entry) → introduction.entry? = some entry
  | ⟨_, _, .variable _⟩, rfl => rfl
  | ⟨_, _, .function _⟩, found | ⟨_, _, .type _⟩, found => by cases found

/-- A function that is introduced is an entry. -/
lemma Introduction.entry?_of_asFunction {key : String} {entry : Entry} : ∀ {introduction : Introduction},
    introduction.asFunction = some (key, entry) → introduction.entry? = some entry
  | ⟨_, _, .function _⟩, rfl => rfl
  | ⟨_, _, .variable _⟩, found | ⟨_, _, .type _⟩, found => by cases found

/-- An introduced variable or function has an ascription among some. -/
def Introduction.AscribedIn (ascriptions : List Ascription) (introduction : Introduction) : Prop :=
  ∀ entry ∈ introduction.entry?, ∃ ascription ∈ ascriptions,
    ascription.node = entry.node ∧ ascription.written.isSome = entry.typed

/-- What is written in an ascription, and where. -/
def ascribed? (ascription : Ascription) : Option (NodeId × NodeId × TypeRef) :=
  ascription.written.map fun written => (ascription.node, ascription.owner, written)

/-- What is written at a place, as sites. -/
def Place.sites (place : Place) (writes : List (NodeId × TypeRef)) : List (NodeId × Site) :=
  writes.map fun write => (write.1, ⟨place, write.2⟩)

/-- What is written at a site, filled in. -/
def filledIn (code : Shape → TypeId) (site : NodeId × Site) : NodeId × NodeId × TypeRef :=
  (site.1, site.2.place.owner, site.2.written.bound code site.2.place.layer)

/-- The ascriptions of a part of a program, which introduces names and writes types at the place around it
and has some regions and handles. -/
structure Ascribed (code : Shape → TypeId) (place : Place) (introductions : List Introduction)
    (writes : List (NodeId × TypeRef)) (regions : List Region) (ids : List NodeId)
    (ascriptions : List Ascription) : Prop where
  nodes : (ascriptions.map Ascription.node).Sublist ids
  introduced : ∀ introduction ∈ introductions, introduction.AscribedIn ascriptions
  inside : ∀ region ∈ regions, ∀ introduction ∈ region.introductions, introduction.AscribedIn ascriptions
  written : (ascriptions.filterMap ascribed?).Perm
    ((place.sites writes ++ regions.flatMap Region.sites).map (filledIn code))

variable {code : Shape → TypeId} {place : Place} {introductions : List Introduction}
  {writes : List (NodeId × TypeRef)} {regions : List Region} {ids : List NodeId} {ascriptions more : List Ascription}

/-- What has an ascription among some has one among more. -/
lemma Introduction.AscribedIn.mono {introduction : Introduction} (h : introduction.AscribedIn ascriptions)
    (subset : ascriptions ⊆ more) : introduction.AscribedIn more := by
  intro entry mem
  obtain ⟨ascription, there, rest⟩ := h entry mem
  exact ⟨ascription, subset there, rest⟩

/-- A type parameter needs no ascription. -/
lemma ascribedIn_typeParameter {introduction : Introduction} {owner : NodeId} {position : Nat}
    {names : List Span} (mem : introduction ∈ typeParameterIntroductions owner position names) :
    introduction.AscribedIn ascriptions := by
  induction names generalizing position with
  | nil => cases mem
  | cons name rest ih =>
    rw [typeParameterIntroductions] at mem
    rcases List.mem_cons.mp mem with rfl | mem
    · nofun
    · exact ih mem

namespace Ascribed

/-- A part without ascriptions. -/
lemma none (place : Place) (ids : List NodeId) : Ascribed code place [] [] [] ids [] :=
  ⟨List.nil_sublist _, nofun, nofun, .refl _⟩

/-- The handles of a part are among more. -/
lemma widen (h : Ascribed code place introductions writes regions ids ascriptions) {others : List NodeId}
    (sublist : ids.Sublist others) : Ascribed code place introductions writes regions others ascriptions :=
  { h with nodes := h.nodes.trans sublist }

/-- A part that writes nothing at a place is the same at all places. -/
lemma anywhere (h : Ascribed code place introductions [] regions ids ascriptions) (other : Place) :
    Ascribed code other introductions [] regions ids ascriptions :=
  { h with }

/-- Two parts, one behind the other. -/
lemma append {introductions' : List Introduction} {writes' : List (NodeId × TypeRef)}
    {regions' : List Region} {ids' : List NodeId}
    (h : Ascribed code place introductions writes regions ids ascriptions)
    (g : Ascribed code place introductions' writes' regions' ids' more) :
    Ascribed code place (introductions ++ introductions') (writes ++ writes') (regions ++ regions')
      (ids ++ ids') (ascriptions ++ more) where
  nodes := by
    rw [List.map_append]
    exact h.nodes.append g.nodes
  introduced := List.forall_mem_append.mpr
    ⟨fun introduction mem => (h.introduced introduction mem).mono (List.subset_append_left _ _),
      fun introduction mem => (g.introduced introduction mem).mono (List.subset_append_right _ _)⟩
  inside := List.forall_mem_append.mpr
    ⟨fun region mem introduction there =>
      (h.inside region mem introduction there).mono (List.subset_append_left _ _),
      fun region mem introduction there =>
        (g.inside region mem introduction there).mono (List.subset_append_right _ _)⟩
  written := by
    rw [List.filterMap_append]
    refine (h.written.append g.written).trans ?_
    rw [← List.map_append]
    refine List.Perm.map _ ?_
    -- What both write at the place comes before what is written in their regions.
    rw [Place.sites, Place.sites, Place.sites, List.map_append, List.flatMap_append, ← Multiset.coe_eq_coe]
    simp only [← Multiset.coe_add]
    exact add_add_add_comm _ _ _ _

/-- A part with a region of its own, in which it introduces and writes everything. -/
lemma enclose (region : Region)
    (h : Ascribed code region.place region.introductions region.writes regions ids ascriptions) :
    Ascribed code region.place [] [] (region :: regions) ids ascriptions where
  nodes := h.nodes
  introduced := nofun
  inside := List.forall_mem_cons.mpr ⟨h.introduced, h.inside⟩
  written := h.written

/-- A part that introduces other names with ascriptions. -/
lemma introducing (h : Ascribed code place introductions writes regions ids ascriptions)
    {introductions' : List Introduction}
    (introduced : ∀ introduction ∈ introductions', introduction.AscribedIn ascriptions) :
    Ascribed code place introductions' writes regions ids ascriptions :=
  { h with introduced }

/-- A part that writes types in another order. -/
lemma writing (h : Ascribed code place introductions writes regions ids ascriptions)
    {writes' : List (NodeId × TypeRef)} (perm : writes.Perm writes') :
    Ascribed code place introductions writes' regions ids ascriptions :=
  { h with written := h.written.trans (((perm.map _).append_right _).map _) }

end Ascribed

end Analysis

/-! ## Declarations -/

/-- The ascription of a declaration. -/
lemma Declaration.ascribed_visited (setting : Setting) (owner : NodeId) (declaration : Declaration) :
    Ascribed setting.code ⟨owner, setting.around⟩ [declaration.introduction] declaration.writes []
      [declaration.id] [(declaration.visited setting).node.ascription owner] := by
  unfold Declaration.visited Declaration.introduction Declaration.writes
  obtain ⟨id, name, written, initial, type⟩ := declaration
  cases written with
  | none =>
    refine ⟨.refl _, ?_, nofun, .refl _⟩
    simp [Introduction.AscribedIn, Introduction.entry?, Declaration.ascription]
  | some written =>
    refine ⟨.refl _, ?_, nofun, .refl _⟩
    simp [Introduction.AscribedIn, Introduction.entry?, Declaration.ascription]

/-- The ascriptions of fields. -/
lemma ascribed_declarationsVisited (owner : NodeId) : ∀ (list : List Declaration) (setting : Setting),
    Ascribed setting.code ⟨owner, setting.around⟩ (list.map Declaration.introduction)
      (list.flatMap Declaration.writes) [] (list.map Declaration.id)
      ((declarationsVisited setting list).node.map (Declaration.ascription owner))
  | [], _ => .none _ _
  | declaration :: rest, setting =>
    (declaration.ascribed_visited setting owner).append
      (ascribed_declarationsVisited owner rest (setting.after (declaration.visited setting).inferred))

/-- The ascriptions of parameters. -/
lemma ascribed_parameters (setting : Setting) (owner : NodeId) (list : List Parameter) :
    Ascribed setting.code ⟨owner, setting.around⟩ (list.map Parameter.introduction)
      (list.map fun parameter => (parameter.id, parameter.written)) [] (list.map Parameter.id)
      ((list.map (Parameter.filled setting)).map (Parameter.ascription owner)) := by
  induction list with
  | nil => exact .none _ _
  | cons parameter rest ih =>
    have own : Ascribed setting.code ⟨owner, setting.around⟩ [parameter.introduction]
        [(parameter.id, parameter.written)] [] [parameter.id]
        [(parameter.filled setting).ascription owner] :=
      ⟨.refl _, by simp [Introduction.AscribedIn, Introduction.entry?, Parameter.introduction,
        Parameter.ascription, Parameter.filled], nofun, .refl _⟩
    exact own.append ih

/-- The ascription of what a function returns. -/
lemma ascribed_returns (setting : Setting) (id : NodeId) (returns : Option TypeRef) :
    Ascribed setting.code ⟨id, setting.around⟩ [] (returns.map (id, ·)).toList [] [id]
      [⟨id, id, returns.map (TypeRef.bound setting.code setting.around)⟩] := by
  cases returns with
  | none => exact ⟨.refl _, nofun, nofun, .refl _⟩
  | some written => exact ⟨.refl _, nofun, nofun, .refl _⟩

/-! ## Statements -/

mutual

/-- The ascriptions of a block. -/
lemma Block.ascribed_visited : ∀ (x : Block) (setting : Setting) (place : Place),
    Ascribed setting.code place [] [] (x.regions setting.nested setting.around) x.ids
      ((x.visited setting).node.ascriptions setting.nested)
  | ⟨id, kind, statements, span⟩, setting, place => by
    rw [Block.regions, Block.visited, Block.ascriptions, Block.ids]
    have inside := ascribed_statementsVisited id statements
      (setting.inside (statementLayer setting.nested statements))
    exact (Ascribed.enclose (Block.region setting.nested setting.around ⟨id, kind, statements, span⟩)
      (inside.widen (List.sublist_cons_self id _))).anywhere place

lemma ascribed_statementsVisited (owner : NodeId) : ∀ (x : List Statement) (setting : Setting),
    Ascribed setting.code ⟨owner, setting.around⟩ (x.flatMap (Statement.introductions setting.nested))
      (x.flatMap Statement.writes) (statementRegions setting.nested setting.around x) (statementIds x)
      (statementAscriptions setting.nested owner (statementsVisited setting x).node)
  | [], setting => by
    rw [statementRegions, statementsVisited, statementAscriptions]
    exact .none _ _
  | statement :: rest, setting => by
    rw [statementRegions, statementsVisited, statementAscriptions, List.flatMap_cons, List.flatMap_cons,
      statementIds]
    exact (statement.ascribed_visited owner setting).append
      (ascribed_statementsVisited owner rest (setting.after (statement.visited setting).inferred))

lemma Statement.ascribed_visited (owner : NodeId) : ∀ (x : Statement) (setting : Setting),
    Ascribed setting.code ⟨owner, setting.around⟩ (x.introductions setting.nested) x.writes
      (x.regions setting.nested setting.around) x.ids
      ((x.visited setting).node.ascriptions setting.nested owner)
  | .type definition, setting => by
    rw [Statement.regions, Statement.visited, Statement.introductions, Statement.writes, Statement.ids]
    split
    · next nested =>
      rw [Statement.ascriptions, if_pos nested]
      exact .none _ _
    · next outside =>
      rw [Statement.ascriptions, if_neg outside]
      refine (definition.ascribed_visited setting _).introducing fun introduction mem => ?_
      obtain rfl := List.mem_singleton.mp mem
      obtain ⟨id, name, typeParameters, fields, methods, keyword, binding⟩ := definition
      nofun
  | .function definition, setting => by
    rw [Statement.regions, Statement.visited, Statement.introductions, Statement.writes, Statement.ids]
    split
    · next nested =>
      rw [Statement.ascriptions, if_pos nested]
      exact .none _ _
    · next outside =>
      rw [Statement.ascriptions, if_neg outside]
      exact definition.ascribed_visited setting _
  | .variable declaration, setting => by
    rw [Statement.regions, Statement.visited, Statement.introductions, Statement.writes, Statement.ascriptions,
      Statement.ids]
    exact declaration.ascribed_visited setting owner
  | .whileLoop keyword condition body, setting => by
    rw [Statement.regions, Statement.visited, Statement.introductions, Statement.writes, Statement.ascriptions,
      Statement.ids]
    exact body.ascribed_visited setting _
  | .conditional conditional, setting => by
    rw [Statement.regions, Statement.visited, Statement.introductions, Statement.writes, Statement.ascriptions,
      Statement.ids]
    exact conditional.ascribed_visited setting _
  | .returning .., setting | .breaking _, setting | .continuing _, setting | .importing .., setting
  | .path .., setting | .expression _, setting => by
    rw [Statement.regions, Statement.visited, Statement.introductions, Statement.writes, Statement.ascriptions,
      Statement.ids]
    exact .none _ _

lemma Conditional.ascribed_visited : ∀ (x : Conditional) (setting : Setting) (place : Place),
    Ascribed setting.code place [] [] (x.regions setting.nested setting.around) x.ids
      ((x.visited setting).node.ascriptions setting.nested)
  | ⟨condition, body, otherwise, keyword⟩, setting, place => by
    rw [Conditional.regions, Conditional.visited, Conditional.ascriptions, Conditional.ids]
    exact (body.ascribed_visited setting place).append
      (otherwise.ascribed_visited (setting.after (body.visited setting).inferred) place)

lemma Otherwise.ascribed_visited : ∀ (x : Otherwise) (setting : Setting) (place : Place),
    Ascribed setting.code place [] [] (x.regions setting.nested setting.around) x.ids
      ((x.visited setting).node.ascriptions setting.nested)
  | .nothing, setting, place => by
    rw [Otherwise.regions, Otherwise.visited, Otherwise.ascriptions]
    exact .none _ _
  | .conditional conditional, setting, place => by
    rw [Otherwise.regions, Otherwise.visited, Otherwise.ascriptions, Otherwise.ids]
    exact conditional.ascribed_visited setting place
  | .block block, setting, place => by
    rw [Otherwise.regions, Otherwise.visited, Otherwise.ascriptions, Otherwise.ids]
    exact block.ascribed_visited setting place

lemma FunctionDef.ascribed_visited : ∀ (x : FunctionDef) (setting : Setting) (place : Place),
    Ascribed setting.code place [x.introduction] [] (x.regions setting.around) x.ids
      (x.visited setting).node.ascriptions
  | ⟨id, name, typeParameters, parameters, returns, body, keyword⟩, setting, place => by
    let definition : FunctionDef := ⟨id, name, typeParameters, parameters, returns, body, keyword⟩
    let inside := setting.inside definition.layer
    rw [FunctionDef.regions, FunctionDef.visited, FunctionDef.ascriptions, FunctionDef.ids]
    have parts := ((ascribed_returns inside id returns).append (ascribed_parameters inside id parameters)).append
      (body.ascribed_visited (inside.body (definition.returned inside.around)) ⟨id, inside.around⟩)
    rw [List.append_nil, List.append_nil] at parts
    have introduced : ∀ introduction ∈ definition.introductions, introduction.AscribedIn _ :=
      List.forall_mem_append.mpr ⟨fun _ => ascribedIn_typeParameter, parts.introduced⟩
    have own := (parts.writing List.perm_append_comm).introducing introduced
    refine ((own.enclose (definition.region setting.around)).anywhere place).introducing fun introduction mem => ?_
    obtain rfl := List.mem_singleton.mp mem
    rintro entry ⟨⟩
    exact ⟨_, List.mem_cons_self, rfl, Option.isSome_map⟩

lemma ascribed_functionsVisited : ∀ (x : List FunctionDef) (setting : Setting) (place : Place),
    Ascribed setting.code place (x.map FunctionDef.introduction) [] (functionRegions setting.around x)
      (functionIds x) (functionAscriptions (functionsVisited setting x).node)
  | [], setting, place => by
    rw [functionRegions, functionsVisited, functionAscriptions]
    exact .none _ _
  | definition :: rest, setting, place => by
    rw [functionRegions, functionsVisited, functionAscriptions, functionIds, List.map_cons]
    exact (definition.ascribed_visited setting place).append
      (ascribed_functionsVisited rest (setting.after (definition.visited setting).inferred) place)

lemma TypeDef.ascribed_visited : ∀ (x : TypeDef) (setting : Setting) (place : Place),
    Ascribed setting.code place [] [] (x.regions setting.around) x.ids (x.visited setting).node.ascriptions
  | ⟨id, name, typeParameters, fields, methods, keyword, binding⟩, setting, place => by
    let definition : TypeDef := ⟨id, name, typeParameters, fields, methods, keyword, binding⟩
    let inside := setting.inside definition.layer
    rw [TypeDef.regions, TypeDef.visited, TypeDef.ascriptions, TypeDef.ids]
    have parts := (ascribed_declarationsVisited id fields inside).append
      (ascribed_functionsVisited methods (inside.after (declarationsVisited inside fields).inferred)
        ⟨id, inside.around⟩)
    rw [List.append_nil] at parts
    have introduced : ∀ introduction ∈ definition.introductions, introduction.AscribedIn _ :=
      List.forall_mem_append.mpr ⟨fun _ => ascribedIn_typeParameter, parts.introduced⟩
    have own := (parts.widen (List.sublist_cons_self id _)).introducing introduced
    exact (own.enclose (definition.region setting.around)).anywhere place

end

end ArrowScript
