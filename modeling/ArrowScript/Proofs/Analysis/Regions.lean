import ArrowScript.Proofs.Analysis.Owners
import ArrowScript.Proofs.Analysis.Shapes

/-!
# Regions of a program

Blocks, functions and types have a region of their own, in which names are introduced. What can be seen from
a region is a layer: what the region introduces, over what can be seen around it. `Block.regions` lists the
regions of a program with everything that the analysis collects there before it looks any name up: names,
written types, the types to be registered and the names that are introduced a second time. Definitions inside
functions introduce nothing and have no regions.
-/

namespace ArrowScript.Analysis

/-! ## Layers -/

/-- What is introduced in a region, or what can be seen from it, under the keys that names are kept under. -/
@[ext]
structure Layer where
  variableOf : String → Option Entry
  functionOf : String → Option Entry
  originOf : String → Option Origin

/-- What a name is introduced as. -/
inductive Meaning
  | variable (entry : Entry)
  | function (entry : Entry)
  | type (origin : Origin)

/-- A name that is introduced, and the key that it is kept under. -/
structure Introduction where
  name : Span
  key : String
  meaning : Meaning

namespace Introduction

/-- What kind of name is introduced. -/
def what (introduction : Introduction) : Declared :=
  match introduction.meaning with
  | .variable _ => .variable
  | .function _ => .function
  | .type _ => .type

/-- The kind of a name and the key that it is kept under. -/
def slot (introduction : Introduction) : Declared × String :=
  (introduction.what, introduction.key)

/-- The introduced variable. -/
def asVariable (introduction : Introduction) : Option (String × Entry) :=
  match introduction.meaning with
  | .variable entry => some (introduction.key, entry)
  | .function _ | .type _ => none

/-- The introduced function. -/
def asFunction (introduction : Introduction) : Option (String × Entry) :=
  match introduction.meaning with
  | .function entry => some (introduction.key, entry)
  | .variable _ | .type _ => none

/-- The introduced type. -/
def asType (introduction : Introduction) : Option (String × Origin) :=
  match introduction.meaning with
  | .type origin => some (introduction.key, origin)
  | .variable _ | .function _ => none

end Introduction

namespace Layer

/-- Nothing is introduced. -/
def empty : Layer :=
  ⟨fun _ => none, fun _ => none, fun _ => none⟩

/-- What an inner layer introduces hides what an outer one does. -/
def shadowing (inner outer : Layer) : Layer where
  variableOf key := (inner.variableOf key).or (outer.variableOf key)
  functionOf key := (inner.functionOf key).or (outer.functionOf key)
  originOf key := (inner.originOf key).or (outer.originOf key)

/-- Of several introductions under one key the first counts. -/
def of (introductions : List Introduction) : Layer where
  variableOf key := (introductions.filterMap Introduction.asVariable).lookup key
  functionOf key := (introductions.filterMap Introduction.asFunction).lookup key
  originOf key := (introductions.filterMap Introduction.asType).lookup key

/-- The declaration that the name of a written type stands for. -/
def origin? (layer : Layer) (written : TypeRef) : Option Origin :=
  if written.builtin then (TypeRegistry.builtin? written.name.content).map .builtin
  else layer.originOf written.mangledName

/-- The shape that a written type stands for. -/
def shape? (layer : Layer) (written : TypeRef) : Option Shape :=
  (layer.origin? written).map fun origin => ⟨origin, if written.array then 1 else 0⟩

end Layer

/-- A node with a region, and what can be seen from there. -/
structure Place where
  owner : NodeId
  layer : Layer

/-- A written type and the place that it stands in. -/
structure Site where
  place : Place
  written : TypeRef

/-- What is collected in a region. -/
structure Region where
  place : Place
  introductions : List Introduction
  /-- The written types of declarations. -/
  writes : List (NodeId × TypeRef)
  /-- The function or type that the region belongs to, if it is not that of a block. -/
  definition : Option (FunctionDef ⊕ TypeDef)
  /-- The definitions that may not stand in the region. -/
  forbidden : List (Finding SemanticProblem)

end ArrowScript.Analysis

namespace ArrowScript
open Analysis

/-! ## Introductions -/

/-- The type parameters of a definition. -/
def typeParameterIntroductions (owner : NodeId) : Nat → List Span → List Introduction
  | _, [] => []
  | position, name :: rest =>
    ⟨name, name.content, .type (.parameter owner position name.content)⟩ ::
      typeParameterIntroductions owner (position + 1) rest

/-- A declared variable. -/
def Declaration.introduction (declaration : Declaration) : Introduction :=
  ⟨declaration.name, declaration.name.content, .variable ⟨declaration.id, declaration.written.isSome⟩⟩

/-- A parameter. -/
def Parameter.introduction (parameter : Parameter) : Introduction :=
  ⟨parameter.name, parameter.name.content, .variable ⟨parameter.id, true⟩⟩

namespace FunctionDef

/-- A function, in the region around it. -/
def introduction : FunctionDef → Introduction
  | ⟨id, name, typeParameters, _, returns, _, _⟩ =>
    ⟨name, mangle name.content (typeArity typeParameters), .function ⟨id, returns.isSome⟩⟩

/-- What a function introduces in its own region. -/
def introductions : FunctionDef → List Introduction
  | ⟨id, _, typeParameters, parameters, _, _, _⟩ =>
    typeParameterIntroductions id 0 (typeParameters.getD []) ++ parameters.map Parameter.introduction

/-- The layer of a function. -/
def layer (definition : FunctionDef) : Layer :=
  .of definition.introductions

/-- The written types of the parameters of a function and of what it returns. -/
def writes : FunctionDef → List (NodeId × TypeRef)
  | ⟨id, _, _, parameters, returns, _, _⟩ =>
    parameters.map (fun parameter => (parameter.id, parameter.written)) ++ (returns.map (id, ·)).toList

/-- The region of a function. -/
def region (around : Layer) (definition : FunctionDef) : Region where
  place := ⟨definition.id, definition.layer.shadowing around⟩
  introductions := definition.introductions
  writes := definition.writes
  definition := some (.inl definition)
  forbidden := []

end FunctionDef

/-- The written type of a variable. -/
def Declaration.writes (declaration : Declaration) : List (NodeId × TypeRef) :=
  (declaration.written.map (declaration.id, ·)).toList

namespace TypeDef

/-- A type, in the region around it. -/
def introduction : TypeDef → Introduction
  | ⟨id, name, typeParameters, _, _, _, _⟩ =>
    ⟨name, mangle name.content (typeArity typeParameters), .type (.user id name.content)⟩

/-- What a type introduces in its own region. -/
def introductions : TypeDef → List Introduction
  | ⟨id, _, typeParameters, fields, methods, _, _⟩ =>
    typeParameterIntroductions id 0 (typeParameters.getD []) ++
      (fields.map Declaration.introduction ++ methods.map FunctionDef.introduction)

/-- The layer of a type. -/
def layer (definition : TypeDef) : Layer :=
  .of definition.introductions

/-- The region of a type. -/
def region (around : Layer) (definition : TypeDef) : Region where
  place := ⟨definition.id, definition.layer.shadowing around⟩
  introductions := definition.introductions
  writes := definition.fields.flatMap Declaration.writes
  definition := some (.inr definition)
  forbidden := []

end TypeDef

namespace Statement

/-- What a statement introduces in the region around it. -/
def introductions (nested : Bool) : Statement → List Introduction
  | .type definition => if nested then [] else [definition.introduction]
  | .function definition => if nested then [] else [definition.introduction]
  | .variable declaration => [declaration.introduction]
  | .whileLoop .. | .conditional _ | .returning .. | .breaking _ | .continuing _ | .importing ..
  | .path .. | .expression _ => []

/-- The written type of the variable that a statement declares. -/
def writes : Statement → List (NodeId × TypeRef)
  | .variable declaration => declaration.writes
  | .type _ | .function _ | .whileLoop .. | .conditional _ | .returning .. | .breaking _ | .continuing _
  | .importing .. | .path .. | .expression _ => []

/-- A definition inside a function. -/
def forbidden (nested : Bool) : Statement → List (Finding SemanticProblem)
  | .type definition => if nested then [⟨.typeInFunction, definition.keyword⟩] else []
  | .function definition => if nested then [⟨.functionInFunction, definition.keyword⟩] else []
  | .variable _ | .whileLoop .. | .conditional _ | .returning .. | .breaking _ | .continuing _
  | .importing .. | .path .. | .expression _ => []

end Statement

/-- The layer of a block. -/
def statementLayer (nested : Bool) (statements : List Statement) : Layer :=
  .of (statements.flatMap (Statement.introductions nested))

/-- The region of a block. -/
def Block.region (nested : Bool) (around : Layer) : Block → Region
  | ⟨id, _, statements, _⟩ =>
    { place := ⟨id, (statementLayer nested statements).shadowing around⟩
      introductions := statements.flatMap (Statement.introductions nested)
      writes := statements.flatMap Statement.writes
      definition := none
      forbidden := statements.flatMap (Statement.forbidden nested) }

/-! ## Regions -/

mutual

/-- The regions in a block, its own first. -/
def Block.regions (nested : Bool) (around : Layer) : Block → List Region
  | ⟨id, kind, statements, span⟩ =>
    let region := Block.region nested around ⟨id, kind, statements, span⟩
    region :: statementRegions nested region.place.layer statements

/-- The regions in some statements. -/
def statementRegions (nested : Bool) (around : Layer) : List Statement → List Region
  | [] => []
  | statement :: rest => statement.regions nested around ++ statementRegions nested around rest

/-- The regions in a statement. -/
def Statement.regions (nested : Bool) (around : Layer) : Statement → List Region
  | .type definition => if nested then [] else definition.regions around
  | .function definition => if nested then [] else definition.regions around
  | .whileLoop _ _ body => body.regions nested around
  | .conditional conditional => conditional.regions nested around
  | .variable _ | .returning .. | .breaking _ | .continuing _ | .importing .. | .path ..
  | .expression _ => []

/-- The regions in a conditional. -/
def Conditional.regions (nested : Bool) (around : Layer) : Conditional → List Region
  | ⟨_, body, otherwise, _⟩ => body.regions nested around ++ otherwise.regions nested around

/-- The regions in what is done when a condition fails. -/
def Otherwise.regions (nested : Bool) (around : Layer) : Otherwise → List Region
  | .nothing => []
  | .conditional conditional => conditional.regions nested around
  | .block block => block.regions nested around

/-- The regions in a function, its own first. -/
def FunctionDef.regions (around : Layer) : FunctionDef → List Region
  | ⟨id, name, typeParameters, parameters, returns, body, keyword⟩ =>
    let region := FunctionDef.region around ⟨id, name, typeParameters, parameters, returns, body, keyword⟩
    region :: body.regions true region.place.layer

/-- The regions in some functions. -/
def functionRegions (around : Layer) : List FunctionDef → List Region
  | [] => []
  | definition :: rest => definition.regions around ++ functionRegions around rest

/-- The regions in a type, its own first. -/
def TypeDef.regions (around : Layer) : TypeDef → List Region
  | ⟨id, name, typeParameters, fields, methods, keyword, binding⟩ =>
    let region :=
      TypeDef.region around ⟨id, name, typeParameters, fields, methods, keyword, binding⟩
    region :: functionRegions region.place.layer methods

end

/-- The regions in statements are those in each of them. -/
lemma statementRegions_eq_flatMap (nested : Bool) (around : Layer) (statements : List Statement) :
    statementRegions nested around statements = statements.flatMap (Statement.regions nested around) := by
  induction statements with
  | nil => rfl
  | cons statement rest ih => rw [statementRegions, ih, List.flatMap_cons]

/-- The regions in functions are those in each of them. -/
lemma functionRegions_eq_flatMap (around : Layer) (definitions : List FunctionDef) :
    functionRegions around definitions = definitions.flatMap (FunctionDef.regions around) := by
  induction definitions with
  | nil => rfl
  | cons definition rest ih => rw [functionRegions, ih, List.flatMap_cons]

namespace Analysis

/-! ## What regions contribute -/

/-- Where names of a kind were introduced first, when there is one more introduction. -/
def noting (introduction : Introduction) (known : Declared → String → Option Span) (what : Declared)
    (key : String) : Option Span :=
  (known what key).or
    (if what = introduction.what ∧ key = introduction.key then some introduction.name else none)

/-- Reports the names that are introduced a second time; `known` tells where names were introduced before. -/
def repeated (known : Declared → String → Option Span) : List Introduction → List (Finding SemanticProblem)
  | [] => []
  | introduction :: rest =>
    ((known introduction.what introduction.key).map fun first =>
      ⟨.alreadyDefined introduction.what introduction.name.content first, introduction.name⟩).toList ++
        repeated (noting introduction known) rest

namespace Region

/-- The declarations of the types that are registered for a region, in this order. -/
def origins (region : Region) : List Origin :=
  match region.definition with
  | none => []
  | some (.inl _) => (region.introductions.filterMap Introduction.asType).map Prod.snd
  | some (.inr definition) =>
    .user definition.id definition.name.content ::
      (region.introductions.filterMap Introduction.asType).map Prod.snd

/-- The problems of what a region introduces. -/
def problems (region : Region) : List (Finding SemanticProblem) :=
  repeated (fun _ _ => none) region.introductions ++ region.forbidden

/-- The written types of declarations and the place that they stand in. -/
def sites (region : Region) : List (NodeId × Site) :=
  region.writes.map fun write => (write.1, ⟨region.place, write.2⟩)

/-- The members that a type has. -/
def members (region : Region) : Option (NodeId × Layer) :=
  match region.definition with
  | some (.inr _) => some (region.place.owner, .of region.introductions)
  | some (.inl _) | none => none

/-- The parameters that a function has. -/
def signature (region : Region) : Option (NodeId × List NodeId) :=
  match region.definition with
  | some (.inl definition) => some (region.place.owner, definition.parameters.map Parameter.id)
  | some (.inr _) | none => none

end Region

end Analysis

/-- The declared types of a program in the order of their handles. -/
def Block.typeOrigins (root : Block) : List Origin :=
  builtinOrigins ++ (root.regions false .empty).flatMap Region.origins

end ArrowScript
