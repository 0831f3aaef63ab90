import ArrowScript.Proofs.Grammar.Pieces

/-!
# Renumbered programs

Handles are given out in the order in which nodes are read, so the same text read later gives the same tree with
other handles. `renumber ξ` gives every node of a tree another handle and leaves all else as it is; names that are
already bound to a node are not looked at, as there are none in a tree that was just read.
-/

namespace ArrowScript

/-- The handle that comes some numbers later. -/
def NodeId.later (shift : Nat) (id : NodeId) : NodeId :=
  ⟨id.index + shift⟩

section
variable (ξ : NodeId → NodeId)

/-- A declaration under another handle. -/
def Declaration.renumber (declaration : Declaration) : Declaration :=
  { declaration with id := ξ declaration.id }

/-- A parameter under another handle. -/
def Parameter.renumber (parameter : Parameter) : Parameter :=
  { parameter with id := ξ parameter.id }

mutual

/-- A block under other handles. -/
def Block.renumber : Block → Block
  | ⟨id, kind, statements, span⟩ => ⟨ξ id, kind, statementsRenumbered statements, span⟩

/-- Some statements under other handles. -/
def statementsRenumbered : List Statement → List Statement
  | [] => []
  | statement :: rest => statement.renumber :: statementsRenumbered rest

/-- A statement under other handles. -/
def Statement.renumber : Statement → Statement
  | .type definition => .type definition.renumber
  | .function definition => .function definition.renumber
  | .variable declaration => .variable (declaration.renumber ξ)
  | .whileLoop keyword condition body => .whileLoop keyword condition body.renumber
  | .conditional conditional => .conditional conditional.renumber
  | .returning keyword value => .returning keyword value
  | .breaking keyword => .breaking keyword
  | .continuing keyword => .continuing keyword
  | .importing keyword target => .importing keyword target
  | .path keyword target => .path keyword target
  | .expression expression => .expression expression

/-- A conditional under other handles. -/
def Conditional.renumber : Conditional → Conditional
  | ⟨condition, body, otherwise, keyword⟩ => ⟨condition, body.renumber, otherwise.renumber, keyword⟩

/-- What is done when a condition fails, under other handles. -/
def Otherwise.renumber : Otherwise → Otherwise
  | .nothing => .nothing
  | .conditional conditional => .conditional conditional.renumber
  | .block block => .block block.renumber

/-- A function under other handles. -/
def FunctionDef.renumber : FunctionDef → FunctionDef
  | ⟨id, name, typeParameters, parameters, returns, body, keyword⟩ =>
    ⟨ξ id, name, typeParameters, parameters.map (Parameter.renumber ξ), returns, body.renumber, keyword⟩

/-- Some functions under other handles. -/
def functionsRenumbered : List FunctionDef → List FunctionDef
  | [] => []
  | definition :: rest => definition.renumber :: functionsRenumbered rest

/-- A type under other handles. -/
def TypeDef.renumber : TypeDef → TypeDef
  | ⟨id, name, typeParameters, fields, methods, keyword, binding⟩ =>
    ⟨ξ id, name, typeParameters, fields.map (Declaration.renumber ξ), functionsRenumbered methods, keyword, binding⟩

end

/-- Each of some statements is renumbered. -/
lemma statementsRenumbered_eq_map (statements : List Statement) :
    statementsRenumbered ξ statements = statements.map (Statement.renumber ξ) := by
  induction statements with
  | nil => rw [statementsRenumbered, List.map_nil]
  | cons statement rest ih => rw [statementsRenumbered, ih, List.map_cons]

end

/-! ## The same handles -/

lemma Declaration.renumber_zero : Declaration.renumber (.later 0) = fun declaration => declaration :=
  rfl

lemma Parameter.renumber_zero : Parameter.renumber (.later 0) = fun parameter => parameter :=
  rfl

mutual

/-- No numbers later a block is as it was. -/
lemma Block.renumber_zero : ∀ block : Block, block.renumber (.later 0) = block
  | ⟨_, _, statements, _⟩ => by
    rw [Block.renumber, statementsRenumbered_zero statements]
    rfl

lemma statementsRenumbered_zero : ∀ statements : List Statement, statementsRenumbered (.later 0) statements = statements
  | [] => by rw [statementsRenumbered]
  | statement :: rest => by rw [statementsRenumbered, statement.renumber_zero, statementsRenumbered_zero rest]

lemma Statement.renumber_zero : ∀ statement : Statement, statement.renumber (.later 0) = statement
  | .type definition => by rw [Statement.renumber, definition.renumber_zero]
  | .function definition => by rw [Statement.renumber, definition.renumber_zero]
  | .variable declaration => by rw [Statement.renumber, Declaration.renumber_zero]
  | .whileLoop _ _ body => by rw [Statement.renumber, body.renumber_zero]
  | .conditional conditional => by rw [Statement.renumber, conditional.renumber_zero]
  | .returning .. | .breaking _ | .continuing _ | .importing .. | .path .. | .expression _ => by
    rw [Statement.renumber]

lemma Conditional.renumber_zero : ∀ conditional : Conditional, conditional.renumber (.later 0) = conditional
  | ⟨_, body, otherwise, _⟩ => by rw [Conditional.renumber, body.renumber_zero, otherwise.renumber_zero]

lemma Otherwise.renumber_zero : ∀ otherwise : Otherwise, otherwise.renumber (.later 0) = otherwise
  | .nothing => by rw [Otherwise.renumber]
  | .conditional conditional => by rw [Otherwise.renumber, conditional.renumber_zero]
  | .block block => by rw [Otherwise.renumber, block.renumber_zero]

lemma FunctionDef.renumber_zero : ∀ definition : FunctionDef, definition.renumber (.later 0) = definition
  | ⟨_, _, _, parameters, _, body, _⟩ => by
    rw [FunctionDef.renumber, Parameter.renumber_zero, List.map_id', body.renumber_zero]
    rfl

lemma functionsRenumbered_zero : ∀ definitions : List FunctionDef,
    functionsRenumbered (.later 0) definitions = definitions
  | [] => by rw [functionsRenumbered]
  | definition :: rest => by rw [functionsRenumbered, definition.renumber_zero, functionsRenumbered_zero rest]

lemma TypeDef.renumber_zero : ∀ definition : TypeDef, definition.renumber (.later 0) = definition
  | ⟨_, _, _, fields, methods, _, _⟩ => by
    rw [TypeDef.renumber, Declaration.renumber_zero, List.map_id', functionsRenumbered_zero methods]
    rfl

end

end ArrowScript
