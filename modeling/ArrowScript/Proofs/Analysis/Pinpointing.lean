import ArrowScript.Proofs.Analysis.AccountingPrograms

/-!
# Places of problems

The account of a program keeps the spans of its pieces, and each problem in it is at the span of a piece or at two
of them combined. So if all pieces lie in a source, the pieces of the analyzed program and the problems do, too; what
it takes for a span to lie there does not matter as long as spans can be combined.
-/

namespace ArrowScript
open Analysis

/-- Spans can be combined. -/
def Combinable (P : Span → Prop) : Prop :=
  ∀ {first second combined : Span}, P first → P second → first.combine second = .ok combined → P combined

/-- The spans of all pieces have a property. -/
def AllPlaced (P : Span → Prop) (pieces : List Piece) : Prop :=
  ∀ piece ∈ pieces, P piece.span

/-- An account keeps spans, and the problems in it are at spans that have a property. -/
structure Pins (P : Span → Prop) (before after : List Piece) (problems : List (Finding SemanticProblem)) : Prop where
  same : after.map Piece.span = before.map Piece.span
  found : ∀ problem ∈ problems, P problem.span

variable {P : Span → Prop} {pieces before after first second : List Piece} {problems : List (Finding SemanticProblem)}
  {span : Span}

namespace AllPlaced

lemma left (h : AllPlaced P (first ++ second)) : AllPlaced P first :=
  fun piece mem => h piece (List.mem_append_left _ mem)

lemma right (h : AllPlaced P (first ++ second)) : AllPlaced P second :=
  fun piece mem => h piece (List.mem_append_right _ mem)

lemma head {piece : Piece} (h : AllPlaced P (piece :: pieces)) : P piece.span :=
  h piece List.mem_cons_self

lemma tail {piece : Piece} (h : AllPlaced P (piece :: pieces)) : AllPlaced P pieces :=
  fun other mem => h other (List.mem_cons_of_mem _ mem)

/-- Pieces at the same spans. -/
lemma of_same (h : AllPlaced P before) (same : after.map Piece.span = before.map Piece.span) : AllPlaced P after := by
  intro piece mem
  obtain ⟨other, known, e⟩ := List.mem_map.mp (same ▸ List.mem_map_of_mem (f := Piece.span) mem)
  exact e ▸ h other known

end AllPlaced

/-- Nothing changes and nothing is reported. -/
lemma Pins.refl (pieces : List Piece) : Pins P pieces pieces [] :=
  ⟨rfl, List.forall_mem_nil _⟩

/-! ## Written types -/

section
variable (code : Shape → TypeId) (layer : Layer)

mutual

/-- Filling in a written type keeps its pieces. -/
lemma TypeRef.pieces_filled : ∀ written : TypeRef, (written.filled code layer).pieces = written.pieces
  | ⟨name, builtin, arguments, array, binding⟩ => by
    rw [TypeRef.filled, TypeRef.pieces, TypeRef.pieces, typePieces_filled arguments]

lemma typePieces_filled : ∀ list : List TypeRef, typePieces (typesFilled code layer list) = typePieces list
  | [] => by rw [typesFilled]
  | written :: rest => by
    obtain ⟨name, builtin, arguments, array, binding⟩ := written
    have head := TypeRef.pieces_filled ⟨name, builtin, arguments, array, binding⟩
    rw [TypeRef.filled, TypeRef.pieces] at head
    rw [typesFilled, TypeRef.filled, typePieces, typePieces, typePieces_filled rest, TypeRef.pieces, head]

end

lemma TypeRef.pieces_bound (written : TypeRef) : (written.bound code layer).pieces = written.pieces := by
  obtain ⟨name, builtin, arguments, array, binding⟩ := written
  rw [TypeRef.bound, TypeRef.pieces_filled, TypeRef.pieces, TypeRef.pieces]

end

mutual

/-- Unknown names are at pieces of the written type. -/
lemma TypeRef.unknown_placed (layer : Layer) : ∀ {written : TypeRef}, AllPlaced P written.pieces →
    ∀ problem ∈ written.unknown layer, P problem.span
  | ⟨name, builtin, arguments, array, binding⟩, placed => by
    rw [TypeRef.pieces] at placed
    rw [TypeRef.unknown, List.forall_mem_append]
    refine ⟨?_, unknownNames_placed layer placed.tail⟩
    split
    · rw [List.forall_mem_singleton]
      exact placed.head
    · exact List.forall_mem_nil _

lemma unknownNames_placed (layer : Layer) : ∀ {list : List TypeRef}, AllPlaced P (typePieces list) →
    ∀ problem ∈ unknownNames layer list, P problem.span
  | [], _ => by
    rw [unknownNames]
    exact List.forall_mem_nil _
  | written :: rest, placed => by
    rw [typePieces] at placed
    rw [unknownNames, List.forall_mem_append]
    exact ⟨TypeRef.unknown_placed layer placed.left, unknownNames_placed layer placed.right⟩

end

/-! ## Names -/

namespace Analysis.Setting

variable (setting : Setting)

/-- A problem of a found type is at the given span. -/
lemma mismatch_placed (problem : TypeId → TypeId → SemanticProblem) (expected found : Option Shape) (placed : P span) :
    ∀ finding ∈ setting.mismatch problem expected found span, P finding.span := by
  unfold mismatch
  split
  · split
    · exact List.forall_mem_nil _
    · rwa [List.forall_mem_singleton]
  · exact List.forall_mem_nil _

lemma missing_placed (what : Declared) {identifier : Identifier} (owner : Option Shape) (placed : P identifier.span) :
    ∀ finding ∈ [setting.missing what identifier owner], P finding.span := by
  rw [List.forall_mem_singleton]
  unfold missing
  split <;> exact placed

/-- The name of a variable stays where it is, and is what is reported. -/
lemma judgeVariable_pins (owner : Option Shape) {identifier : Identifier} (placed : P identifier.span) :
    Pins P [.link identifier] [.link (setting.judgeVariable owner identifier).node]
      (setting.judgeVariable owner identifier).problems := by
  unfold judgeVariable
  split
  · exact ⟨rfl, List.forall_mem_nil _⟩
  · exact ⟨rfl, setting.missing_placed _ _ placed⟩

lemma argumentMismatches_placed (function : String) : ∀ (position : Nat) (parameters : List NodeId)
    {arguments : List (Option Shape × Span)}, (∀ argument ∈ arguments, P argument.2) →
    ∀ finding ∈ setting.argumentMismatches function position parameters arguments, P finding.span
  | _, [], _, _ => by simp [argumentMismatches]
  | _, _ :: _, [], _ => by simp [argumentMismatches]
  | position, parameter :: parameters, (found, span) :: arguments, placed => by
    rw [argumentMismatches, List.forall_mem_append]
    rw [List.forall_mem_cons] at placed
    exact ⟨setting.mismatch_placed _ _ _ placed.1,
      argumentMismatches_placed function (position + 1) parameters placed.2⟩

/-- The name of a function stays where it is, and is what is reported, or its arguments. -/
lemma judgeFunction_pins (owner : Option Shape) (arity : Nat) {arguments : List (Option Shape × Span)}
    {identifier : Identifier} (placed : P identifier.span) (each : ∀ argument ∈ arguments, P argument.2) :
    Pins P [.link identifier] [.link (setting.judgeFunction owner arity arguments identifier).node]
      (setting.judgeFunction owner arity arguments identifier).problems := by
  unfold judgeFunction
  split
  · refine ⟨rfl, ?_⟩
    simp only [argumentProblems, List.forall_mem_append]
    refine ⟨?_, setting.argumentMismatches_placed _ _ _ each⟩
    split
    · rwa [List.forall_mem_singleton]
    · exact List.forall_mem_nil _
  · exact ⟨rfl, setting.missing_placed _ _ placed⟩

/-- Type arguments stay where they are, and their names are what is reported. -/
lemma judgeTypeArguments_pins {written : Option (List TypeRef)} (placed : AllPlaced P (written.elim [] typePieces)) :
    Pins P (written.elim [] typePieces) ((setting.judgeTypeArguments written).node.elim [] typePieces)
      (setting.judgeTypeArguments written).problems := by
  cases written with
  | none => exact .refl _
  | some list =>
    refine ⟨?_, unknownNames_placed _ placed⟩
    simp only [judgeTypeArguments, Option.elim_some, typePieces_eq_flatMap, List.flatMap_map, TypeRef.pieces_bound]

/-- The name of a made type stays where it is, and is what is reported. -/
lemma judgeConstructed_pins (arity : Nat) {identifier : Identifier} (placed : P identifier.span) :
    Pins P [.link identifier] [.link (setting.judgeConstructed arity identifier).node]
      (setting.judgeConstructed arity identifier).problems := by
  unfold judgeConstructed
  split
  · exact ⟨rfl, List.forall_mem_nil _⟩
  · refine ⟨rfl, ?_⟩
    rwa [List.forall_mem_singleton]

/-! ## Operations -/

lemma operandProblems_placed (left right : Option Shape) (placed : P span) :
    ∀ finding ∈ setting.operandProblems span left right, P finding.span := by
  unfold operandProblems
  split
  · split
    · rwa [List.forall_mem_singleton]
    · exact List.forall_mem_nil _
  · exact List.forall_mem_nil _

lemma indexProblems_placed {index : Expression} (shape : Option Shape) (placed : P index.root.span) :
    ∀ finding ∈ setting.indexProblems index shape, P finding.span := by
  unfold indexProblems
  split
  · split
    · exact List.forall_mem_nil _
    · rwa [List.forall_mem_singleton]
  · exact List.forall_mem_nil _

end Analysis.Setting

/-- The span of an expression is that of a piece. -/
lemma Expr.span_placed : ∀ {expr : Expr}, AllPlaced P expr.pieces → P expr.span
  | .binary _ _ left _ _, placed => by
    rw [Expr.pieces] at placed
    exact left.span_placed placed.left
  | .unary .., placed | .literal .., placed | .new .., placed | .newArray .., placed | .nothing _, placed
  | .missing _, placed => by
    rw [Expr.pieces] at placed
    exact placed.head
  | .chain ⟨_, _, _⟩, placed => by
    rw [Expr.pieces, Chain.pieces] at placed
    exact placed.head

lemma Expression.span_placed : ∀ {expression : Expression}, AllPlaced P expression.pieces → P expression.root.span
  | ⟨_, _⟩, placed => by
    rw [Expression.pieces] at placed
    exact Expr.span_placed placed

/-- A call that is assigned to is reported from its start to its end. -/
lemma targetProblems_placed (combines : Combinable P) (operator : BinaryOperator) {target : Expr}
    (placed : AllPlaced P target.pieces) : ∀ finding ∈ targetProblems operator target, P finding.span := by
  unfold targetProblems
  split
  · next path =>
    split
    · next close last =>
      obtain ⟨links, span, type⟩ := path
      rw [Expr.pieces, Chain.pieces] at placed
      obtain ⟨piece, mem, rfl⟩ := close_mem_pieces (List.mem_map_of_mem (f := Link.close) (List.mem_of_getLast? last))
      have start : P span := placed.head
      have stop := placed.tail piece mem
      rw [List.forall_mem_singleton]
      -- Where both ends cannot be combined the last one is reported, which is a piece, too.
      show P ((span.combine _).toOption.getD _)
      cases e : span.combine _ with
      | ok combined => exact combines start stop e
      | error => exact stop
    · exact List.forall_mem_nil _
  · exact List.forall_mem_nil _

/-! ## Links -/

/-- A name with an index. -/
lemma indexed_pins (setting : Setting) {identifier : Identifier} {index : Expression} {close : Span}
    {inner : Judged Expression (Option Shape)} {name : Judged Identifier (Option Shape)}
    (placed : AllPlaced P (.link identifier :: (index.pieces ++ [.mark close])))
    (h : Pins P index.pieces inner.node.pieces inner.problems)
    (g : Pins P [.link identifier] [.link name.node] name.problems) :
    Pins P (Link.index identifier index close).pieces (Link.index name.node inner.node close).pieces
      (inner.problems ++ setting.indexProblems inner.node inner.shape ++ name.problems) := by
  obtain ⟨same, -⟩ := List.cons.inj g.same
  refine ⟨?_, ?_⟩
  · simp only [Link.pieces, List.map_cons, List.map_append, same, h.same]
  · simp only [List.forall_mem_append]
    have stays : AllPlaced P inner.node.pieces := placed.tail.left.of_same h.same
    exact ⟨⟨h.found, setting.indexProblems_placed _ (Expression.span_placed stays)⟩, g.found⟩

/-- A call. -/
lemma called_pins {identifier : Identifier} {written : Option (List TypeRef)} {arguments : List Expression}
    {close : Span} {list : Judged (List Expression) (List (Option Shape × Span))}
    {types : Judged (Option (List TypeRef)) Nat} {name : Judged Identifier (Option Shape)}
    (h : Pins P (argumentPieces arguments) (argumentPieces list.node) list.problems)
    (g : Pins P (written.elim [] typePieces) (types.node.elim [] typePieces) types.problems)
    (f : Pins P [.link identifier] [.link name.node] name.problems) :
    Pins P (Link.call identifier written arguments close).pieces (Link.call name.node types.node list.node close).pieces
      (list.problems ++ types.problems ++ name.problems) := by
  obtain ⟨same, -⟩ := List.cons.inj f.same
  refine ⟨?_, ?_⟩
  · simp only [Link.pieces, List.map_cons, List.map_append, same, g.same, h.same]
  · simp only [List.forall_mem_append]
    exact ⟨⟨h.found, g.found⟩, f.found⟩

/-! ## Expressions -/

section
variable (setting : Setting)

mutual

/-- The account of an expression keeps its pieces, and its problems are at them. -/
lemma Expr.judged_pins (combines : Combinable P) : ∀ {expr : Expr}, AllPlaced P expr.pieces →
    Pins P expr.pieces (expr.judged setting).node.pieces (expr.judged setting).problems
  | .binary operator operatorSpan left right _, placed => by
    rw [Expr.pieces] at placed
    have head := left.judged_pins combines placed.left
    have tail := right.judged_pins combines placed.right.tail
    rw [Expr.judged]
    refine ⟨?_, ?_⟩
    · simp only [Expr.pieces, List.map_append, List.map_cons, head.same, tail.same]
    · simp only [List.forall_mem_append]
      exact ⟨⟨⟨head.found, targetProblems_placed combines operator (placed.left.of_same head.same)⟩, tail.found⟩,
        setting.operandProblems_placed _ _ placed.right.head⟩
  | .unary operator operatorSpan operand _, placed => by
    rw [Expr.pieces] at placed
    have inner := operand.judged_pins combines placed.tail
    rw [Expr.judged]
    refine ⟨?_, inner.found⟩
    simp only [Expr.pieces, List.map_cons, inner.same]
  | .chain path, placed => by
    rw [Expr.pieces] at placed ⊢
    rw [Expr.judged]
    simp only [Expr.pieces]
    exact path.judged_pins combines placed
  | .literal kind span _, placed => by
    rw [Expr.judged]
    exact .refl _
  | .new keyword path, placed => by
    rw [Expr.pieces] at placed
    have inner := path.judgedNew_pins combines placed.tail
    rw [Expr.judged]
    refine ⟨?_, inner.found⟩
    simp only [Expr.pieces, List.map_cons, inner.same]
  | .newArray keyword element, placed => by
    rw [Expr.pieces] at placed
    have inner := element.judged_pins combines placed.tail
    rw [Expr.judged]
    refine ⟨?_, inner.found⟩
    simp only [Expr.pieces, List.map_cons, inner.same]
  | .nothing span, _ | .missing span, _ => by
    rw [Expr.judged]
    exact .refl _

lemma Expression.judged_pins (combines : Combinable P) : ∀ {expression : Expression}, AllPlaced P expression.pieces →
    Pins P expression.pieces (expression.judged setting).node.pieces (expression.judged setting).problems
  | ⟨root, _⟩, placed => by
    rw [Expression.pieces] at placed ⊢
    rw [Expression.judged]
    simp only [Expression.pieces]
    exact root.judged_pins combines placed

/-- The account of a chain keeps its pieces, and its problems are at them. -/
lemma Chain.judged_pins (combines : Combinable P) : ∀ {path : Chain}, AllPlaced P path.pieces →
    Pins P path.pieces (path.judged setting).node.pieces (path.judged setting).problems
  | ⟨links, span, _⟩, placed => by
    rw [Chain.pieces] at placed
    have inner := linksJudged_pins combines none placed.tail
    rw [Chain.judged]
    refine ⟨?_, inner.found⟩
    simp only [Chain.pieces, List.map_cons, inner.same]

lemma Chain.judgedNew_pins (combines : Combinable P) : ∀ {path : Chain}, AllPlaced P path.pieces →
    Pins P path.pieces (path.judgedNew setting).node.pieces (path.judgedNew setting).problems
  | ⟨[], span, _⟩, _ => by
    rw [Chain.judgedNew]
    exact .refl _
  | ⟨first :: rest, span, _⟩, placed => by
    rw [Chain.pieces, linkPieces] at placed
    have head := first.judgedMade_pins combines placed.tail.left
    rw [Chain.judgedNew]
    simp only
    split
    · -- Without a known owner the links behind are left as they are.
      refine ⟨?_, head.found⟩
      simp only [Chain.pieces, linkPieces, List.map_cons, List.map_append, head.same]
    · next owner _ =>
      have tail := linksJudged_pins combines (some owner) placed.tail.right
      refine ⟨?_, List.forall_mem_append.mpr ⟨head.found, tail.found⟩⟩
      simp only [Chain.pieces, linkPieces, List.map_cons, List.map_append, head.same, tail.same]

lemma linksJudged_pins (combines : Combinable P) : ∀ (owner : Option Shape) {links : List Link},
    AllPlaced P (linkPieces links) →
    Pins P (linkPieces links) (linkPieces (linksJudged setting owner links).node)
      (linksJudged setting owner links).problems
  | _, [], _ => by
    rw [linksJudged]
    exact .refl _
  | owner, link :: rest, placed => by
    rw [linkPieces] at placed
    have head := link.judged_pins combines owner placed.left
    rw [linksJudged]
    simp only
    split
    · refine ⟨?_, head.found⟩
      simp only [linkPieces, List.map_append, head.same]
    · next owner _ =>
      have tail := linksJudged_pins combines (some owner) placed.right
      refine ⟨?_, List.forall_mem_append.mpr ⟨head.found, tail.found⟩⟩
      simp only [linkPieces, List.map_append, head.same, tail.same]

/-- The account of a link keeps its pieces, and its problems are at them. -/
lemma Link.judged_pins (combines : Combinable P) : ∀ (owner : Option Shape) {link : Link}, AllPlaced P link.pieces →
    Pins P link.pieces (link.judged setting owner).node.pieces (link.judged setting owner).problems
  | owner, .name identifier, placed => by
    rw [Link.pieces] at placed ⊢
    rw [Link.judged]
    simp only [Link.pieces]
    exact setting.judgeVariable_pins owner placed.head
  | owner, .index identifier index close, placed => by
    rw [Link.pieces] at placed
    have inner := index.judged_pins combines placed.tail.left
    have name := setting.judgeVariable_pins owner placed.head
    rw [Link.judged]
    exact indexed_pins setting placed inner name
  | owner, .call identifier written arguments close, placed => by
    rw [Link.pieces] at placed
    obtain ⟨list, each⟩ := argumentsJudged_pins combines placed.tail.right.left
    have types := setting.judgeTypeArguments_pins placed.tail.left
    have name := setting.judgeFunction_pins owner (setting.judgeTypeArguments written).shape placed.head each
    rw [Link.judged]
    exact called_pins list types name

/-- The account of a link that makes a value keeps its pieces, and its problems are at them. -/
lemma Link.judgedMade_pins (combines : Combinable P) : ∀ {link : Link}, AllPlaced P link.pieces →
    Pins P link.pieces (link.judgedMade setting).node.pieces (link.judgedMade setting).problems
  | .name identifier, _ => by
    rw [Link.judgedMade]
    exact .refl _
  | .index identifier index close, placed => by
    rw [Link.pieces] at placed
    have inner := index.judged_pins combines placed.tail.left
    have name := setting.judgeConstructed_pins 0 placed.head
    rw [Link.judgedMade]
    exact indexed_pins setting placed inner name
  | .call identifier written arguments close, placed => by
    rw [Link.pieces] at placed
    obtain ⟨list, -⟩ := argumentsJudged_pins combines placed.tail.right.left
    have types := setting.judgeTypeArguments_pins placed.tail.left
    have name := setting.judgeConstructed_pins (setting.judgeTypeArguments written).shape placed.head
    rw [Link.judgedMade]
    exact called_pins list types name

/-- The account of arguments keeps their pieces, and its problems are at them; so are the spans that it gives. -/
lemma argumentsJudged_pins (combines : Combinable P) : ∀ {arguments : List Expression},
    AllPlaced P (argumentPieces arguments) →
    Pins P (argumentPieces arguments) (argumentPieces (argumentsJudged setting arguments).node)
        (argumentsJudged setting arguments).problems ∧
      ∀ argument ∈ (argumentsJudged setting arguments).shape, P argument.2
  | [], _ => by
    rw [argumentsJudged]
    exact ⟨.refl _, List.forall_mem_nil _⟩
  | argument :: rest, placed => by
    rw [argumentPieces] at placed
    have head := argument.judged_pins combines placed.left
    obtain ⟨tail, each⟩ := argumentsJudged_pins combines placed.right
    rw [argumentsJudged]
    refine ⟨⟨?_, List.forall_mem_append.mpr ⟨head.found, tail.found⟩⟩, List.forall_mem_cons.mpr ⟨?_, each⟩⟩
    · simp only [argumentPieces, List.map_append, head.same, tail.same]
    · exact Expression.span_placed (placed.left.of_same head.same)

end

end

/-! ## Statements -/

lemma optionJudged_pins (combines : Combinable P) (setting : Setting) {value : Option Expression}
    (placed : AllPlaced P (value.elim [] Expression.pieces)) :
    Pins P (value.elim [] Expression.pieces) ((optionJudged setting value).node.elim [] Expression.pieces)
      (optionJudged setting value).problems := by
  cases value with
  | none => exact .refl _
  | some value => exact value.judged_pins setting combines placed

lemma Parameter.pieces_filled (setting : Setting) (parameter : Parameter) :
    (parameter.filled setting).pieces = parameter.pieces := by
  rw [filled, Parameter.pieces, Parameter.pieces, TypeRef.pieces_bound]

/-- The account of a declaration keeps its pieces, and its problems are at them. -/
lemma Declaration.visited_pins (combines : Combinable P) (setting : Setting) {declaration : Declaration}
    (placed : AllPlaced P declaration.pieces) :
    Pins P declaration.pieces (declaration.visited setting).node.pieces (declaration.visited setting).problems := by
  have inner := optionJudged_pins combines setting placed.tail.right
  have stays := placed.tail.right.of_same inner.same
  unfold Declaration.visited
  simp only
  split
  · next written known =>
    refine ⟨?_, List.forall_mem_append.mpr ⟨inner.found, ?_⟩⟩
    · simp only [Declaration.pieces, List.map_cons, List.map_append, inner.same, known, Option.elim_some,
        TypeRef.pieces_bound]
    · cases e : (optionJudged setting declaration.initial).node with
      | none => exact List.forall_mem_nil _
      | some value =>
        rw [e] at stays
        exact setting.mismatch_placed _ _ _ (Expression.span_placed stays)
  · refine ⟨?_, inner.found⟩
    simp only [Declaration.pieces, List.map_cons, List.map_append, inner.same]

lemma declarationsVisited_pins (combines : Combinable P) : ∀ (setting : Setting) {fields : List Declaration},
    AllPlaced P (fields.flatMap Declaration.pieces) →
    Pins P (fields.flatMap Declaration.pieces) ((declarationsVisited setting fields).node.flatMap Declaration.pieces)
      (declarationsVisited setting fields).problems
  | _, [], _ => .refl _
  | setting, field :: rest, placed => by
    rw [List.flatMap_cons] at placed
    have head := field.visited_pins combines setting placed.left
    have tail := declarationsVisited_pins combines (setting.after (field.visited setting).inferred) placed.right
    refine ⟨?_, List.forall_mem_append.mpr ⟨head.found, tail.found⟩⟩
    simp only [declarationsVisited, List.flatMap_cons, List.map_append, head.same, tail.same]

/-- The account of a returned value keeps its pieces, and its problems are at them or at the keyword. -/
lemma returnVisited_pins (combines : Combinable P) (setting : Setting) {keyword : Span} {value : Option Expression}
    (placed : AllPlaced P (.mark keyword :: value.elim [] Expression.pieces)) :
    Pins P (value.elim [] Expression.pieces) ((returnVisited setting keyword value).node.elim [] Expression.pieces)
      (returnVisited setting keyword value).problems := by
  have inner := optionJudged_pins combines setting placed.tail
  exact ⟨inner.same, List.forall_mem_append.mpr ⟨inner.found, setting.mismatch_placed _ _ _ placed.head⟩⟩

mutual

/-- The account of a block keeps its pieces, and its problems are at them. -/
lemma Block.visited_pins (combines : Combinable P) : ∀ (setting : Setting) {block : Block}, AllPlaced P block.pieces →
    Pins P block.pieces (block.visited setting).node.pieces (block.visited setting).problems
  | setting, ⟨id, kind, statements, span⟩, placed => by
    rw [Block.pieces] at placed
    have inner := statementsVisited_pins combines (setting.inside (statementLayer setting.nested statements))
      placed.tail
    rw [Block.visited]
    refine ⟨?_, inner.found⟩
    simp only [Block.pieces, List.map_cons, inner.same]

lemma statementsVisited_pins (combines : Combinable P) : ∀ (setting : Setting) {list : List Statement},
    AllPlaced P (statementPieces list) →
    Pins P (statementPieces list) (statementPieces (statementsVisited setting list).node)
      (statementsVisited setting list).problems
  | _, [], _ => by
    rw [statementsVisited]
    exact .refl _
  | setting, statement :: rest, placed => by
    rw [statementPieces] at placed
    have head := statement.visited_pins combines setting placed.left
    have tail := statementsVisited_pins combines (setting.after (statement.visited setting).inferred) placed.right
    rw [statementsVisited]
    refine ⟨?_, List.forall_mem_append.mpr ⟨head.found, tail.found⟩⟩
    simp only [statementPieces, List.map_append, head.same, tail.same]

/-- The account of a statement keeps its pieces, and its problems are at them. -/
lemma Statement.visited_pins (combines : Combinable P) : ∀ (setting : Setting) {statement : Statement},
    AllPlaced P statement.pieces →
    Pins P statement.pieces (statement.visited setting).node.pieces (statement.visited setting).problems
  | setting, .type definition, placed => by
    rw [Statement.pieces] at placed
    rw [Statement.visited]
    split
    · exact .refl _
    · have inner := definition.visited_pins combines setting placed
      refine ⟨?_, inner.found⟩
      simp only [Statement.pieces, inner.same]
  | setting, .function definition, placed => by
    rw [Statement.pieces] at placed
    rw [Statement.visited]
    split
    · exact .refl _
    · have inner := definition.visited_pins combines setting placed
      refine ⟨?_, inner.found⟩
      simp only [Statement.pieces, inner.same]
  | setting, .variable declaration, placed => by
    rw [Statement.pieces] at placed
    have inner := declaration.visited_pins combines setting placed
    rw [Statement.visited]
    refine ⟨?_, inner.found⟩
    simp only [Statement.pieces, inner.same]
  | setting, .returning keyword value, placed => by
    rw [Statement.pieces] at placed
    have inner := returnVisited_pins combines setting placed
    rw [Statement.visited]
    refine ⟨?_, inner.found⟩
    simp only [Statement.pieces, List.map_cons, inner.same]
  | setting, .whileLoop keyword condition body, placed => by
    rw [Statement.pieces] at placed
    have head := condition.judged_pins setting combines placed.tail.left
    have inner := body.visited_pins combines setting placed.tail.right
    rw [Statement.visited]
    refine ⟨?_, List.forall_mem_append.mpr ⟨head.found, inner.found⟩⟩
    simp only [Statement.pieces, List.map_cons, List.map_append, head.same, inner.same]
  | setting, .conditional conditional, placed => by
    rw [Statement.pieces] at placed
    have inner := conditional.visited_pins combines setting placed
    rw [Statement.visited]
    refine ⟨?_, inner.found⟩
    simp only [Statement.pieces, inner.same]
  | setting, .expression expression, placed => by
    rw [Statement.pieces] at placed
    have inner := expression.judged_pins setting combines placed
    rw [Statement.visited]
    refine ⟨?_, inner.found⟩
    simp only [Statement.pieces, inner.same]
  | _, .breaking _, _ | _, .continuing _, _ | _, .importing .., _ | _, .path .., _ => by
    rw [Statement.visited]
    exact .refl _

/-- The account of a conditional keeps its pieces, and its problems are at them. -/
lemma Conditional.visited_pins (combines : Combinable P) : ∀ (setting : Setting) {conditional : Conditional},
    AllPlaced P conditional.pieces →
    Pins P conditional.pieces (conditional.visited setting).node.pieces (conditional.visited setting).problems
  | setting, ⟨condition, body, otherwise, keyword⟩, placed => by
    rw [Conditional.pieces] at placed
    have head := condition.judged_pins setting combines placed.tail.left
    have inner := body.visited_pins combines setting placed.tail.right.left
    have rest := otherwise.visited_pins combines (setting.after (body.visited setting).inferred)
      placed.tail.right.right
    rw [Conditional.visited]
    refine ⟨?_, ?_⟩
    · simp only [Conditional.pieces, List.map_cons, List.map_append, head.same, inner.same, rest.same]
    · simp only [List.forall_mem_append]
      exact ⟨⟨head.found, inner.found⟩, rest.found⟩

lemma Otherwise.visited_pins (combines : Combinable P) : ∀ (setting : Setting) {otherwise : Otherwise},
    AllPlaced P otherwise.pieces →
    Pins P otherwise.pieces (otherwise.visited setting).node.pieces (otherwise.visited setting).problems
  | _, .nothing, _ => by
    rw [Otherwise.visited]
    exact .refl _
  | setting, .conditional conditional, placed => by
    rw [Otherwise.pieces] at placed
    have inner := conditional.visited_pins combines setting placed
    rw [Otherwise.visited]
    refine ⟨?_, inner.found⟩
    simp only [Otherwise.pieces, inner.same]
  | setting, .block block, placed => by
    rw [Otherwise.pieces] at placed
    have inner := block.visited_pins combines setting placed
    rw [Otherwise.visited]
    refine ⟨?_, inner.found⟩
    simp only [Otherwise.pieces, inner.same]

/-- The account of a function keeps its pieces, and its problems are at them. -/
lemma FunctionDef.visited_pins (combines : Combinable P) : ∀ (setting : Setting) {definition : FunctionDef},
    AllPlaced P definition.pieces →
    Pins P definition.pieces (definition.visited setting).node.pieces (definition.visited setting).problems
  | setting, ⟨id, name, typeParameters, parameters, returns, body, keyword⟩, placed => by
    rw [FunctionDef.pieces] at placed
    have inner (setting : Setting) := body.visited_pins combines setting placed.tail.tail.right.right.right
    rw [FunctionDef.visited]
    refine ⟨?_, (inner _).found⟩
    have written (inside : Setting) :
        (parameters.map (Parameter.filled inside)).flatMap Parameter.pieces = parameters.flatMap Parameter.pieces ∧
        (returns.map (TypeRef.bound inside.code inside.around)).elim [] TypeRef.pieces =
          returns.elim [] TypeRef.pieces := by
      constructor
      · simp only [List.flatMap_map, Parameter.pieces_filled]
      · cases returns with
        | none => rfl
        | some type => simp only [Option.map_some, Option.elim_some, TypeRef.pieces_bound]
    simp only [FunctionDef.pieces, List.map_cons, List.map_append, (inner _).same, (written _).1, (written _).2]

lemma functionsVisited_pins (combines : Combinable P) : ∀ (setting : Setting) {list : List FunctionDef},
    AllPlaced P (functionPieces list) →
    Pins P (functionPieces list) (functionPieces (functionsVisited setting list).node)
      (functionsVisited setting list).problems
  | _, [], _ => by
    rw [functionsVisited]
    exact .refl _
  | setting, definition :: rest, placed => by
    rw [functionPieces] at placed
    have head := definition.visited_pins combines setting placed.left
    have tail := functionsVisited_pins combines (setting.after (definition.visited setting).inferred) placed.right
    rw [functionsVisited]
    refine ⟨?_, List.forall_mem_append.mpr ⟨head.found, tail.found⟩⟩
    simp only [functionPieces, List.map_append, head.same, tail.same]

/-- The account of a type keeps its pieces, and its problems are at them. -/
lemma TypeDef.visited_pins (combines : Combinable P) : ∀ (setting : Setting) {definition : TypeDef},
    AllPlaced P definition.pieces →
    Pins P definition.pieces (definition.visited setting).node.pieces (definition.visited setting).problems
  | setting, ⟨id, name, typeParameters, fields, methods, keyword, binding⟩, placed => by
    rw [TypeDef.pieces] at placed
    have members := placed.tail.tail.right
    have head (setting : Setting) := declarationsVisited_pins combines setting members.left
    have tail (setting : Setting) := functionsVisited_pins combines setting members.right
    rw [TypeDef.visited]
    refine ⟨?_, List.forall_mem_append.mpr ⟨(head _).found, (tail _).found⟩⟩
    simp only [TypeDef.pieces, List.map_cons, List.map_append, (head _).same, (tail _).same]

end

/-! ## Regions -/

/-- What is introduced, written or forbidden in a region stands at spans with a property. -/
structure Analysis.Region.Placed (P : Span → Prop) (region : Region) : Prop where
  introductions : ∀ introduction ∈ region.introductions, P introduction.name
  writes : ∀ write ∈ region.writes, AllPlaced P write.2.pieces
  forbidden : ∀ finding ∈ region.forbidden, P finding.span

/-- All elements of a list have their pieces among those of the list. -/
lemma AllPlaced.of_mem {α : Type} {pieces : α → List Piece} {list : List α} {element : α}
    (placed : AllPlaced P (list.flatMap pieces)) (mem : element ∈ list) : AllPlaced P (pieces element) :=
  fun piece there => placed piece (List.mem_flatMap.mpr ⟨element, mem, there⟩)

lemma typeParameterIntroductions_placed (owner : NodeId) : ∀ (position : Nat) {names : List Span},
    AllPlaced P (names.map .leaf) →
    ∀ introduction ∈ typeParameterIntroductions owner position names, P introduction.name
  | _, [], _ => by
    rw [typeParameterIntroductions]
    exact List.forall_mem_nil _
  | position, name :: rest, placed => by
    rw [typeParameterIntroductions, List.forall_mem_cons]
    exact ⟨placed.head, typeParameterIntroductions_placed owner (position + 1) placed.tail⟩

/-- The written type of a declaration is among its pieces. -/
lemma Declaration.writes_placed {declaration : Declaration} (placed : AllPlaced P declaration.pieces) :
    ∀ write ∈ declaration.writes, AllPlaced P write.2.pieces := by
  have written := placed.tail.left
  unfold Declaration.writes
  cases e : declaration.written with
  | none => exact List.forall_mem_nil _
  | some type =>
    rw [e] at written
    rw [Option.map_some, Option.toList_some, List.forall_mem_singleton]
    exact written

/-- A definition starts with its keyword and its name. -/
lemma FunctionDef.head_placed : ∀ {definition : FunctionDef}, AllPlaced P definition.pieces →
    P definition.keyword ∧ P definition.introduction.name
  | ⟨_, _, _, _, _, _, _⟩, placed => by
    rw [FunctionDef.pieces] at placed
    exact ⟨placed.head, placed.tail.head⟩

lemma TypeDef.head_placed : ∀ {definition : TypeDef}, AllPlaced P definition.pieces →
    P definition.keyword ∧ P definition.introduction.name
  | ⟨_, _, _, _, _, _, _⟩, placed => by
    rw [TypeDef.pieces] at placed
    exact ⟨placed.head, placed.tail.head⟩

/-- What a statement contributes to the region around it is among its pieces. -/
lemma Statement.contributes_placed (nested : Bool) : ∀ {statement : Statement}, AllPlaced P statement.pieces →
    (∀ introduction ∈ statement.introductions nested, P introduction.name) ∧
      (∀ write ∈ statement.writes, AllPlaced P write.2.pieces) ∧
      ∀ finding ∈ statement.forbidden nested, P finding.span
  | .type definition, placed => by
    rw [Statement.pieces] at placed
    obtain ⟨keyword, name⟩ := definition.head_placed placed
    cases nested with
    | true => exact ⟨List.forall_mem_nil _, List.forall_mem_nil _, List.forall_mem_singleton.mpr keyword⟩
    | false => exact ⟨List.forall_mem_singleton.mpr name, List.forall_mem_nil _, List.forall_mem_nil _⟩
  | .function definition, placed => by
    rw [Statement.pieces] at placed
    obtain ⟨keyword, name⟩ := definition.head_placed placed
    cases nested with
    | true => exact ⟨List.forall_mem_nil _, List.forall_mem_nil _, List.forall_mem_singleton.mpr keyword⟩
    | false => exact ⟨List.forall_mem_singleton.mpr name, List.forall_mem_nil _, List.forall_mem_nil _⟩
  | .variable declaration, placed => by
    rw [Statement.pieces] at placed
    exact ⟨List.forall_mem_singleton.mpr placed.head, declaration.writes_placed placed, List.forall_mem_nil _⟩
  | .whileLoop .., _ | .conditional _, _ | .returning .., _ | .breaking _, _ | .continuing _, _ | .importing .., _
  | .path .., _ | .expression _, _ => ⟨List.forall_mem_nil _, List.forall_mem_nil _, List.forall_mem_nil _⟩

namespace Analysis.Region.Placed

/-- The region of a block. -/
lemma block (nested : Bool) (around : Layer) : ∀ {block : Block}, AllPlaced P block.pieces →
    (block.region nested around).Placed P
  | ⟨_, _, statements, _⟩, placed => by
    rw [Block.pieces, statementPieces_eq_flatMap] at placed
    have each {statement} (mem : statement ∈ statements) :=
      Statement.contributes_placed nested (placed.tail.of_mem mem)
    constructor
    all_goals
      intro found mem
      obtain ⟨statement, there, mem⟩ := List.mem_flatMap.mp mem
    · exact (each there).1 found mem
    · exact (each there).2.1 found mem
    · exact (each there).2.2 found mem

/-- The region of a function. -/
lemma function (around : Layer) : ∀ {definition : FunctionDef}, AllPlaced P definition.pieces →
    (definition.region around).Placed P
  | ⟨id, name, typeParameters, parameters, returns, body, keyword⟩, placed => by
    rw [FunctionDef.pieces] at placed
    have placed := placed.tail.tail
    refine ⟨?_, ?_, List.forall_mem_nil _⟩
    · refine List.forall_mem_append.mpr ⟨typeParameterIntroductions_placed id 0 placed.left, fun introduction mem => ?_⟩
      obtain ⟨parameter, there, rfl⟩ := List.mem_map.mp mem
      exact (placed.right.left.of_mem there).head
    · refine List.forall_mem_append.mpr ⟨fun write mem => ?_, fun write mem => ?_⟩
      · obtain ⟨parameter, there, rfl⟩ := List.mem_map.mp mem
        exact (placed.right.left.of_mem there).tail
      · have written := placed.right.right.left
        cases returns with
        | none => cases mem
        | some type =>
          rw [Option.map_some, Option.toList_some, List.mem_singleton] at mem
          exact mem ▸ written

/-- The region of a type. -/
lemma type (around : Layer) : ∀ {definition : TypeDef}, AllPlaced P definition.pieces →
    (definition.region around).Placed P
  | ⟨id, name, typeParameters, fields, methods, keyword, binding⟩, placed => by
    rw [TypeDef.pieces, functionPieces_eq_flatMap] at placed
    have placed := placed.tail.tail
    refine ⟨?_, fun write mem => ?_, List.forall_mem_nil _⟩
    · refine List.forall_mem_append.mpr ⟨typeParameterIntroductions_placed id 0 placed.left,
        List.forall_mem_append.mpr ⟨fun introduction mem => ?_, fun introduction mem => ?_⟩⟩
      · obtain ⟨field, there, rfl⟩ := List.mem_map.mp mem
        exact (placed.right.left.of_mem there).head
      · obtain ⟨method, there, rfl⟩ := List.mem_map.mp mem
        exact (method.head_placed (placed.right.right.of_mem there)).2
    · obtain ⟨field, there, mem⟩ := List.mem_flatMap.mp mem
      exact field.writes_placed (placed.right.left.of_mem there) write mem

end Analysis.Region.Placed

mutual

/-- Everything in the regions of a block is among its pieces. -/
lemma Block.regions_placed (nested : Bool) (around : Layer) : ∀ {block : Block}, AllPlaced P block.pieces →
    ∀ region ∈ block.regions nested around, region.Placed P
  | ⟨id, kind, statements, span⟩, placed => by
    have own := Region.Placed.block nested around placed
    rw [Block.pieces] at placed
    rw [Block.regions, List.forall_mem_cons]
    exact ⟨own, statementRegions_placed nested _ placed.tail⟩

lemma statementRegions_placed (nested : Bool) (around : Layer) : ∀ {list : List Statement},
    AllPlaced P (statementPieces list) → ∀ region ∈ statementRegions nested around list, region.Placed P
  | [], _ => by
    rw [statementRegions]
    exact List.forall_mem_nil _
  | statement :: rest, placed => by
    rw [statementPieces] at placed
    rw [statementRegions, List.forall_mem_append]
    exact ⟨statement.regions_placed nested around placed.left, statementRegions_placed nested around placed.right⟩

lemma Statement.regions_placed (nested : Bool) (around : Layer) : ∀ {statement : Statement},
    AllPlaced P statement.pieces → ∀ region ∈ statement.regions nested around, region.Placed P
  | .type definition, placed => by
    rw [Statement.pieces] at placed
    rw [Statement.regions]
    split
    · exact List.forall_mem_nil _
    · exact definition.regions_placed around placed
  | .function definition, placed => by
    rw [Statement.pieces] at placed
    rw [Statement.regions]
    split
    · exact List.forall_mem_nil _
    · exact definition.regions_placed around placed
  | .whileLoop keyword condition body, placed => by
    rw [Statement.pieces] at placed
    rw [Statement.regions]
    exact body.regions_placed nested around placed.tail.right
  | .conditional conditional, placed => by
    rw [Statement.pieces] at placed
    rw [Statement.regions]
    exact conditional.regions_placed nested around placed
  | .variable _, _ | .returning .., _ | .breaking _, _ | .continuing _, _ | .importing .., _ | .path .., _
  | .expression _, _ => by
    rw [Statement.regions]
    exact List.forall_mem_nil _

lemma Conditional.regions_placed (nested : Bool) (around : Layer) : ∀ {conditional : Conditional},
    AllPlaced P conditional.pieces → ∀ region ∈ conditional.regions nested around, region.Placed P
  | ⟨condition, body, otherwise, keyword⟩, placed => by
    rw [Conditional.pieces] at placed
    rw [Conditional.regions, List.forall_mem_append]
    exact ⟨body.regions_placed nested around placed.tail.right.left,
      otherwise.regions_placed nested around placed.tail.right.right⟩

lemma Otherwise.regions_placed (nested : Bool) (around : Layer) : ∀ {otherwise : Otherwise},
    AllPlaced P otherwise.pieces → ∀ region ∈ otherwise.regions nested around, region.Placed P
  | .nothing, _ => by
    rw [Otherwise.regions]
    exact List.forall_mem_nil _
  | .conditional conditional, placed => by
    rw [Otherwise.pieces] at placed
    rw [Otherwise.regions]
    exact conditional.regions_placed nested around placed
  | .block block, placed => by
    rw [Otherwise.pieces] at placed
    rw [Otherwise.regions]
    exact block.regions_placed nested around placed

lemma FunctionDef.regions_placed (around : Layer) : ∀ {definition : FunctionDef}, AllPlaced P definition.pieces →
    ∀ region ∈ definition.regions around, region.Placed P
  | ⟨id, name, typeParameters, parameters, returns, body, keyword⟩, placed => by
    have own := Region.Placed.function around placed
    rw [FunctionDef.pieces] at placed
    rw [FunctionDef.regions, List.forall_mem_cons]
    exact ⟨own, body.regions_placed true _ placed.tail.tail.right.right.right⟩

lemma functionRegions_placed (around : Layer) : ∀ {list : List FunctionDef}, AllPlaced P (functionPieces list) →
    ∀ region ∈ functionRegions around list, region.Placed P
  | [], _ => by
    rw [functionRegions]
    exact List.forall_mem_nil _
  | definition :: rest, placed => by
    rw [functionPieces] at placed
    rw [functionRegions, List.forall_mem_append]
    exact ⟨definition.regions_placed around placed.left, functionRegions_placed around placed.right⟩

lemma TypeDef.regions_placed (around : Layer) : ∀ {definition : TypeDef}, AllPlaced P definition.pieces →
    ∀ region ∈ definition.regions around, region.Placed P
  | ⟨id, name, typeParameters, fields, methods, keyword, binding⟩, placed => by
    have own := Region.Placed.type around placed
    rw [TypeDef.pieces] at placed
    rw [TypeDef.regions, List.forall_mem_cons]
    exact ⟨own, functionRegions_placed _ placed.tail.tail.right.right⟩

end

/-! ## Programs -/

/-- A name that is introduced again is reported where that happens. -/
lemma repeated_placed : ∀ {introductions : List Introduction} (known : Declared → String → Option Span),
    (∀ introduction ∈ introductions, P introduction.name) →
    ∀ finding ∈ repeated known introductions, P finding.span
  | [], _, _ => List.forall_mem_nil _
  | introduction :: rest, known, placed => by
    rw [List.forall_mem_cons] at placed
    rw [repeated, List.forall_mem_append]
    refine ⟨fun finding mem => ?_, repeated_placed _ placed.2⟩
    obtain ⟨first, -, rfl⟩ := Option.map_eq_some_iff.mp (Option.mem_toList.mp mem)
    exact placed.1

/-- The account of a program keeps its pieces, and all problems of the program are at them. -/
theorem Block.pins (combines : Combinable P) (code : Shape → TypeId) {root : Block} (placed : AllPlaced P root.pieces) :
    Pins P root.pieces (root.account code).node.pieces (root.problems code) := by
  have visited := root.visited_pins combines (root.setting code) placed
  have regions := root.regions_placed false .empty placed
  refine ⟨visited.same, List.forall_mem_append.mpr ⟨List.forall_mem_append.mpr ⟨?_, visited.found⟩, ?_⟩⟩
  · intro finding mem
    obtain ⟨region, there, mem⟩ := List.mem_flatMap.mp mem
    exact List.forall_mem_append.mpr
      ⟨repeated_placed _ (regions region there).introductions, (regions region there).forbidden⟩ finding mem
  · intro finding mem
    obtain ⟨site, listed, mem⟩ := List.mem_flatMap.mp mem
    obtain ⟨region, there, listed⟩ := List.mem_flatMap.mp listed
    obtain ⟨write, written, rfl⟩ := List.mem_map.mp listed
    exact TypeRef.unknown_placed _ ((regions region there).writes write written) finding mem

end ArrowScript
