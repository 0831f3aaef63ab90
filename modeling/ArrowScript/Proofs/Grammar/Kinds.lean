import ArrowScript.Grammar.Statement
import Mathlib.Tactic.Common

/-!
# Kinds of trees

What a routine of the parser gives does not depend on where it stands (`Always`): it is put together from what
the routines inside it give. So if everything that is put together from trees of some kinds is of these kinds
again (`Kinds.Closed`), every program is parsed as one of them. The proof goes through the routines in the order
in which they are built from each other.
-/

namespace ArrowScript

/-- A kind of each class of trees. -/
structure Kinds where
  written : TypeRef → Prop
  expr : Expr → Prop
  link : Link → Prop
  path : Chain → Prop
  declaration : Declaration → Prop
  statement : Statement → Prop
  block : Block → Prop
  conditional : Conditional → Prop
  otherwise : Otherwise → Prop
  function : FunctionDef → Prop
  type : TypeDef → Prop

namespace Kinds

/-- Whole expressions of some kinds, which have no type yet. -/
def expression (kinds : Kinds) (x : Expression) : Prop :=
  kinds.expr x.root ∧ x.type = none

/-- What the parser puts together from trees of some kinds is of these kinds again. -/
structure Closed (kinds : Kinds) : Prop where
  written (name : Span) (builtin array : Bool) {arguments : List TypeRef} :
    (∀ written ∈ arguments, kinds.written written) → kinds.written ⟨name, builtin, arguments, array, none⟩
  binary {operator : BinaryOperator} (span : Span) {left right : Expr} : operator ≠ .assign →
    kinds.expr left → kinds.expr right → kinds.expr (.binary operator span left right none)
  unary (operator : UnaryOperator) (span : Span) {operand : Expr} : kinds.expr operand →
    kinds.expr (.unary operator span operand none)
  chain {path : Chain} : kinds.path path → kinds.expr (.chain path)
  literal (kind : LiteralKind) (span : Span) : kinds.expr (.literal kind span none)
  new (keyword : Span) {path : Chain} : path.startsWithBrackets → kinds.path path → kinds.expr (.new keyword path)
  newArray (keyword : Span) {element : Expression} : kinds.expression element →
    kinds.expr (.newArray keyword element)
  nothing (span : Span) : kinds.expr (.nothing span)
  missing (span : Span) : kinds.expr (.missing span)
  name (name : Span) : kinds.link (.name (.unbound name))
  index (name close : Span) {index : Expression} : kinds.expression index →
    kinds.link (.index (.unbound name) index close)
  call (name close : Span) {types : Option (List TypeRef)} {arguments : List Expression} :
    (∀ written ∈ types.getD [], kinds.written written) → (∀ argument ∈ arguments, kinds.expression argument) →
    kinds.link (.call (.unbound name) types arguments close)
  path (span : Span) {links : List Link} : (∀ link ∈ links, kinds.link link) → kinds.path ⟨links, span, none⟩
  declaration (id : NodeId) (name : Span) {written : Option TypeRef} {initial : Option Expression} :
    (∀ type ∈ written, kinds.written type) → (∀ value ∈ initial, kinds.expression value) →
    kinds.declaration ⟨id, name, written, initial, none⟩
  definesType {definition : TypeDef} : kinds.type definition → kinds.statement (.type definition)
  definesFunction {definition : FunctionDef} : kinds.function definition → kinds.statement (.function definition)
  declares {declaration : Declaration} : kinds.declaration declaration → kinds.statement (.variable declaration)
  returning (keyword : Span) {value : Option Expression} : (∀ x ∈ value, kinds.expression x) →
    kinds.statement (.returning keyword value)
  whileLoop (keyword : Span) {condition : Expression} {body : Block} : kinds.expression condition →
    kinds.block body → kinds.statement (.whileLoop keyword condition body)
  decides {conditional : Conditional} : kinds.conditional conditional → kinds.statement (.conditional conditional)
  assigns (arrow : Span) {target : Chain} {value : Expr} : kinds.path target → kinds.expr value →
    kinds.statement (.expression (.untyped (.binary .assign arrow (.chain target) value none)))
  calls {target : Chain} : kinds.path target → kinds.statement (.expression (.untyped (.chain target)))
  importing (keyword : Span) {target : Chain} : kinds.path target → kinds.statement (.importing keyword target)
  locates (keyword : Span) {target : Chain} : kinds.path target → kinds.statement (.path keyword target)
  breaking (span : Span) : kinds.statement (.breaking span)
  continuing (span : Span) : kinds.statement (.continuing span)
  block (id : NodeId) (kind : BlockKind) (span : Span) {statements : List Statement} :
    (∀ statement ∈ statements, kinds.statement statement) → kinds.block ⟨id, kind, statements, span⟩
  conditional (keyword : Span) {condition : Expression} {body : Block} {otherwise : Otherwise} :
    kinds.expression condition → kinds.block body → kinds.otherwise otherwise →
    kinds.conditional ⟨condition, body, otherwise, keyword⟩
  otherwiseNothing : kinds.otherwise .nothing
  otherwiseConditional {conditional : Conditional} : kinds.conditional conditional →
    kinds.otherwise (.conditional conditional)
  otherwiseBlock {block : Block} : kinds.block block → kinds.otherwise (.block block)
  function (id : NodeId) (name : Span) (names : Option (List Span)) (keyword : Span)
    {parameters : List Parameter} {returns : Option TypeRef} {body : Block} :
    (∀ parameter ∈ parameters, kinds.written parameter.written) → (∀ written ∈ returns, kinds.written written) →
    kinds.block body → kinds.function ⟨id, name, names, parameters, returns, body, keyword⟩
  type (id : NodeId) (name : Span) (names : Option (List Span)) (keyword : Span) {fields : List Declaration}
    {methods : List FunctionDef} : (∀ field ∈ fields, kinds.declaration field) →
    (∀ method ∈ methods, kinds.function method) → kinds.type ⟨id, name, names, fields, methods, keyword, none⟩

/-- A name is a written type. -/
lemma Closed.named {kinds : Kinds} (closed : kinds.Closed) (name : Span) (builtin : Bool) :
    kinds.written (.named name builtin) :=
  closed.written name builtin false nofun

end Kinds

namespace Grammar

variable {α β : Type} {P : α → Prop}

/-- Wherever an action starts, it gives something of a kind. -/
def Always (action : Parser α) (P : α → Prop) : Prop :=
  ∀ s, P (action s).1

namespace Always

/-- A result on its own. -/
lemma pure {a : α} (h : P a) : Always (Pure.pure a) P :=
  fun _ => h

/-- A sequence gives what its last action gives. -/
lemma bind {action : Parser β} {next : β → Parser α} {first : β → Prop} (h : Always action first)
    (g : ∀ b, first b → Always (next b) P) : Always (action >>= next) P :=
  fun s => g _ (h s) _

/-- A sequence in which the result of the first action does not matter. -/
lemma next {action : Parser β} {next : β → Parser α} (g : ∀ b, Always (next b) P) :
    Always (action >>= next) P :=
  fun _ => g _ _

end Always

/-- The elements of a list are of the kind that its element gives. -/
lemma commaList_always {element : Parser α} (h : Always element P) (closing : Token.Kind)
    (unseparated unclosed : SyntaxProblem) (bound : Nat) :
    Always (commaList element closing unseparated unclosed bound) fun list => ∀ a ∈ list, P a := by
  induction bound with
  | zero => exact .pure nofun
  | succ bound ih =>
    rw [commaList]
    refine .bind h fun first hf => .next fun _ => .next fun closed => ?_
    have single : ∀ a ∈ [first], P a := by simpa using hf
    split
    · exact .pure single
    · refine .next fun _ => .next fun moved => ?_
      split
      · exact .bind ih fun rest hr => .pure (List.forall_mem_cons.mpr ⟨hf, hr⟩)
      · exact .next fun _ => .pure single

/-- The elements in angle brackets are of the kind that the element gives. -/
lemma inAngles_always {element : Parser α} (h : Always element P) (empty unclosed : SyntaxProblem)
    (bound : Nat) : Always (inAngles element empty unclosed bound) fun list => ∀ a ∈ list, P a := by
  unfold inAngles
  refine .next fun _ => .next fun closed => ?_
  split
  · exact .next fun _ => .pure nofun
  · exact commaList_always h _ _ _ _

/-- No level has the operator of assignments. -/
lemma level_ne_assign : ∀ level ∈ Level.all, ∀ k operator, level k = some operator →
    operator ≠ BinaryOperator.assign := by
  intro level mem k operator
  simp only [Level.all, List.mem_cons, List.not_mem_nil, or_false] at mem
  rcases mem with rfl | rfl | rfl | rfl | rfl <;> cases k <;> rintro ⟨⟩ <;> nofun

section
variable {kinds : Kinds} (closed : kinds.Closed)
include closed

/-! ## Written types -/

/-- A written type is of its kind. -/
lemma typeRef_always (bound : Nat) : Always (typeRef bound) kinds.written := by
  induction bound with
  | zero => exact .next fun _ => .pure (closed.named _ _)
  | succ bound ih =>
    have arguments : Always (typeArgumentsOf (typeRef bound) bound) fun list =>
        ∀ written ∈ list, kinds.written written := by
      refine inAngles_always ?_ _ _ _
      unfold typeArgument
      refine .next fun _ => ?_
      split
      · exact ih
      · exact .next fun _ => .next fun _ => .pure (closed.named _ _)
    have rest (name : Span) (builtin : Bool) (list : List TypeRef) (h : ∀ written ∈ list, kinds.written written) :
        Always (do return { TypeRef.named name builtin with arguments := list, array := ← arrayBrackets })
          kinds.written :=
      .next fun array => .pure (closed.written name builtin array h)
    have after : Always (do
        let named := TypeRef.named (← span) (← Grammar.kind).isBuiltinName
        let arguments ← do
          if (← peek) = .less then
            advance
            typeArgumentsOf (typeRef bound) bound
          else pure []
        return { named with arguments, array := ← arrayBrackets }) kinds.written := by
      refine .next fun name => .next fun builtin => .next fun peeked => ?_
      simp only
      split
      · exact .next fun _ => .bind arguments fun list h => rest _ _ list h
      · exact .bind (.pure nofun) fun list h => rest _ _ list h
    rw [typeRef]
    refine .next fun k => ?_
    simp only
    split
    · exact after
    · exact .next fun _ => after

/-- Type arguments are of the kind of written types. -/
lemma typeArguments_always (bound : Nat) :
    Always (typeArguments bound) fun list => ∀ written ∈ list, kinds.written written := by
  refine inAngles_always ?_ _ _ _
  unfold typeArgument
  refine .next fun k => ?_
  split
  · exact typeRef_always closed bound
  · exact .next fun _ => .next fun name => .pure (closed.named _ _)

/-! ## Expressions -/

/-- Operations of one level are expressions if their operands are. -/
lemma operationsFrom_always {operand : Parser Expr} (h : Always operand kinds.expr) {level : Level}
    (assigns : ∀ k operator, level k = some operator → operator ≠ .assign) (bound : Nat) :
    ∀ left, kinds.expr left → Always (operationsFrom operand level bound left) kinds.expr := by
  induction bound with
  | zero => exact fun left hl => .pure hl
  | succ bound ih =>
    intro left hl
    rw [operationsFrom]
    refine .next fun k => ?_
    split
    · next operator found =>
      exact .next fun _ => .next fun span => .next fun _ => .bind h fun right hr =>
        ih _ (closed.binary span (assigns k operator found) hl hr)
    · exact .pure hl

/-- Operations of some levels are expressions if their operands are. -/
lemma operations_always {operand : Parser Expr} (h : Always operand kinds.expr) (bound : Nat)
    {levels : List Level} (assigns : ∀ level ∈ levels, ∀ k operator, level k = some operator →
      operator ≠ .assign) : Always (operations operand bound levels) kinds.expr := by
  induction levels with
  | nil => exact h
  | cons level tighter ih =>
    have ih := ih fun level mem => assigns level (List.mem_cons_of_mem _ mem)
    exact .bind ih fun left hl => operationsFrom_always closed ih (assigns level List.mem_cons_self) bound left hl

/-- Unary operations are expressions if the term is. -/
lemma unaryOperations_always {term : Parser Expr} (h : Always term kinds.expr) (bound : Nat) :
    Always (unaryOperations term bound) kinds.expr := by
  induction bound with
  | zero => exact .next fun span => .pure (closed.missing span)
  | succ bound ih =>
    rw [unaryOperations]
    refine .next fun k => ?_
    split
    · exact .next fun span => .next fun _ => .bind ih fun operand ho => .pure (closed.unary _ span ho)
    · exact h

section
variable {expression : Parser Expression} (h : Always expression kinds.expression) (bound : Nat)
include h

omit closed in
/-- Arguments of a call are whole expressions. -/
lemma argumentList_always :
    Always (argumentList expression bound) fun list => ∀ argument ∈ list, kinds.expression argument := by
  induction bound with
  | zero => exact .pure nofun
  | succ bound ih =>
    rw [argumentList]
    refine .bind h fun first hf => .next fun k => ?_
    have single : ∀ argument ∈ [first], kinds.expression argument := by simpa using hf
    have more : ∀ rest, (∀ argument ∈ rest, kinds.expression argument) →
        ∀ argument ∈ first :: rest, kinds.expression argument :=
      fun rest hr => List.forall_mem_cons.mpr ⟨hf, hr⟩
    split
    · exact .next fun _ => .pure single
    · exact .next fun _ => .next fun _ => .bind ih fun rest hr => .pure (more rest hr)
    · exact .next fun _ => .next fun _ => .pure single
    · exact .next fun _ => .next fun _ => .pure single
    · exact .next fun _ => .next fun _ => .pure single
    · exact .next fun _ => .next fun _ => .pure single
    · exact .next fun _ => .next fun _ => .next fun _ => .bind ih fun rest hr => .pure (more rest hr)

/-- A name with an index is a link. -/
lemma indexLink_always : Always (indexLink expression) kinds.link := by
  unfold indexLink
  refine .next fun name => .next fun _ => .next fun k => ?_
  split
  · exact .next fun _ => .next fun _ => .next fun close =>
      .pure (closed.index name close ⟨closed.missing close, rfl⟩)
  · exact .next fun _ => .bind h fun index hi => .next fun close => .pure (closed.index name close hi)

/-- A call is a link. -/
lemma callLink_always : Always (callLink expression bound) kinds.link := by
  have arguments : Always (callArguments expression bound) fun result =>
      ∀ argument ∈ result.1, kinds.expression argument := by
    unfold callArguments
    refine .next fun k => ?_
    split
    · exact .next fun _ => .next fun close => .pure nofun
    · exact .next fun _ => .bind (argumentList_always h bound) fun list hl => .next fun close => .pure hl
  -- Type arguments are optional, and those that were read are of their kind already.
  have kept (types : Option (List TypeRef)) (ht : ∀ written ∈ types.getD [], kinds.written written) :
      Always (pure types) fun types => ∀ written ∈ types.getD [], kinds.written written := .pure ht
  have rest (name : Span) (types : Option (List TypeRef)) (ht : ∀ written ∈ types.getD [], kinds.written written) :
      Always (do
        expect .leftParen .callWithoutOpening
        let list ← callArguments expression bound
        return Link.call (.unbound name) types list.1 list.2) kinds.link :=
    .next fun _ => .bind arguments fun result hr => .pure (closed.call name result.2 ht hr)
  unfold callLink
  refine .next fun name => .next fun _ => .next fun opened => ?_
  simp only
  split
  · refine .bind (typeArguments_always closed bound) fun types ht => .next fun _ => ?_
    exact .bind (kept (some types) ht) (rest name)
  · exact .bind (kept none nofun) (rest name)

/-- A link is of its kind. -/
lemma link?_always : Always (link? expression bound) fun link? => ∀ link ∈ link?, kinds.link link := by
  unfold link?
  refine .next fun k => .next fun next => ?_
  split
  · exact .bind (indexLink_always closed h) fun link hl => .pure (by simpa using hl)
  · refine .next fun generic => ?_
    split
    · exact .bind (callLink_always closed h bound) fun link hl => .pure (by simpa using hl)
    · split
      · exact .next fun name => .pure (by simpa using closed.name name)
      · exact .next fun _ => .pure nofun

omit closed h in
/-- Links are of the kind that a link gives. -/
lemma links?_always {link? : Parser (Option Link)} (h : Always link? fun link? => ∀ link ∈ link?, kinds.link link)
    (bound : Nat) :
    Always (links? link? bound) fun links? => ∀ links ∈ links?, ∀ link ∈ links, kinds.link link := by
  induction bound with
  | zero => exact .pure nofun
  | succ bound ih =>
    rw [links?]
    refine .bind h fun link? hl => ?_
    split
    · next first =>
      have hf : kinds.link first := hl first rfl
      refine .next fun k => ?_
      split
      · exact .pure (by simpa using hf)
      · refine .next fun _ => .next fun _ => .bind ih fun rest? hr => .pure ?_
        rintro links mem
        obtain ⟨rest, there, rfl⟩ := Option.map_eq_some_iff.mp mem
        exact List.forall_mem_cons.mpr ⟨hf, hr rest there⟩
    · exact .pure nofun

/-- A chain is of its kind. -/
lemma chain?_always : Always (chain? expression bound) fun path? => ∀ path ∈ path?, kinds.path path := by
  refine .next fun start => .bind (links?_always (link?_always closed h bound) bound) fun links? hl => .pure ?_
  rintro path mem
  obtain ⟨links, there, rfl⟩ := Option.map_eq_some_iff.mp mem
  exact closed.path start (hl links there)

/-- A new value is an expression. -/
lemma newTerm_always : Always (newTerm expression bound) kinds.expr := by
  unfold newTerm
  refine .next fun keyword => .next fun _ => .next fun array => ?_
  split
  · exact .next fun _ => .bind h fun element he => .next fun _ => .pure (closed.newArray keyword he)
  · refine .bind (chain?_always closed h bound) fun path? hp => ?_
    split
    · next path =>
      split
      · next starts => exact .pure (closed.new keyword starts (hp path rfl))
      · exact .next fun _ => .pure (closed.missing keyword)
    · exact .next fun _ => .pure (closed.missing keyword)

/-- A term is an expression. -/
lemma term_always : Always (term expression bound) kinds.expr := by
  have chains (start : Span) : Always (do return (← chain? expression bound).elim (.missing start) .chain)
      kinds.expr := by
    refine .bind (chain?_always closed h bound) fun path? hp => .pure ?_
    cases path? with
    | none => exact closed.missing start
    | some path => exact closed.chain (hp path rfl)
  unfold term
  refine .next fun start => .next fun k => ?_
  split
  · exact .pure (closed.literal _ start)
  · split
    · exact .pure (closed.nothing start)
    · exact .next fun _ => .bind h fun inner hi => .next fun _ => .pure hi.1
    · exact newTerm_always closed h bound
    · exact chains start
    · exact chains start
    · exact .next fun _ => .pure (closed.missing start)

end

/-- A whole expression is of its kind. -/
lemma expression_always (bound : Nat) : Always (expression bound) kinds.expression := by
  induction bound with
  | zero => exact .next fun span => .pure ⟨closed.missing span, rfl⟩
  | succ bound ih =>
    have operand := unaryOperations_always closed (term_always closed ih bound) (bound + 1)
    exact .bind (operations_always closed operand (bound + 1) level_ne_assign) fun root hr => .pure ⟨hr, rfl⟩

/-- A chain with expressions inside is of its kind. -/
lemma chain_always (bound : Nat) : Always (chain bound) fun path? => ∀ path ∈ path?, kinds.path path :=
  chain?_always closed (expression_always closed bound) bound


/-! ## Statements -/

omit closed in
/-- Statements are of the kind that a statement gives. -/
lemma statements_always {statement? : Parser (Option Statement)}
    (h : Always statement? fun statement? => ∀ statement ∈ statement?, kinds.statement statement)
    (block : BlockKind) (bound : Nat) :
    Always (statements statement? block bound) fun list => ∀ statement ∈ list, kinds.statement statement := by
  induction bound with
  | zero => exact .pure nofun
  | succ bound ih =>
    rw [statements]
    refine .next fun k => ?_
    split
    · exact .pure nofun
    · refine .bind h fun statement? hs => ?_
      split
      · next first =>
        exact .next fun _ => .bind ih fun rest hr => .pure (List.forall_mem_cons.mpr ⟨hs first rfl, hr⟩)
      · refine .next fun moved => ?_
        split
        · exact ih
        · exact .pure nofun

/-- A block is of its kind if statements are. -/
lemma block_always {statement? : Parser (Option Statement)}
    (h : Always statement? fun statement? => ∀ statement ∈ statement?, kinds.statement statement) (bound : Nat)
    (unopened : SyntaxProblem) : Always (block statement? bound unopened) kinds.block :=
  .next fun id => .next fun span => .next fun _ => .next fun _ =>
    .bind (statements_always h .braced bound) fun _ hl => .next fun _ => .pure (closed.block id .braced span hl)

/-- The type that a function returns is a written type. -/
lemma optionalReturn_always (bound : Nat) :
    Always (optionalReturn bound) fun written? => ∀ written ∈ written?, kinds.written written := by
  unfold optionalReturn
  refine .next fun colon => ?_
  split
  · exact .next fun _ => .bind (typeRef_always closed bound) fun written hw => .next fun _ =>
      .pure (by simpa using hw)
  · exact .pure nofun

/-- Parameters have written types. -/
lemma parameters_always (bound : Nat) :
    Always (parameters bound) fun list => ∀ parameter ∈ list, kinds.written parameter.written := by
  unfold parameters
  refine .next fun closes => ?_
  split
  · exact .pure nofun
  · refine commaList_always (P := fun parameter : Parameter => kinds.written parameter.written) ?_ _ _ _ _
    exact .next fun _ => .next fun name => .next fun _ => .next fun _ => .next fun _ =>
      .bind (typeRef_always closed bound) fun written hw => .next fun id => .pure hw

/-- A function is of its kind if blocks are. -/
lemma functionDef_always {block : SyntaxProblem → Parser Block} (h : ∀ unopened, Always (block unopened) kinds.block)
    (bound : Nat) : Always (functionDef block bound) kinds.function :=
  .next fun keyword => .next fun id => .next fun _ => .next fun _ => .next fun name => .next fun _ =>
    .next fun names => .next fun _ => .next fun _ => .bind (parameters_always closed bound) fun _ hl =>
      .next fun _ => .bind (optionalReturn_always closed bound) fun _ hr => .bind (h _) fun _ hb =>
        .pure (closed.function id name names keyword hl hr hb)

/-- A declaration is of its kind. -/
lemma declaration_always (name : Span) (bound : Nat) : Always (declaration name bound) kinds.declaration := by
  have rest (id : NodeId) (written : Option TypeRef) (hw : ∀ type ∈ written, kinds.written type) : Always (do
      if (← peekWith .toLineEnds) = .arrow then
        advance
        advance
        return { id, name, written, initial := some (← expression bound), type := none : Declaration }
      if written.isNone then report .untypedWithoutValue
      return { id, name, written, initial := none, type := none : Declaration }) kinds.declaration := by
    refine .next fun k => ?_
    split
    · exact .next fun _ => .next fun _ => .bind (expression_always closed bound) fun value hv =>
        .pure (closed.declaration id name hw (by simpa using hv))
    · simp only
      split
      · exact .next fun _ => .pure (closed.declaration id name hw nofun)
      · exact .pure (closed.declaration id name hw nofun)
  have kept (written : Option TypeRef) (hw : ∀ type ∈ written, kinds.written type) :
      Always (pure written) fun written => ∀ type ∈ written, kinds.written type := .pure hw
  unfold declaration
  refine .next fun id => .next fun k => ?_
  simp only
  split
  · exact .next fun _ => .bind (typeRef_always closed bound) fun written hw =>
      .bind (kept (some written) (by simpa using hw)) (rest id)
  · exact .bind (kept none nofun) (rest id)

/-- A statement that starts with a name is of its kind, and a declaration is one, too. -/
lemma namedStatement?_always (bound : Nat) : Always (namedStatement? bound) fun statement? =>
    (∀ statement ∈ statement?, kinds.statement statement) ∧
      ∀ declaration, statement? = some (.variable declaration) → kinds.declaration declaration := by
  unfold namedStatement?
  refine .bind (chain_always closed bound) fun target? ht => ?_
  split
  · next target =>
    have ht : kinds.path target := ht target rfl
    refine .next fun k => ?_
    split
    · refine .next fun _ => ?_
      split
      · refine .bind (declaration_always closed _ bound) fun declaration hd => .pure ⟨?_, ?_⟩
        · simpa using closed.declares hd
        · rintro _ ⟨⟩
          exact hd
      · exact .next fun _ => .pure ⟨nofun, nofun⟩
    · refine .next fun _ => .next fun arrow => .next fun _ => .bind (expression_always closed bound)
        fun value hv => .pure ⟨?_, nofun⟩
      simpa using closed.assigns arrow ht hv.1
    · split
      · exact .pure ⟨by simpa using closed.calls ht, nofun⟩
      · exact .next fun _ => .pure ⟨nofun, nofun⟩
  · exact .pure ⟨nofun, nofun⟩

/-- Fields are declarations, and methods are functions. -/
lemma members_always {functionDef : Parser FunctionDef} (h : Always functionDef kinds.function)
    (bound rounds : Nat) : Always (members functionDef (namedStatement? bound) rounds) fun members =>
      (∀ field ∈ members.1, kinds.declaration field) ∧ ∀ method ∈ members.2, kinds.function method := by
  induction rounds with
  | zero => exact .pure ⟨nofun, nofun⟩
  | succ rounds ih =>
    rw [members]
    refine .next fun k => ?_
    split
    · exact .pure ⟨nofun, nofun⟩
    · exact .pure ⟨nofun, nofun⟩
    · refine .bind (namedStatement?_always closed bound) fun statement? hs => ?_
      split
      · next field =>
        exact .next fun _ => .bind ih fun rest hr =>
          .pure ⟨List.forall_mem_cons.mpr ⟨hs.2 field rfl, hr.1⟩, hr.2⟩
      · simp only
        split
        · exact .next fun _ => .next fun _ => ih
        · exact .next fun _ => ih
    · exact .bind h fun method hm => .next fun _ => .bind ih fun rest hr =>
        .pure ⟨hr.1, List.forall_mem_cons.mpr ⟨hm, hr.2⟩⟩
    · exact .next fun _ => .next fun _ => ih

/-- A type is of its kind if its methods are functions. -/
lemma typeDef_always {functionDef : Parser FunctionDef} (h : Always functionDef kinds.function) (bound : Nat) :
    Always (typeDef functionDef bound) kinds.type :=
  .next fun keyword => .next fun id => .next fun _ => .next fun _ => .next fun name => .next fun _ =>
    .next fun names => .next fun _ => .next fun _ => .bind (members_always closed h bound bound) fun _ hm =>
      .next fun _ => .pure (closed.type id name names keyword hm.1 hm.2)

/-- A return is a statement. -/
lemma returning_always (bound : Nat) : Always (returning bound) kinds.statement := by
  unfold returning
  refine .next fun keyword => .next fun k => ?_
  split
  · exact .pure (closed.returning keyword nofun)
  · exact .next fun _ => .bind (expression_always closed bound) fun value hv =>
      .pure (closed.returning keyword (by simpa using hv))

section
variable {block : SyntaxProblem → Parser Block} (h : ∀ unopened, Always (block unopened) kinds.block) (bound : Nat)
include h

/-- A loop is a statement if blocks are of their kind. -/
lemma whileLoop_always : Always (whileLoop block bound) kinds.statement :=
  .next fun keyword => .next fun _ => .bind (expression_always closed bound) fun _ hc => .next fun _ =>
    .bind (h _) fun _ hb => .pure (closed.whileLoop keyword hc hb)

/-- A conditional is of its kind if blocks and what follows are. -/
lemma conditional_always {otherwise : Parser Otherwise} (g : Always otherwise kinds.otherwise) :
    Always (conditional block bound otherwise) kinds.conditional :=
  .next fun keyword => .next fun _ => .bind (expression_always closed bound) fun _ hc => .next fun _ =>
    .bind (h _) fun _ hb => .bind g fun _ ho => .pure (closed.conditional keyword hc hb ho)

/-- What is done when a condition fails is of its kind if blocks are. -/
lemma otherwise_always (rounds : Nat) : Always (otherwise block bound rounds) kinds.otherwise := by
  induction rounds with
  | zero => exact .pure closed.otherwiseNothing
  | succ rounds ih =>
    rw [otherwise]
    refine .next fun k => ?_
    split
    · exact .pure closed.otherwiseNothing
    · refine .next fun _ => .next fun _ => .next fun k => ?_
      split
      · exact .bind (conditional_always closed h bound ih) fun _ hc => .pure (closed.otherwiseConditional hc)
      · exact .bind (h _) fun _ hb => .pure (closed.otherwiseBlock hb)
      · exact .next fun _ => .pure closed.otherwiseNothing

end

/-- A chain behind a keyword is of its kind. -/
lemma chainBehind?_always (bound : Nat) (absent invalid : SyntaxProblem) :
    Always (chainBehind? absent invalid bound) fun path? => ∀ path ∈ path?, kinds.path path := by
  unfold chainBehind?
  refine .next fun k => ?_
  split
  · exact .next fun _ => .pure nofun
  · refine .next fun _ => .bind (chain_always closed bound) fun target? ht => ?_
    split
    · next target =>
      have ht : ∀ path ∈ some target, kinds.path path := ht
      simp only
      split
      · exact .pure ht
      · exact .next fun _ => .pure ht
    · exact .next fun _ => .pure nofun

/-- A statement is of its kind. -/
lemma statement?_always (bound : Nat) :
    Always (statement? bound) fun statement? => ∀ statement ∈ statement?, kinds.statement statement := by
  have optional {path? : Option Chain} {make : Chain → Statement} (hp : ∀ path ∈ path?, kinds.path path)
      (hm : ∀ {path}, kinds.path path → kinds.statement (make path)) :
      ∀ statement ∈ path?.map make, kinds.statement statement := by
    rintro _ mem
    obtain ⟨path, there, rfl⟩ := Option.map_eq_some_iff.mp mem
    exact hm (hp path there)
  induction bound with
  | zero => exact .pure nofun
  | succ bound ih =>
    have blocks := block_always closed ih bound
    have functions := functionDef_always closed blocks bound
    have conditionals := conditional_always closed blocks bound (otherwise_always closed blocks bound bound)
    rw [statement?]
    refine .next fun k => ?_
    split
    · exact .bind (typeDef_always closed functions bound) fun _ h => .pure (by simpa using closed.definesType h)
    · exact .bind functions fun _ h => .pure (by simpa using closed.definesFunction h)
    · exact .bind (returning_always closed bound) fun _ h => .pure (by simpa using h)
    · exact .next fun span => .pure (by simpa using closed.breaking span)
    · exact .next fun span => .pure (by simpa using closed.continuing span)
    · exact .bind (whileLoop_always closed blocks bound) fun _ h => .pure (by simpa using h)
    · exact .bind conditionals fun _ h => .pure (by simpa using closed.decides h)
    · exact .next fun keyword => .bind (chainBehind?_always closed bound _ _) fun _ h =>
        .pure (optional h (closed.importing keyword))
    · exact .next fun keyword => .bind (chainBehind?_always closed bound _ _) fun _ h =>
        .pure (optional h (closed.locates keyword))
    · exact fun s => (namedStatement?_always closed bound s).1
    · exact .next fun _ => .pure nofun
    · exact .next fun _ => .pure nofun

/-- A parsed program is a block of its kind. -/
lemma parse_always (tokens : List Token) : kinds.block (parse tokens).program.root := by
  have program : ∀ bound, Always (program bound) kinds.block := fun bound =>
    .next fun id => .next fun span => .bind (statements_always (statement?_always closed bound) .program bound)
      fun _ hl => .pure (closed.block id .program span hl)
  exact program ((Cursor.onFirst tokens).pending.length + 1) _

end

end Grammar

end ArrowScript
