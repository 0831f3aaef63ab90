import ArrowScript.Proofs.Grammar.CleanParse
import ArrowScript.Proofs.Grammar.LocalStatements
import ArrowScript.Proofs.Grammar.Thinning

/-!
# Programs in parts

A program is read line by line. If a text is read without reports, then with another one behind it the same lines are
read first, as each statement is local. This leads to where the other text begins, and from there on parsing goes on as
it does for the other text alone, under later handles.
-/

namespace ArrowScript.Grammar

open Place
open Token (Thinned kindPast)

variable {s t u v : State} {more : List Token} {block : BlockKind} {bound n : Nat}

/-! ## Lines -/

/-- Reading some statements, each with what ends it, leads from one state to another. -/
inductive InLines (statement? : Parser (Option Statement)) (block : BlockKind) :
    State → List Statement → State → Prop
  | done {s : State} : InLines statement? block s [] s
  | line {s u v t : State} {first : Statement} {rest : List Statement} :
    endsBlock block s.token.kind = false → Runs statement? s (some first) u → Runs finishStatement u () v →
      InLines statement? block v rest t → InLines statement? block s (first :: rest) t

namespace InLines

variable {list rest : List Statement}

/-- Reading goes on behind the lines. -/
lemma statements {statement? : Parser (Option Statement)} (lines : InLines statement? block s list t)
    (run : Runs (statements statement? block n) t rest u) :
    Runs (Grammar.statements statement? block (list.length + n)) s (list ++ rest) u := by
  induction lines with
  | done => rwa [List.length_nil, Nat.zero_add, List.nil_append]
  | line goes first finished _ ih =>
    rw [List.length_cons, Nat.add_right_comm, Grammar.statements]
    simp only [run_bind, run_kind]
    refine ⟨_, _, ⟨rfl, rfl⟩, ?_⟩
    rw [goes, if_neg Bool.false_ne_true]
    refine run_bind.mpr ⟨_, _, first, run_bind.mpr ⟨(), _, finished, run_bind.mpr ⟨_, _, ih run, ?_⟩⟩⟩
    exact run_pure.mpr ⟨rfl, rfl⟩

/-- What lines read gives out the handles of their statements. -/
lemma reads (lines : InLines (statement? bound) block s list t) (enough : s.pending.length < bound) :
    ∃ pieces, Reads (before s) (before t) pieces (statementIds list) := by
  induction lines with
  | done => exact ⟨[], by rw [statementIds]; exact .refl _⟩
  | line _ run finished _ ih =>
    obtain ⟨_, pieces, e, -, head⟩ | ⟨e, -⟩ := statement?_reads bound enough run
    · obtain rfl := Option.some.inj e
      obtain ⟨finish, shorter⟩ := finishStatement_reads finished
      have length := head.length_le
      obtain ⟨others, tail⟩ := ih (by omega)
      refine ⟨(pieces ++ []) ++ others, ?_⟩
      rw [statementIds]
      exact ((head.trans finish).trans tail).cast rfl (by simp)
    · cases e

/-- Behind a line fewer tokens are left; if nothing was reported in it, its statement ends on a token. -/
lemma ended_on {first : Statement} (run : Runs (statement? bound) s (some first) u)
    (finished : Runs finishStatement u () v) (enough : s.pending.length < bound) :
    u.pending <:+ s.pending ∧ v.pending <:+ u.pending ∧ (v.Clean → u.Fine) := by
  obtain ⟨_, pieces, -, -, head⟩ | ⟨e, -⟩ := statement?_reads bound enough run
  · have finish := (finishStatement_reads finished).1
    refine ⟨head.pending, finish.pending, fun clean => ?_⟩
    have clean := finish.clean clean
    exact ⟨clean, head.onToken clean nofun rfl⟩
  · cases e

/-- No line begins with `<`, if they are read without reports up to the end of a text. -/
lemma not_less (lines : InLines (statement? bound) block s list t) (enough : s.pending.length < bound)
    (clean : t.Clean) (ended : t.pending = []) : s.token.kind ≠ .less := by
  intro less
  cases lines with
  | done => simp [State.token, Cursor.current, ended, Cursor.closingToken] at less
  | @line _ u v _ _ _ _ run finished lines =>
    obtain ⟨front, behind, fine⟩ := ended_on run finished enough
    obtain ⟨_, tail⟩ := lines.reads (Nat.lt_of_le_of_lt (behind.trans front).length_le enough)
    exact statement?_less less enough run (fine (tail.clean clean))

/-- Statements that are read without reports are read in lines. -/
lemma of_run (run : Runs (Grammar.statements (statement? bound) block n) s list t) (clean : t.Clean)
    (enough : s.pending.length < bound) (bounded : s.pending.length < n) :
    InLines (statement? bound) block s list t := by
  induction n generalizing s list with
  | zero => exact absurd bounded (Nat.not_lt_zero _)
  | succ n ih =>
    simp only [Grammar.statements, run_bind, run_kind] at run
    obtain ⟨_, _, ⟨rfl, rfl⟩, run⟩ := run
    split at run
    · obtain ⟨rfl, rfl⟩ := run_pure.mp run
      exact .done
    · next goes =>
      have pos : 0 < s.pending.length := length_pos_of_kind fun e => by simp [endsBlock, e] at goes
      obtain ⟨first?, u, first, run⟩ := run_bind.mp run
      obtain ⟨_, pieces, rfl, -, head⟩ | ⟨rfl, head, dirty⟩ := statement?_reads bound enough first
      · simp only [run_bind, run_pure] at run
        obtain ⟨_, v, finished, _, _, others, rfl, rfl⟩ := run
        have length := head.length_le
        have shorter := (finishStatement_reads finished).2
        exact .line (by simpa using goes) first finished (ih others (by omega) (by omega))
      · -- Where none was made out, a problem was reported, and this stays so.
        simp only [run_bind, run_tryAdvance] at run
        obtain ⟨_, _, ⟨rfl, rfl⟩, run⟩ := run
        have next := Reads.moved .insensitive u
        have length := head.length_le
        have shorter := length_moved .insensitive u
        split at run
        · obtain ⟨_, -, tail, -⟩ := statements_reads (statement?_reads bound) (by omega) (by omega) run
          exact absurd (next.clean (tail.clean clean)) dirty
        · obtain ⟨-, rfl⟩ := run_pure.mp run
          exact absurd (next.clean clean) dirty

end InLines

/-! ## The end of a text -/

/-- A state is at the beginning of a statement of some text or at the end of it, and another is at the same place with
more text behind. -/
structure Meets (more : List Token) (s t : State) : Prop where
  nextId : t.nextId = s.nextId
  findings : t.findings = s.findings
  tokens : Prolongs more s t ∨ s.pending = [] ∧
    t.pending = more.dropWhile fun token => Sensitivity.insensitive.skips token.kind

/-- At the end of a text a statement ends with its line. -/
lemma Prolongs.endOfLine (h : Prolongs more s t) (none : ∀ token ∈ s.pending, token.kind ≠ .endOfFile)
    (run : Runs finishStatement s () u) (clean : u.Clean) (ended : u.pending = []) :
    s.cursor.peekKind .toLineEnds = .endOfLine := by
  obtain ⟨_, _, moved, run⟩ := run_bind.mp run
  obtain ⟨_, moved⟩ := run_discard.mp moved
  obtain ⟨-, rfl⟩ := run_advanceWith.mp moved
  obtain ⟨_, _, looked, run⟩ := run_bind.mp run
  obtain ⟨kind, rfl⟩ := run_kind.mp looked
  rw [kind_moved] at kind
  split at run
  · exact kind
  · -- There is a line end ahead, and the end of file is none of the tokens.
    obtain ⟨token, mem, line⟩ := h.exists_line
    rw [peekKind_toLineEnds] at kind
    exact absurd kind (Token.kindPast_ne_endOfFile (fun token mem => none token (List.mem_of_mem_tail mem))
      ⟨token, mem, by simp [line]⟩)
  · obtain ⟨-, rfl⟩ := run_pure.mp run
    have some : 0 < (s.moved .toLineEnds).pending.length := length_moved_pos (by simp [kind])
    simp [ended] at some
  · obtain rfl := run_report.mp run
    exact absurd clean (Reads.not_clean_noted _ _ _)

/-- Finishing a statement leads to the next one or to the other text. -/
lemma Prolongs.finish (h : Prolongs more s t) (none : ∀ token ∈ s.pending, token.kind ≠ .endOfFile)
    (run : Runs finishStatement s () u) (clean : u.Clean) : ∃ v, Runs finishStatement t () v ∧ Meets more u v := by
  by_cases ended : u.pending = []
  · have line := h.endOfLine none run clean ended
    obtain ⟨-, rfl⟩ := Prod.mk.inj ((Steady.run_finishStatement line).symm.trans run)
    refine ⟨_, Steady.run_finishStatement (h.peekToLineEnds.trans line), ?_, ?_, .inr ⟨ended, ?_⟩⟩
    · rw [(frame_moved .insensitive s).2.2, (frame_moved .insensitive t).2.2, h.nextId]
    · rw [(frame_moved .insensitive s).2.1, (frame_moved .insensitive t).2.1, h.findings]
    · rw [pending_moved] at ended
      rw [pending_moved, h.tail, List.dropWhile_append, if_pos (by simp [ended])]
  · obtain ⟨v, run', along⟩ := (Local.finishStatement : Local more (s.pending.length + 1) _ _).prolongs _ _ h
      (Nat.lt_succ_self _) _ _ run ⟨clean, ended⟩ trivial
    exact ⟨v, run', along.nextId, along.findings, .inl along⟩

/-- Lines without reports and without `<` are read with more text behind as well. -/
lemma InLines.prolong {list : List Statement} (lines : InLines (statement? bound) .program s list u)
    (meets : Meets more s t) (enough : s.pending.length < bound)
    (none : ∀ token ∈ s.pending, token.kind ≠ .endOfFile) (clean : u.Clean) (ended : u.pending = [])
    (without : .less ∉ statementOperators list) :
    ∃ v, InLines (statement? bound) .program t list v ∧ Meets more u v := by
  induction lines generalizing t with
  | done => exact ⟨t, .done, meets⟩
  | @line s u v _ first rest goes run finished lines ih =>
    have along : Prolongs more s t := meets.tokens.resolve_right fun ⟨file, _⟩ => by
      simp [State.token, Cursor.current, file, Cursor.closingToken, endsBlock] at goes
    rw [statementOperators, List.mem_append, not_or] at without
    obtain ⟨front, behind, fine⟩ := InLines.ended_on run finished enough
    have enough' : v.pending.length < bound := Nat.lt_of_le_of_lt (behind.trans front).length_le enough
    have clean' : v.Clean := (lines.reads enough').elim fun _ tail => tail.clean clean
    -- A `<` behind the statement would be where the next one begins.
    have calm : u.cursor.peekKind .insensitive ≠ .less :=
      fun less => lines.not_less enough' clean ended (finishStatement_less finished clean' less)
    obtain ⟨u', run', along'⟩ :=
      (statement?_local bound).prolongs s t along enough _ _ run (fine clean') ⟨without.1, calm⟩
    obtain ⟨v', finished', meets'⟩ := along'.finish (fun token mem => none token (front.subset mem)) finished clean'
    obtain ⟨t', lines', meets'⟩ := ih meets' enough'
      (fun token mem => none token ((behind.trans front).subset mem)) clean ended without.2
    exact ⟨t', .line (along.token ▸ goes) run' finished' lines', meets'⟩

/-! ## Programs -/

/-- A program is read as statements, with any bound that is large enough. -/
lemma parse_statements (bound : Nat) (tokens : List Token) (enough : (Cursor.onFirst tokens).pending.length < bound) :
    (State.start tokens).numbered.pending.length < bound ∧
      ∃ s, Runs (statements (statement? bound) .program bound) (State.start tokens).numbered
        (parse tokens).program.root.statements s ∧ (parse tokens).findings = s.findings.toList := by
  obtain ⟨s, -, run, found⟩ := (staysWithin tokens).ends bound enough
  simp only [program, run_bind, run_freshId, run_span, run_pure] at run
  obtain ⟨_, _, ⟨rfl, rfl⟩, _, _, ⟨rfl, rfl⟩, list, _, run, root, rfl⟩ := run
  exact ⟨Nat.lt_of_le_of_lt (start_onward tokens).length_le enough, _, root ▸ run, found⟩

/-- A block has the operators of its statements. -/
lemma operators_block (block : Block) : block.operators = statementOperators block.statements := by
  obtain ⟨id, kind, statements, span⟩ := block
  rw [Block.operators]

/-- Parsing of tokens that end with the end of file starts past the trivia in front. -/
lemma start_append {body : List Token} {last : Token} (file : last.kind = .endOfFile) :
    State.start (body ++ [last]) =
      ⟨⟨body.dropWhile fun token => Sensitivity.insensitive.skips token.kind, last.span⟩, 0, #[]⟩ := by
  rw [State.start, onFirst_append file]
  rfl

/-- A text that is parsed without reports is read in lines up to its end. -/
lemma parse_lines (bound : Nat) {former : List Token} {close : Token} (file : close.kind = .endOfFile)
    (none : ∀ token ∈ former, token.kind ≠ .endOfFile) (quiet : (parse (former ++ [close])).findings = [])
    (enough : former.length < bound) :
    ∃ s, InLines (statement? bound) .program (State.start (former ++ [close])).numbered
        (parse (former ++ [close])).program.root.statements s ∧ s.Clean ∧ s.pending = [] ∧
      s.nextId = (statementIds (parse (former ++ [close])).program.root.statements).length + 1 := by
  obtain ⟨enough, s, run, found⟩ := parse_statements bound (former ++ [close]) (by rwa [onFirst_append file])
  have clean : s.Clean := by
    rw [found, Array.toList_eq_nil_iff] at quiet
    rw [State.Clean, quiet, Array.size_empty]
  obtain ⟨_, -, reads, ends⟩ := statements_reads (statement?_reads bound) enough enough run
  have within : s.pending <:+ former := by
    have later := reads.pending
    rw [start_append file] at later
    exact later.trans (List.dropWhile_suffix _)
  have ended := pending_eq_nil (fun token mem => none token (within.subset mem)) (by simpa [endsBlock] using ends clean)
  refine ⟨s, .of_run run clean enough enough, clean, ended, ?_⟩
  have count := reads.nodes.length_eq
  have later := reads.nextId
  simp only [handles, List.length_map, List.length_range', State.numbered, State.start] at count later
  omega

/-- The beginning of a text is also the beginning of it with another one behind. -/
lemma meets_start {former body : List Token} {close last : Token} (file : close.kind = .endOfFile)
    (file' : last.kind = .endOfFile) (line : former = [] ∨ former.getLast?.map Token.kind = some .endOfLine)
    (opens : opensStatement (kindPast [.comment, .whitespace, .endOfLine] body)) :
    Meets body (State.start (former ++ [close])).numbered (State.start (former ++ (body ++ [last]))).numbered := by
  rw [← List.append_assoc, start_append file, start_append file']
  refine ⟨rfl, rfl, ?_⟩
  by_cases ended : (former.dropWhile fun token => Sensitivity.insensitive.skips token.kind) = []
  · refine .inr ⟨ended, ?_⟩
    simp only [State.pending, State.numbered]
    rw [List.dropWhile_append, if_pos (by simp [ended])]
  · refine .inl ⟨opens, rfl, ?_, ?_, ?_, rfl, rfl⟩
    · have stop := List.head_dropWhile_not (fun token : Token => Sensitivity.insensitive.skips token.kind) ended
      rw [Sensitivity.insensitive_skips] at stop
      rwa [State.token, Cursor.current, State.numbered, List.headD_eq_head?_getD, List.head?_eq_some_head ended]
    · have some : former ≠ [] := by
        rintro rfl
        exact ended rfl
      simp only [State.pending, State.numbered]
      rw [getLast?_of_suffix (List.dropWhile_suffix _) ended, line.resolve_left some]
    · simp only [State.pending, State.numbered]
      rw [List.dropWhile_append, if_neg (by simpa using ended)]

/-- At the end of a text parsing of the other one has just begun. -/
lemma Meets.alongside {body : List Token} {last : Token} {shift : Nat} (h : Meets body s t)
    (file : last.kind = .endOfFile) (ended : s.pending = []) (clean : s.Clean) (closing : t.cursor.closing = last.span)
    (numbered : s.nextId = shift + 1) : Alongside shift (State.start (body ++ [last])).numbered t := by
  obtain ⟨-, pending⟩ := h.tokens.resolve_left fun along => along.some ended
  rw [start_append file]
  refine ⟨?_, ?_, closing, ?_, ?_⟩
  · rw [pending]
    rfl
  · rw [pending]
    exact .refl _
  · rw [h.nextId, numbered, Nat.add_comm]
    rfl
  · rw [h.findings, Array.eq_empty_of_size_eq_zero clean]
    rfl

/-- Parsing is compositional where a line ends: if a text, empty or ended with its last line, is parsed without reports
and without `<`, then any text behind it that begins as a statement does, or has none, is parsed as it is alone. Just
that is reported which is reported for the other text, and the program has the statements of both, those of the other
text under handles that come later by as many as there are nodes in the first. -/
theorem parse_append {former latter : List Token} {close : Token} (file : close.kind = .endOfFile)
    (none : ∀ token ∈ former, token.kind ≠ .endOfFile)
    (line : former = [] ∨ former.getLast?.map Token.kind = some .endOfLine)
    (quiet : (parse (former ++ [close])).findings = [])
    (without : .less ∉ (parse (former ++ [close])).program.root.operators)
    (closed : latter.getLast?.map Token.kind = some .endOfFile)
    (opens : opensStatement (kindPast [.comment, .whitespace, .endOfLine] latter)) :
    (parse (former ++ latter)).findings = (parse latter).findings ∧
      (parse (former ++ latter)).program.root.statements =
        (parse (former ++ [close])).program.root.statements ++ (parse latter).program.root.statements.map
          (Statement.renumber (.later (statementIds (parse (former ++ [close])).program.root.statements).length)) := by
  obtain ⟨last, ends, file'⟩ := Option.map_eq_some_iff.mp closed
  obtain ⟨body, rfl⟩ := List.getLast?_eq_some_iff.mp ends
  rw [Token.kindPast_closed file' (by simp)] at opens
  -- All runs are made with the bound of the longest list.
  obtain ⟨bound, longest⟩ : ∃ bound, former.length + body.length < bound := ⟨_, Nat.lt_succ_self _⟩
  obtain ⟨u, lines, clean, ended, numbered⟩ := parse_lines bound file none quiet (by omega)
  obtain ⟨-, s, alone, found⟩ := parse_statements bound (body ++ [last])
    (by simp only [onFirst_append file']; omega)
  obtain ⟨enough, t, joined, found'⟩ := parse_statements bound (former ++ (body ++ [last]))
    (by simp only [← List.append_assoc, onFirst_append file', List.length_append]; omega)
  have within : (State.start (former ++ [close])).numbered.pending <:+ former := by
    rw [start_append file]
    exact List.dropWhile_suffix _
  rw [operators_block] at without
  -- The first text is read in the same lines, up to where the other one begins.
  obtain ⟨v, lines, meets⟩ := lines.prolong (meets_start file file' line opens)
    (Nat.lt_of_le_of_lt within.length_le (by omega)) (fun token mem => none token (within.subset mem)) clean ended
    without
  generalize (parse (former ++ [close])).program.root.statements = list at *
  have closing : v.cursor.closing = last.span := by
    obtain ⟨_, reads⟩ := lines.reads enough
    rw [reads.closing, ← List.append_assoc, start_append file']
    rfl
  have along := meets.alongside file' ended clean closing numbered
  obtain ⟨w, behind, along⟩ := statements_parallel (statement?_parallel _ bound) .program bound _ _ along _ _ alone
  have whole := lines.statements behind
  have same : statements (statement? bound) .program (list.length + bound)
      (State.start (former ++ (body ++ [last]))).numbered = statements (statement? bound) .program bound
      (State.start (former ++ (body ++ [last]))).numbered :=
    (statements_alike (statement?_alike_self bound _) (.inr ⟨by omega, by omega⟩)).same
  obtain ⟨e, rfl⟩ := Prod.mk.inj ((whole.symm.trans same).trans joined)
  exact ⟨by rw [found', found, along.findings], by rw [← e, statementsRenumbered_eq_map]⟩

/-- Tokens of some kinds, one after another on a line. -/
def tokensOf (kinds : List Token.Kind) : List Token :=
  kinds.zipIdx.map fun (kind, offset) => ⟨kind, ⟨none, "main.as", offset, 1, 1, offset + 1⟩⟩

/-- A declaration `x : int` on a line. -/
def typedLine : List Token :=
  tokensOf [.identifier, .colon, .builtinType, .endOfLine]

/-- A declaration `y : int` with a number behind it on the same line. -/
def crowdedLine : List Token :=
  tokensOf [.identifier, .colon, .builtinType, .integer, .endOfLine, .endOfFile]

/-- Behind a declaration another one is read as it is alone, with what is reported for it and under a later handle. -/
theorem parse_append_crowdedLine :
    ∃ close : Token, close.kind = .endOfFile ∧ (∀ token ∈ typedLine, token.kind ≠ .endOfFile) ∧
      typedLine.getLast?.map Token.kind = some .endOfLine ∧ (parse (typedLine ++ [close])).findings = [] ∧
      (parse crowdedLine).findings ≠ [] ∧
      (parse (typedLine ++ crowdedLine)).findings = (parse crowdedLine).findings ∧
      (parse (typedLine ++ crowdedLine)).program.root.statements =
        (parse (typedLine ++ [close])).program.root.statements ++ (parse crowdedLine).program.root.statements.map
          (Statement.renumber
            (.later (statementIds (parse (typedLine ++ [close])).program.root.statements).length)) := by
  let close : Token := ⟨.endOfFile, ⟨none, "main.as", 4, 0, 1, 5⟩⟩
  have quiet : (parse (typedLine ++ [close])).findings = [] := by decide +kernel
  exact ⟨close, rfl, by decide, rfl, quiet, by decide +kernel,
    parse_append rfl (by decide) (.inr rfl) quiet (by decide +kernel) rfl rfl⟩

end ArrowScript.Grammar
