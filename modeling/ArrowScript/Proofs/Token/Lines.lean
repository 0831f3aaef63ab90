import ArrowScript.Proofs.Token.Placing

/-!
# Scanning line by line

No lexeme reaches over a line feed, so a text of whole lines is cut as if nothing stood behind it, and what stands
behind it is cut as if it stood alone. The places of a second text are those that it has on its own, behind as many
bytes and below as many line ends as the first text has; the columns start anew on every line.
-/

namespace ArrowScript

/-- A span that stands behind more bytes and below more line ends. -/
def Span.behind (bytes lines : Nat) (span : Span) : Span :=
  { span with offset := span.offset + bytes, line := span.line + lines }

/-- A diagnostic whose span stands behind more bytes and below more line ends. -/
def Diagnostic.behind (bytes lines : Nat) (diagnostic : Diagnostic) : Diagnostic :=
  { diagnostic with span := diagnostic.span.behind bytes lines }

namespace Token

/-- A token whose span stands behind more bytes and below more line ends. -/
def behind (bytes lines : Nat) (token : Token) : Token :=
  { token with span := token.span.behind bytes lines }

/-- How many line ends a text has; a carriage return with a line feed is one line end. -/
def lineEnds (text : List Char) : Nat :=
  (lineStops 0 text).length

/-- A text of whole lines: it is empty or ends with a line feed. -/
def WholeLines (text : List Char) : Prop :=
  ∀ c ∈ text.getLast?, c = '\n'

variable {text front rest back lexeme : List Char} {kind : Kind} {place : Place} {cut : List Lexeme}

/-- What is left of whole lines is whole lines. -/
lemma WholeLines.below (h : WholeLines (front ++ rest)) : WholeLines rest := by
  intro c mem
  refine h c ?_
  rw [List.getLast?_append, Option.mem_def.mp mem]
  rfl

/-- Whole lines that are not empty end with a line feed. -/
lemma WholeLines.split (h : WholeLines text) (nonempty : text ≠ []) : ∃ line, text = line ++ ['\n'] := by
  refine ⟨text.dropLast, ?_⟩
  rw [← h _ (List.getLast?_eq_getLast_of_ne_nil nonempty), List.dropLast_append_getLast]

/-! ## Cutting -/

/-- No lexeme reaches over a line feed. -/
lemma prefix_of_line {line : List Char} (mem : lexeme ∈ kind.language) (begins : lexeme <+: (line ++ ['\n']) ++ back) :
    lexeme <+: line ++ ['\n'] := by
  rcases List.prefix_or_prefix_of_prefix begins (List.prefix_append _ back) with short | ⟨more, rfl⟩
  · exact short
  · -- A lexeme that holds the line feed is a line end, and each of those has it as its last character.
    by_cases ends : kind = .endOfLine
    · subst ends
      have last : more = [] := by
        have behind {ending : List Char} (e : line ++ '\n' :: more = ending) (short : ending.length ≤ line.length + 1) :
            more = [] := by
          rw [← e, List.length_append, List.length_cons] at short
          exact List.length_eq_zero_iff.mp (by omega)
        rw [List.append_assoc, List.singleton_append] at mem
        rcases mem_lineEnd.mp mem with e | e | e
        · -- The line feed of this line end has the carriage return before it.
          cases line with
          | nil => cases (List.cons.inj e).1
          | cons c line => exact behind e (by simp)
        · exact behind e (by simp)
        · exact behind e (by simp)
      rw [last, List.append_nil]
    · exact absurd (by simp) (language_plain mem ends '\n' (by simp))

/-- What is munched off whole lines does not depend on what stands behind them. -/
lemma Munches.extend (h : Munches kind lexeme rest) (whole : WholeLines (lexeme ++ rest)) (back : List Char) :
    Munches kind lexeme (rest ++ back) where
  mem := h.mem
  longest := by
    intro other text mem begins
    obtain ⟨line, e⟩ := whole.split h.ne_nil
    rw [← List.append_assoc, e] at begins
    exact h.longest other text mem (e ▸ prefix_of_line mem begins)
  named := h.named

/-- A character that begins no lexeme of whole lines begins none with anything behind them. -/
lemma Strays.extend {c : Char} (h : Strays (c :: rest)) (whole : WholeLines (c :: rest)) (back : List Char) :
    Strays (c :: (rest ++ back)) := by
  intro kind lexeme mem begins
  obtain ⟨line, e⟩ := whole.split (List.cons_ne_nil c rest)
  rw [← List.cons_append, e] at begins
  exact h kind lexeme mem (e ▸ prefix_of_line mem begins)

/-- Maximal munch cuts whole lines and what stands behind them each on its own. -/
lemma Munched.append {cut' : List Lexeme} (h : Munched text cut) (whole : WholeLines text) (h' : Munched back cut') :
    Munched (text ++ back) (cut ++ cut') := by
  induction h with
  | nil => exact h'
  | @token kind lexeme rest cut munches _ ih =>
    rw [List.append_assoc]
    exact .token (munches.extend whole back) (ih whole.below)
  | @stray c rest cut strays _ ih =>
    have single : WholeLines ([c] ++ rest) := whole
    exact .stray (strays.extend whole back) (ih single.below)

/-- The lexemes of whole lines come before those of what stands behind them. -/
theorem lexemes_append (whole : WholeLines text) (back : List Char) :
    lexemes (text ++ back) = lexemes text ++ lexemes back :=
  (munched_iff.mp ((munched_lexemes text).append whole (munched_lexemes back))).symm

/-! ## Placing -/

/-- A place that is behind more bytes and below more line ends. -/
def Place.behind (bytes lines : Nat) (place : Place) : Place :=
  { place with offset := place.offset + bytes, line := place.line + lines }

lemma Place.after_behind (bytes lines : Nat) (place : Place) (lexeme : Lexeme) :
    (place.behind bytes lines).after lexeme = (place.after lexeme).behind bytes lines := by
  unfold Place.after Place.behind
  split <;> simp <;> omega

/-- Scanning from a place further on finds the same, further on. -/
lemma scanFrom_behind (file : String) (bytes lines : Nat) (place : Place) (cut : List Lexeme) :
    scanFrom file (place.behind bytes lines) cut =
      ⟨(scanFrom file place cut).tokens.map (behind bytes lines),
        (scanFrom file place cut).findings.map fun finding => ⟨finding.problem, finding.span.behind bytes lines⟩⟩ := by
  induction cut generalizing place with
  | nil => rfl
  | cons lexeme rest ih =>
    rw [scanFrom, Place.after_behind, ih, scanFrom]
    simp only [List.map_append, Option.toList_map, Scan.mk.injEq]
    cases lexeme.kind? <;> cases lexeme.problem? <;> exact ⟨rfl, rfl⟩

/-- Lexemes that are placed one after the other can be placed in two goes. -/
lemma scanFrom_append (file : String) (place : Place) (cut cut' : List Lexeme) :
    scanFrom file place (cut ++ cut') =
      ⟨(scanFrom file place cut).tokens.dropLast ++ (scanFrom file (cut.foldl Place.after place) cut').tokens,
        (scanFrom file place cut).findings ++ (scanFrom file (cut.foldl Place.after place) cut').findings⟩ := by
  induction cut generalizing place with
  | nil => rfl
  | cons lexeme rest ih =>
    have nonempty : (scanFrom file (place.after lexeme) rest).tokens ≠ [] := by simp [scanFrom_eq]
    rw [List.cons_append, scanFrom, ih, List.foldl_cons, scanFrom]
    simp only [List.dropLast_append_of_ne_nil nonempty, List.append_assoc]

/-- The place behind all of a text counts its bytes and its line ends. -/
lemma marks_of_munched {source : List Char} {stops : List Nat} (munched : Munched rest cut)
    (marks : Marks source front rest place stops) :
    ∃ stops', Marks source (front ++ rest) [] (cut.foldl Place.after place) stops' := by
  induction munched generalizing front place stops with
  | nil => exact ⟨stops, by rwa [List.append_nil]⟩
  | @token kind lexeme rest cut munches _ ih =>
    obtain ⟨_, behind⟩ := marks.munched munches
    rw [← List.append_assoc]
    exact ih behind
  | @stray c rest cut strays _ ih =>
    rw [List.append_cons]
    exact ih (marks.stray strays)

/-- The last line end of whole lines stops at their end. -/
lemma getLast?_lineStops (offset : Nat) (ends : text.getLast? = some '\n') :
    (lineStops offset text).getLast? = some (offset + Text.byteLength text) := by
  fun_induction lineStops offset text with
  | case1 offset rest ih =>
    cases rest with
    | nil => rfl
    | cons c rest =>
      have size : Text.byteLength ('\r' :: '\n' :: c :: rest) = 2 + Text.byteLength (c :: rest) :=
        Text.byteLength_append ['\r', '\n'] (c :: rest)
      rw [List.getLast?_cons, ih ends, Option.getD_some, size, Nat.add_assoc]
  | case2 offset c rest _ here ih =>
    have one : c.utf8Size = 1 := by rcases here with rfl | rfl <;> rfl
    cases rest with
    | nil => simp [Text.byteLength, one, lineStops]
    | cons d rest => rw [List.getLast?_cons, ih ends, Option.getD_some, Text.byteLength.eq_2 c, one, Nat.add_assoc]
  | case3 offset c rest _ here ih =>
    cases rest with
    | nil => exact absurd (.inl (by simpa using ends)) here
    | cons d rest => rw [ih ends, Text.byteLength.eq_2 c, Nat.add_assoc]
  | case4 => cases ends

/-- Behind whole lines a new line begins. -/
lemma place_of_wholeLines (line : List Char) :
    (lexemes (line ++ ['\n'])).foldl Place.after .start =
      Place.start.behind (Text.byteLength (line ++ ['\n'])) (lineEnds (line ++ ['\n'])) := by
  obtain ⟨stops, marks⟩ := marks_of_munched (munched_lexemes (line ++ ['\n'])) (.start (line ++ ['\n']))
  generalize (lexemes (line ++ ['\n'])).foldl Place.after .start = place at marks
  have passed : lineStops 0 (line ++ ['\n']) = stops := by simpa [lineStops] using marks.passed
  -- No characters are left behind the last line end, so the column is the first.
  have column : place.column = 1 := by
    obtain ⟨before, since, e, last, column⟩ := marks.column
    rw [← passed, List.getLastD_eq_getLast?, getLast?_lineStops 0 List.getLast?_concat, Option.getD_some, Nat.zero_add]
      at last
    obtain rfl : line ++ ['\n'] = before := eq_of_byteLength ((List.append_nil _).trans e) last.symm
    rw [column, List.append_right_eq_self.mp e.symm]
    rfl
  obtain ⟨offset, place_line, _⟩ := place
  obtain rfl := column
  obtain rfl : offset = _ := marks.offset
  obtain rfl : place_line = _ := marks.line
  rw [Place.behind, lineEnds, passed, Place.start, List.nil_append, Nat.zero_add, Nat.add_comm]

/-- Texts are scanned line by line: behind a line feed scanning starts anew. The tokens of whole lines, their end of
file apart, come before those of what stands behind them, and so do the diagnostics. What is found in the second text
is what is found in it alone, behind as many bytes and below as many line ends as the first text has. -/
theorem scan_line_by_line (file first second : String) :
    ∃ body last, (scan file (first ++ "\n")).tokens = body ++ [last] ∧ last.kind = .endOfFile ∧
      (scan file (first ++ "\n" ++ second)).tokens = body ++ (scan file second).tokens.map
        (behind (first ++ "\n").utf8ByteSize (lineEnds (first ++ "\n").toList)) ∧
      (scan file (first ++ "\n" ++ second)).diagnostics = (scan file (first ++ "\n")).diagnostics ++
        (scan file second).diagnostics.map
          (.behind (first ++ "\n").utf8ByteSize (lineEnds (first ++ "\n").toList)) := by
  have line : (first ++ "\n").toList = first.toList ++ ['\n'] := String.toList_append
  have bytes : Text.byteLength (first ++ "\n").toList = (first ++ "\n").utf8ByteSize := by
    rw [Text.byteLength_eq_utf8ByteSize, String.ofList_toList]
  have whole : WholeLines (first ++ "\n").toList := by simp [WholeLines, line]
  have place := place_of_wholeLines first.toList
  rw [← line, bytes] at place
  have cut : scan file (first ++ "\n" ++ second) = scanFrom file .start
      (lexemes (first ++ "\n").toList ++ lexemes second.toList) := by
    rw [scan, String.toList_append, lexemes_append whole]
  rw [scanFrom_append, place, scanFrom_behind] at cut
  obtain ⟨body, last, tokens, ends⟩ : ∃ body last, (scan file (first ++ "\n")).tokens = body ++ [last] ∧
      last.kind = .endOfFile := by
    rw [scan, scanFrom_eq]
    exact ⟨_, _, rfl, rfl⟩
  refine ⟨body, last, tokens, ends, ?_, ?_⟩
  · rw [cut]
    show (scan file (first ++ "\n")).tokens.dropLast ++ _ = _
    rw [tokens, List.dropLast_concat]
    rfl
  · rw [Scan.diagnostics, cut, List.map_append, List.map_map, Scan.diagnostics, Scan.diagnostics, List.map_map]
    rfl

end Token

end ArrowScript
