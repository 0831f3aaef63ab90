import ArrowScript.Proofs.Token.Munching

/-!
# Places of tokens

The slices of a text lie side by side from its start to its end, and each is where its span says: the bytes in
front of it are its offset, the line ends that stop there or earlier are its line, and the characters since the
last of them are its column. What carries this from slice to slice is that every line end of the text is a token
of its own and no other lexeme holds one. Each slice is a token or a single character that is reported, and
nothing else is reported but quotes that are not closed and numbers with several points.
-/

namespace ArrowScript.Token

open scoped Computability

/-! ## Places in a text -/

/-- The offsets behind the line ends of a text that begins at an offset; a carriage return with a line feed is one
line end. -/
def lineStops : Nat → List Char → List Nat
  | offset, '\r' :: '\n' :: rest => (offset + 2) :: lineStops (offset + 2) rest
  | offset, c :: rest =>
    if c = '\n' ∨ c = '\r' then (offset + 1) :: lineStops (offset + 1) rest
    else lineStops (offset + c.utf8Size) rest
  | _, [] => []

/-- The line ends of a text that stop at an offset or earlier. -/
def stopsUpTo (source : List Char) (offset : Nat) : List Nat :=
  (lineStops 0 source).filter (· ≤ offset)

/-- A span is a piece of a text behind another piece. The line counts the line ends in front of it, the column the
characters since the last of them. -/
structure Lies (file : String) (source front content : List Char) (span : Span) : Prop where
  piece : front ++ content <+: source
  file : span.file = file
  text : span.text = some (String.ofList content)
  offset : span.offset = Text.byteLength front
  length : span.length = Text.byteLength content
  line : span.line = 1 + (stopsUpTo source span.offset).length
  column : ∃ before since, front = before ++ since ∧
    Text.byteLength before = (stopsUpTo source span.offset).getLastD 0 ∧ span.column = 1 + since.length

/-- Spans that are not empty lie side by side from one offset to another. -/
inductive Tiles : Nat → Nat → List Span → Prop
  | nil {offset : Nat} : Tiles offset offset []
  | cons (span : Span) {rest : List Span} {stop : Nat} :
    0 < span.length → Tiles span.stop stop rest → Tiles span.offset stop (span :: rest)

/-- A text ends with a quote other than the one it begins with. -/
def Closed (text : List Char) : Prop :=
  ∃ opening inner, text = opening :: (inner ++ ['"'])

/-- A closing quote is looked for at the end. -/
lemma isClosedQuote_iff {text : List Char} : isClosedQuote text ↔ Closed text := by
  simp only [isClosedQuote, Bool.and_eq_true, decide_eq_true_eq]
  constructor
  · rintro ⟨two, last⟩
    obtain ⟨front, rfl⟩ := List.getLast?_eq_some_iff.mp last
    cases front with
    | nil => simp at two
    | cons opening inner => exact ⟨opening, inner, rfl⟩
  · rintro ⟨opening, inner, rfl⟩
    rw [← List.cons_append]
    exact ⟨by simp, List.getLast?_concat⟩

instance (text : List Char) : Decidable (Closed text) :=
  decidable_of_iff _ isClosedQuote_iff

/-- What is said about a slice: a character that no token begins with is unexpected, a quoted text must be closed
and a number must not have more than one point. -/
def Slice.complaint? (slice : Slice) : Option Diagnostic :=
  match slice.kind? with
  | none => some ⟨.lexical, s!"Unexpected character '{slice.span.content}'.", slice.span⟩
  | some .string =>
    if Closed slice.span.content.toList then none else some ⟨.lexical, "Missing end quote.", slice.span⟩
  | some .integer | some .decimal =>
    if 2 ≤ slice.span.content.toList.count '.' then some ⟨.lexical, "Too many decimal points.", slice.span⟩
    else none
  | some _ => none

/-! ## Line ends -/

variable {source front lexeme rest text : List Char} {kind : Kind} {offset stop : Nat}

/-- Line ends stop behind where a text begins. -/
lemma lt_of_mem_lineStops (mem : stop ∈ lineStops offset text) : offset < stop := by
  fun_induction lineStops offset text with
  | case1 offset rest ih =>
    rcases List.mem_cons.mp mem with rfl | mem
    · omega
    · have := ih mem
      omega
  | case2 offset c rest _ ends ih =>
    rcases List.mem_cons.mp mem with rfl | mem
    · omega
    · have := ih mem
      omega
  | case3 offset c rest _ ends ih =>
    have := ih mem
    omega
  | case4 => cases mem

/-- A piece of a text without line ends. -/
lemma lineStops_plain (plain : ∀ c ∈ front, c ∉ ['\r', '\n']) (offset : Nat) (rest : List Char) :
    lineStops offset (front ++ rest) = lineStops (offset + Text.byteLength front) rest := by
  induction front generalizing offset with
  | nil => rfl
  | cons c front ih =>
    have ordinary := plain c List.mem_cons_self
    simp only [List.mem_cons, List.not_mem_nil, or_false, not_or] at ordinary
    rw [List.cons_append, lineStops, if_neg (by tauto), ih fun d mem => plain d (List.mem_cons_of_mem _ mem),
      Text.byteLength, Nat.add_assoc]
    -- The case for a carriage return with a line feed does not apply.
    rintro _ rfl
    exact absurd rfl ordinary.1

/-- A line end that is munched off a text is its first. -/
lemma lineStops_munched (h : Munches .endOfLine lexeme rest) (offset : Nat) :
    lineStops offset (lexeme ++ rest) =
      (offset + Text.byteLength lexeme) :: lineStops (offset + Text.byteLength lexeme) rest := by
  rcases mem_lineEnd.mp h.mem with rfl | rfl | rfl
  · rfl
  · rw [List.singleton_append, lineStops, if_pos (.inl rfl)]
    · rfl
    · nofun
  · rw [List.singleton_append, lineStops, if_pos (.inr rfl)]
    · rfl
    · -- With a line feed behind it, the carriage return would not be the longest line end.
      rintro tail - rfl
      have := h.longest .endOfLine ['\r', '\n'] (mem_lineEnd.mpr (.inl rfl)) ⟨tail, rfl⟩
      simp at this

lemma Digit.plain {c : Char} (h : Digit c) : c ∉ ['\r', '\n'] := by
  simp only [List.mem_cons, List.not_mem_nil, or_false]
  rintro (rfl | rfl) <;> exact absurd h (by unfold Digit; decide)

lemma Letter.plain {c : Char} (h : Letter c) : c ∉ ['\r', '\n'] := by
  simp only [List.mem_cons, List.not_mem_nil, or_false]
  rintro (rfl | rfl) <;> exact absurd h (by unfold Letter; decide)

/-- There are no line ends in a number. -/
lemma plain_of_groups (groups : text ∈ (fixed "." * digits)∗) : ∀ c ∈ text, c ∉ ['\r', '\n'] := by
  obtain ⟨parts, rfl, each⟩ := Language.mem_kstar.mp groups
  intro c mem
  obtain ⟨part, known, mem⟩ := List.mem_flatten.mp mem
  obtain ⟨whole, all, rfl⟩ := mem_fixed_mul.mp (each part known)
  rcases List.mem_append.mp mem with mem | mem
  · rw [List.mem_singleton.mp (show c ∈ ['.'] from mem)]
    decide
  · exact ((mem_digits.mp all).2 c mem).plain

/-- Only line ends hold characters that end a line. -/
lemma language_plain (mem : text ∈ kind.language) (other : kind ≠ .endOfLine) : ∀ c ∈ text, c ∉ ['\r', '\n'] := by
  obtain ⟨⟨pattern, _⟩, known, rfl, matched⟩ := mem_language.mp mem
  -- Fixed texts are looked through one by one, classes by the characters they are made of.
  rcases class_or_exactly known with ⟨word, rfl⟩ | known
  · obtain rfl : text = word := matched
    have table : ∀ rule ∈ rules, ∀ text ∈ rule.1.fixedText?, text.all (· ∉ ['\r', '\n']) := by decide +kernel
    exact fun c mem => of_decide_eq_true (List.all_eq_true.mp (table _ known text rfl) c mem)
  · simp only [Kind.classes, List.mem_cons, List.not_mem_nil, or_false] at known
    rcases known with rfl | rfl | rfl | rfl | rfl | rfl | rfl
    · exact absurd rfl other
    · intro c mem'
      obtain ⟨d, rest, rfl, blank, run⟩ := mem_oneOf_mul.mp mem
      have blanks : c ∈ [' ', '\t', '\x0c'] := by
        rcases List.mem_cons.mp mem' with rfl | mem'
        · exact blank
        · exact mem_run.mp run c mem'
      simp only [List.mem_cons, List.not_mem_nil, or_false] at blanks
      rcases blanks with rfl | rfl | rfl <;> decide
    · obtain ⟨rest, rfl, all⟩ := mem_comment.mp mem
      simpa using all
    · obtain ⟨d, rest, rfl, letter, run⟩ := mem_oneOf_mul.mp mem
      intro c mem'
      rcases List.mem_cons.mp mem' with rfl | mem'
      · exact letter.plain
      · exact (mem_run.mp run c mem').elim Letter.plain Digit.plain
    · exact fun c mem' => ((mem_digits.mp (mem_integer.mp mem)).2 c mem').plain
    · obtain ⟨whole, all, more, groups, -, rfl⟩ := mem_decimal.mp mem
      intro c mem'
      rcases List.mem_append.mp mem' with mem' | mem'
      · exact ((mem_digits.mp all).2 c mem').plain
      · exact plain_of_groups groups c mem'
    · obtain ⟨inner, all, e⟩ := mem_quoted.mp mem
      intro c mem'
      have parts : c = '"' ∨ c ∈ inner := by
        rcases e with rfl | rfl <;> simp at mem' <;> tauto
      rcases parts with rfl | mem'
      · decide
      · exact fun ends => all c mem' (List.mem_cons_of_mem _ ends)

/-- No line end is left over. -/
lemma Strays.plain {c : Char} (h : Strays (c :: rest)) : c ∉ ['\r', '\n'] := by
  intro mem
  refine h .endOfLine [c] (mem_lineEnd.mpr ?_) ⟨rest, rfl⟩
  simp only [List.mem_cons, List.not_mem_nil, or_false] at mem
  rcases mem with rfl | rfl <;> simp

/-! ## From slice to slice -/

/-- A place is where the rest of a text begins. -/
structure Marks (source front rest : List Char) (place : Place) (stops : List Nat) : Prop where
  split : source = front ++ rest
  offset : place.offset = Text.byteLength front
  passed : lineStops 0 source = stops ++ lineStops place.offset rest
  early : ∀ stop ∈ stops, stop ≤ place.offset
  line : place.line = 1 + stops.length
  column : ∃ before since, front = before ++ since ∧ Text.byteLength before = stops.getLastD 0 ∧
    place.column = 1 + since.length

namespace Marks

variable {place : Place} {stops : List Nat}

lemma start (source : List Char) : Marks source [] source .start [] where
  split := rfl
  offset := rfl
  passed := rfl
  early := nofun
  line := rfl
  column := ⟨[], [], rfl, rfl, rfl⟩

/-- The line ends up to a place are those that were passed. -/
lemma stopsUpTo_eq (h : Marks source front rest place stops) : stopsUpTo source place.offset = stops := by
  rw [stopsUpTo, h.passed, List.filter_append, List.filter_eq_self.mpr fun stop mem => decide_eq_true (h.early stop mem),
    List.filter_eq_nil_iff.mpr fun stop mem => ?_, List.append_nil]
  -- The line ends of the rest stop behind the place.
  simpa using lt_of_mem_lineStops mem

/-- The piece that begins at a place lies where the place says. -/
lemma lies (h : Marks source front (lexeme ++ rest) place stops) (file : String) :
    Lies file source front lexeme (place.span file lexeme) where
  piece := ⟨rest, by rw [h.split, List.append_assoc]⟩
  file := rfl
  text := rfl
  offset := h.offset
  length := rfl
  line := by
    rw [show (place.span file lexeme).offset = place.offset from rfl, h.stopsUpTo_eq]
    exact h.line
  column := by
    rw [show (place.span file lexeme).offset = place.offset from rfl, h.stopsUpTo_eq]
    exact h.column

/-- The place behind a line end. -/
lemma lineEnd (h : Marks source front (lexeme ++ rest) place stops) (munches : Munches .endOfLine lexeme rest) :
    Marks source (front ++ lexeme) rest (place.after ⟨some .endOfLine, lexeme⟩)
      (stops ++ [place.offset + Text.byteLength lexeme]) where
  split := by rw [h.split, List.append_assoc]
  offset := by rw [offset_after, h.offset, Text.byteLength_append]
  passed := by
    rw [h.passed, lineStops_munched munches, List.append_assoc]
    rfl
  early := by
    intro stop mem
    rw [offset_after]
    rcases List.mem_append.mp mem with mem | mem
    · exact Nat.le_add_right_of_le (h.early stop mem)
    · exact Nat.le_of_eq (List.mem_singleton.mp mem)
  line := by
    rw [List.length_append, ← Nat.add_assoc, ← h.line]
    rfl
  column := by
    refine ⟨front ++ lexeme, [], (List.append_nil _).symm, ?_, rfl⟩
    rw [Text.byteLength_append, ← h.offset]
    simp

/-- The place behind a lexeme without line ends. -/
lemma plain (h : Marks source front (lexeme ++ rest) place stops) {kind? : Option Kind}
    (other : kind? ≠ some .endOfLine) (plain : ∀ c ∈ lexeme, c ∉ ['\r', '\n']) :
    Marks source (front ++ lexeme) rest (place.after ⟨kind?, lexeme⟩) stops where
  split := by rw [h.split, List.append_assoc]
  offset := by rw [offset_after, h.offset, Text.byteLength_append]
  passed := by rw [h.passed, lineStops_plain plain, offset_after]
  early := by
    intro stop mem
    rw [offset_after]
    exact Nat.le_add_right_of_le (h.early stop mem)
  line := by
    rw [Place.after, if_neg other]
    exact h.line
  column := by
    obtain ⟨before, since, rfl, last, column⟩ := h.column
    refine ⟨before, since ++ lexeme, List.append_assoc .., last, ?_⟩
    rw [Place.after, if_neg other, List.length_append, ← Nat.add_assoc, ← column]

/-- The place behind a token. Line ends are lexemes of their own, so a lexeme either ends a line or has no line end
in it. -/
lemma munched (h : Marks source front (lexeme ++ rest) place stops) (munches : Munches kind lexeme rest) :
    ∃ stops', Marks source (front ++ lexeme) rest (place.after ⟨some kind, lexeme⟩) stops' := by
  by_cases line : kind = .endOfLine
  · subst line
    exact ⟨_, h.lineEnd munches⟩
  · exact ⟨_, h.plain (by simpa using line) (language_plain munches.mem line)⟩

/-- The place behind a character that no token begins with. -/
lemma stray {c : Char} (h : Marks source front (c :: rest) place stops) (strays : Strays (c :: rest)) :
    Marks source (front ++ [c]) rest (place.after ⟨none, [c]⟩) stops :=
  have single : Marks source front ([c] ++ rest) place stops := h
  single.plain nofun (by simpa using strays.plain)

end Marks

/-! ## Scanned texts -/

/-- A slice of a text lies where its span says. It is a token, but not the end of file, or a single character. -/
def Slice.Placed (file : String) (source : List Char) (slice : Slice) : Prop :=
  slice.kind? ≠ some .endOfFile ∧ ∃ front content, Lies file source front content slice.span ∧
    (slice.kind? = none → content.length = 1)

/-- Lexemes cover a text from a place to its end: their slices lie side by side, each where its span says. -/
structure Covers (file : String) (source : List Char) (place : Place) (cut : List Lexeme) : Prop where
  tiles : Tiles place.offset (Text.byteLength source) ((slicesFrom file place cut).map Slice.span)
  placed : ∀ slice ∈ slicesFrom file place cut, slice.Placed file source
  last : (cut.foldl Place.after place).offset = Text.byteLength source

section Covers

variable {file : String} {place : Place} {stops : List Nat} {cut : List Lexeme}

/-- One more lexeme in front. -/
lemma Covers.cons {kind? : Option Kind} (h : Covers file source (place.after ⟨kind?, lexeme⟩) cut)
    (marks : Marks source front (lexeme ++ rest) place stops) (nonempty : lexeme ≠ []) (ends : kind? ≠ some .endOfFile)
    (single : kind? = none → lexeme.length = 1) : Covers file source place (⟨kind?, lexeme⟩ :: cut) where
  tiles := by
    have tiles := h.tiles
    rw [offset_after] at tiles
    exact .cons (place.span file lexeme) (Text.byteLength_pos nonempty) tiles
  placed := by
    intro slice mem
    rcases List.mem_cons.mp mem with rfl | mem
    · exact ⟨ends, front, lexeme, marks.lies file, single⟩
    · exact h.placed slice mem
  last := h.last

/-- What maximal munch cuts a text into covers it. -/
lemma covers_of_munched (munched : Munched rest cut) (marks : Marks source front rest place stops) :
    Covers file source place cut := by
  induction munched generalizing front place stops with
  | nil =>
    have offset : place.offset = Text.byteLength source := by rw [marks.offset, marks.split, List.append_nil]
    refine ⟨?_, nofun, offset⟩
    rw [← offset]
    exact .nil
  | @token kind lexeme rest cut munches _ ih =>
    have nonempty : lexeme ≠ [] := by
      rintro rfl
      exact nil_notMem_language munches.mem
    have ends : some kind ≠ some .endOfFile := by
      rintro ⟨⟩
      cases munches.mem
    obtain ⟨_, behind⟩ := marks.munched munches
    exact (ih behind).cons marks nonempty ends nofun
  | @stray c rest cut strays _ ih =>
    have single : Marks source front ([c] ++ rest) place stops := marks
    exact (ih (marks.stray strays)).cons single nofun nofun fun _ => rfl

/-- The lexemes of a source cover it. -/
lemma covers_scan (file source : String) : Covers file source.toList .start (lexemes source.toList) :=
  covers_of_munched (munched_lexemes _) (.start _)

end Covers

/-- What is said about a slice is what scanning reports. -/
lemma complaint?_eq {slice : Slice} (fits : slice.Fits source) :
    slice.finding?.map LexicalProblem.diagnostic = slice.complaint? := by
  obtain ⟨front, lexeme, back, -, -, text, fits⟩ := fits
  obtain ⟨kind?, span⟩ := slice
  have content : span.content.toList = lexeme := by
    rw [Span.content, text, Option.getD_some, String.toList_ofList]
  let said (problem? : Option LexicalProblem) : Option Diagnostic :=
    (problem?.map (⟨·, span⟩)).map LexicalProblem.diagnostic
  cases kind? with
  | none =>
    show said (some (.unexpected (String.ofList span.content.toList))) = _
    rw [String.ofList_toList]
    rfl
  | some kind =>
    cases kind with
    | string =>
      show said (if isClosedQuote span.content.toList then none else some .missingQuote) =
        if Closed span.content.toList then none else said (some .missingQuote)
      by_cases closed : Closed span.content.toList
      · rw [if_pos (isClosedQuote_iff.mpr closed), if_pos closed]
        rfl
      · rw [if_neg (mt isClosedQuote_iff.mp closed), if_neg closed]
    | decimal =>
      show said (if 2 ≤ span.content.toList.count '.' then some .tooManyPoints else none) =
        if 2 ≤ span.content.toList.count '.' then said (some .tooManyPoints) else none
      split <;> rfl
    | integer =>
      show none = if 2 ≤ span.content.toList.count '.' then said (some .tooManyPoints) else none
      rw [if_neg]
      rw [content, List.count_eq_zero.mpr fits.mem.2]
      decide
    | _ => rfl

/-- The slices of a text lie side by side from its start to its end and each is where its span says. In their order
they are the tokens, which an end of file behind the last byte closes, and the single characters that are reported;
all else that is reported are quotes that are not closed and numbers with several points. -/
theorem scan_places (file source : String) : ∃ slices : List Slice,
    Tiles 0 source.utf8ByteSize (slices.map Slice.span) ∧
    (∀ slice ∈ slices, slice.Placed file source.toList) ∧
    (∃ last : Token, (scan file source).tokens = slices.filterMap Slice.token? ++ [last] ∧ last.kind = .endOfFile ∧
      last.span.offset = source.utf8ByteSize ∧ last.span.length = 0 ∧ last.span.text = none ∧ last.span.file = file) ∧
    (scan file source).diagnostics = slices.filterMap Slice.complaint? := by
  have munched := munched_lexemes source.toList
  have covers : Covers file source.toList .start (lexemes source.toList) := covers_of_munched munched (.start _)
  have size : Text.byteLength source.toList = source.utf8ByteSize := by
    rw [Text.byteLength_eq_utf8ByteSize, String.ofList_toList]
  -- The slices are the lexemes with their places; scanning sorts them into tokens and findings.
  refine ⟨slicesFrom file .start (lexemes source.toList), size ▸ covers.tiles, covers.placed, ?_, ?_⟩
  · rw [scan, scanFrom_eq]
    exact ⟨_, rfl, rfl, covers.last.trans size, rfl, rfl, rfl⟩
  · rw [Scan.diagnostics, scan, scanFrom_eq, List.map_filterMap]
    exact List.filterMap_congr fun slice mem =>
      complaint?_eq (fits_of_munched munched (List.nil_append _).symm rfl slice mem)

end ArrowScript.Token
