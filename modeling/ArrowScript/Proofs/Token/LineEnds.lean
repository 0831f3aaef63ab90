import ArrowScript.Proofs.Grammar.Respanning
import ArrowScript.Proofs.Token.Placing
import Mathlib.Order.Monotone.Basic

/-!
# Styles of line ends

Line feeds can be written as carriage returns or as both. Only the lexemes of line ends take notice of it: no other
lexeme holds a character that ends a line, so what is munched off a text stays the same up to its first line end. All
else moves on by what the line ends before it have grown (`scan_withLineEnds`).
-/

namespace ArrowScript

/-- A span that starts where its offset has moved to. -/
def Span.shift (moved : Nat → Nat) (span : Span) : Span :=
  { span with offset := moved span.offset }

/-- A span from where its start has moved to, to where its end has moved to. -/
def Span.stretch (moved : Nat → Nat) (span : Span) : Span :=
  { span with offset := moved span.offset, length := moved span.stop - moved span.offset }

namespace Token

/-- A text with some characters in place of every line feed. -/
def withLineEnds (ending text : List Char) : List Char :=
  text.flatMap fun c => if c = '\n' then ending else [c]

/-- Characters that end a line in another way than a line feed. -/
def OtherStyle (ending : List Char) : Prop :=
  ending = ['\r', '\n'] ∨ ending = ['\r']

/-- A lexeme, written differently if it is a line end. -/
def Lexeme.restyle (ending : List Char) (lexeme : Lexeme) : Lexeme :=
  if lexeme.kind? = some .endOfLine then ⟨some .endOfLine, ending⟩ else lexeme

/-- A token that starts where its offset has moved to, written differently if it is a line end. -/
def restyle (ending : List Char) (moved : Nat → Nat) (token : Token) : Token where
  kind := token.kind
  span :=
    if token.kind = .endOfLine then
      { token.span.shift moved with text := some (String.ofList ending), length := Text.byteLength ending }
    else token.span.shift moved

/-- Where an offset in a text moves to when its line feeds are written differently: every line end that stops there or
earlier grows by all bytes but one. -/
def movedOffset (ending source : List Char) (offset : Nat) : Nat :=
  offset + (Text.byteLength ending - 1) * (stopsUpTo source offset).length

variable {ending text front rest source : List Char} {kind : Kind} {cut : List Lexeme} {place : Place} {stops : List Nat}
  {file : String}

section
variable {lexeme : List Char}

/-! ## Characters -/

lemma withLineEnds_cons (c : Char) :
    withLineEnds ending (c :: rest) = (if c = '\n' then ending else [c]) ++ withLineEnds ending rest :=
  rfl

lemma withLineEnds_append :
    withLineEnds ending (front ++ rest) = withLineEnds ending front ++ withLineEnds ending rest :=
  List.flatMap_append

/-- A text without line ends stays as it is. -/
lemma withLineEnds_plain (plain : ∀ c ∈ text, c ∉ ['\r', '\n']) : withLineEnds ending text = text := by
  induction text with
  | nil => rfl
  | cons c rest ih =>
    have other : c ≠ '\n' := by
      rintro rfl
      exact plain '\n' List.mem_cons_self (by simp)
    rw [withLineEnds_cons, if_neg other, ih fun d mem => plain d (List.mem_cons_of_mem _ mem), List.singleton_append]

/-- Every line end is written with a carriage return first. -/
lemma OtherStyle.head (style : OtherStyle ending) : ∃ more, ending = '\r' :: more := by
  rcases style with rfl | rfl
  · exact ⟨['\n'], rfl⟩
  · exact ⟨[], rfl⟩

/-- What has no line ends begins a text if it begins the text that is written differently. -/
lemma prefix_of_withLineEnds (style : OtherStyle ending) (plain : ∀ c ∈ lexeme, c ∉ ['\r', '\n'])
    (begins : lexeme <+: withLineEnds ending text) : lexeme <+: text := by
  induction lexeme generalizing text with
  | nil => exact List.nil_prefix
  | cons c lexeme ih =>
    cases text with
    | nil => exact begins
    | cons d text =>
      rw [withLineEnds_cons] at begins
      by_cases feed : d = '\n'
      · -- A line end of the other style has a carriage return where the lexeme has none.
        obtain ⟨more, rfl⟩ := style.head
        rw [if_pos feed, List.cons_append, List.cons_prefix_cons] at begins
        exact absurd (by simp [begins.1]) (plain c List.mem_cons_self)
      · rw [if_neg feed, List.singleton_append, List.cons_prefix_cons] at begins
        exact List.cons_prefix_cons.mpr ⟨begins.1, ih (fun e mem => plain e (List.mem_cons_of_mem _ mem)) begins.2⟩

/-- A text without carriage returns has no line feeds once these are written as carriage returns. -/
lemma notMem_withLineEnds : '\n' ∉ withLineEnds ['\r'] text := by
  intro mem
  obtain ⟨c, -, there⟩ := List.mem_flatMap.mp mem
  split at there
  · simp at there
  · next other => exact other (List.mem_singleton.mp there).symm

/-! ## Cutting -/

/-- Lexemes of another kind than line ends begin with a character that ends no line. -/
lemma plain_head (mem : lexeme ∈ kind.language) (other : kind ≠ .endOfLine) :
    ∃ c more, lexeme = c :: more ∧ c ∉ ['\r', '\n'] := by
  cases lexeme with
  | nil => exact absurd mem nil_notMem_language
  | cons c more => exact ⟨c, more, rfl, language_plain mem other c List.mem_cons_self⟩

/-- Line ends begin with a character that ends a line. -/
lemma lineEnd_head (mem : lexeme ∈ Kind.endOfLine.language) : ∃ c more, lexeme = c :: more ∧ c ∈ ['\r', '\n'] := by
  rcases mem_lineEnd.mp mem with rfl | rfl | rfl <;> exact ⟨_, _, rfl, by simp⟩

/-- What is munched off a text, line ends apart, is munched off the text that is written differently. -/
lemma Munches.withLineEnds (h : Munches kind lexeme rest) (style : OtherStyle ending) (other : kind ≠ .endOfLine) :
    Munches kind lexeme (withLineEnds ending rest) where
  mem := h.mem
  longest := by
    intro kind' text mem begins
    by_cases line : kind' = .endOfLine
    · -- A line end begins differently.
      subst line
      obtain ⟨c, more, rfl, plain⟩ := plain_head h.mem other
      obtain ⟨d, more', rfl, ends⟩ := lineEnd_head mem
      rw [List.cons_append, List.cons_prefix_cons] at begins
      exact absurd (begins.1 ▸ ends) plain
    · have same : lexeme = Token.withLineEnds ending lexeme := (withLineEnds_plain (language_plain h.mem other)).symm
      rw [same, ← withLineEnds_append] at begins
      exact h.longest kind' text mem (prefix_of_withLineEnds style (language_plain mem line) begins)
  named := h.named

/-- Line ends are munched off as they are written. -/
lemma munches_ending (style : OtherStyle ending) : Munches .endOfLine ending (withLineEnds ending rest) where
  mem := by
    rcases style with rfl | rfl
    · exact mem_lineEnd.mpr (.inl rfl)
    · exact mem_lineEnd.mpr (.inr (.inr rfl))
  longest := by
    intro kind' text mem begins
    by_cases line : kind' = .endOfLine
    · subst line
      rcases style with rfl | rfl
      · rcases mem_lineEnd.mp mem with rfl | rfl | rfl <;> decide
      · rcases mem_lineEnd.mp mem with rfl | rfl | rfl
        · -- There is no line feed behind the carriage return.
          rw [List.singleton_append, List.cons_prefix_cons] at begins
          exact absurd (begins.2.subset List.mem_cons_self) notMem_withLineEnds
        · decide
        · decide
    · obtain ⟨c, more, rfl, plain⟩ := plain_head mem line
      obtain ⟨more', rfl⟩ := style.head
      rw [List.cons_append, List.cons_prefix_cons] at begins
      exact absurd (by simp [begins.1]) plain
  named := by
    intro kind' mem line
    obtain ⟨c, more, rfl, plain⟩ := plain_head mem line
    obtain ⟨more', e⟩ := style.head
    exact absurd (by simp [(List.cons.inj e).1]) plain

/-- A character that begins no lexeme of a text begins none of the text that is written differently. -/
lemma Strays.withLineEnds {c : Char} (h : Strays (c :: rest)) (style : OtherStyle ending) :
    Strays (c :: withLineEnds ending rest) := by
  intro kind lexeme mem begins
  by_cases line : kind = .endOfLine
  · subst line
    obtain ⟨d, more, rfl, ends⟩ := lineEnd_head mem
    rw [List.cons_prefix_cons] at begins
    exact h.plain (begins.1 ▸ ends)
  · have other : c ≠ '\n' := by
      rintro rfl
      exact h.plain (by simp)
    have same : c :: Token.withLineEnds ending rest = Token.withLineEnds ending (c :: rest) := by
      rw [withLineEnds_cons, if_neg other, List.singleton_append]
    rw [same] at begins
    exact h kind lexeme mem (prefix_of_withLineEnds style (language_plain mem line) begins)

/-- A line end of a text without carriage returns is a line feed. -/
lemma eq_lineFeed (mem : lexeme ∈ Kind.endOfLine.language) (feeds : '\r' ∉ lexeme) : lexeme = ['\n'] := by
  rcases mem_lineEnd.mp mem with rfl | rfl | rfl
  · exact absurd (by simp) feeds
  · rfl
  · exact absurd (by simp) feeds

/-- Maximal munch cuts a text alike whatever its line feeds are written as. -/
lemma Munched.withLineEnds (h : Munched text cut) (style : OtherStyle ending) (feeds : '\r' ∉ text) :
    Munched (withLineEnds ending text) (cut.map (Lexeme.restyle ending)) := by
  induction h with
  | nil => exact .nil
  | @token kind lexeme rest cut munches _ ih =>
    have ih := ih fun mem => feeds (List.mem_append_right _ mem)
    rw [List.map_cons, Lexeme.restyle, withLineEnds_append]
    by_cases line : kind = .endOfLine
    · subst line
      obtain rfl := eq_lineFeed munches.mem fun mem => feeds (List.mem_append_left _ mem)
      rw [if_pos rfl, show Token.withLineEnds ending ['\n'] = ending from List.append_nil _]
      exact .token (munches_ending style) ih
    · rw [if_neg (by simpa using line), withLineEnds_plain (language_plain munches.mem line)]
      exact .token (munches.withLineEnds style line) ih
  | @stray c rest cut strays _ ih =>
    have ih := ih fun mem => feeds (List.mem_cons_of_mem _ mem)
    have other : c ≠ '\n' := by
      rintro rfl
      exact strays.plain (by simp)
    rw [List.map_cons, Lexeme.restyle, if_neg nofun, withLineEnds_cons, if_neg other, List.singleton_append]
    exact .stray (strays.withLineEnds style) ih

/-- The lexemes of a text whose line feeds are written differently. -/
lemma lexemes_withLineEnds (style : OtherStyle ending) (feeds : '\r' ∉ text) :
    lexemes (withLineEnds ending text) = (lexemes text).map (Lexeme.restyle ending) :=
  (munched_iff.mp ((munched_lexemes text).withLineEnds style feeds)).symm

/-! ## Placing -/

/-- A place that has moved. -/
def Place.shift (moved : Nat → Nat) (place : Place) : Place :=
  { place with offset := moved place.offset }

/-- A place moves by what the line ends before it have grown. -/
lemma Marks.moved (h : Marks source front rest place stops) (ending : List Char) :
    movedOffset ending source place.offset = place.offset + (Text.byteLength ending - 1) * stops.length := by
  rw [movedOffset, h.stopsUpTo_eq]

/-- What a place does when a lexeme comes behind it: the place has moved as well, and by the length of the lexeme. -/
structure Follows (ending source : List Char) (place : Place) (lexeme : Lexeme) : Prop where
  after : (place.shift (movedOffset ending source)).after (lexeme.restyle ending) =
    (place.after lexeme).shift (movedOffset ending source)
  stop : movedOffset ending source (place.after lexeme).offset =
    movedOffset ending source place.offset + Text.byteLength (lexeme.restyle ending).text

/-- A line feed is followed by a place that has moved on by what it has grown. -/
lemma Marks.follows_lineFeed (h : Marks source front (['\n'] ++ rest) place stops) (style : OtherStyle ending)
    (munches : Munches .endOfLine ['\n'] rest) : Follows ending source place ⟨some .endOfLine, ['\n']⟩ := by
  have one : 1 ≤ Text.byteLength ending := by rcases style with rfl | rfl <;> decide
  have stop : movedOffset ending source (place.after ⟨some .endOfLine, ['\n']⟩).offset =
      movedOffset ending source place.offset + Text.byteLength ending := by
    rw [(h.lineEnd munches).moved, h.moved, offset_after, List.length_append, Nat.mul_add,
      show Text.byteLength ['\n'] = 1 from rfl, List.length_singleton]
    omega
  exact ⟨congrArg (Place.mk · _ _) stop.symm, stop⟩

/-- A lexeme without line ends is followed by a place that has moved as far as the one before it. -/
lemma Marks.follows_plain (h : Marks source front (lexeme ++ rest) place stops) (ending : List Char)
    {kind? : Option Kind} (other : kind? ≠ some .endOfLine) (plain : ∀ c ∈ lexeme, c ∉ ['\r', '\n']) :
    Follows ending source place ⟨kind?, lexeme⟩ := by
  have same : Lexeme.restyle ending ⟨kind?, lexeme⟩ = ⟨kind?, lexeme⟩ := if_neg other
  have stop : movedOffset ending source (place.after ⟨kind?, lexeme⟩).offset =
      movedOffset ending source place.offset + Text.byteLength lexeme := by
    rw [(h.plain other plain).moved, h.moved, offset_after]
    exact Nat.add_right_comm ..
  refine ⟨?_, by rw [same, stop]⟩
  rw [same, Place.after, if_neg other, Place.after, if_neg other]
  rw [Place.after, if_neg other] at stop
  exact congrArg (Place.mk · _ _) stop.symm

end

/-! ## Scanning -/

section
variable {lexeme : Lexeme}

/-- A lexeme that is written differently is as problematic as before. -/
lemma problem?_restyle (ending : List Char) (lexeme : Lexeme) : (lexeme.restyle ending).problem? = lexeme.problem? := by
  unfold Lexeme.restyle
  split
  · next line =>
    obtain ⟨kind?, text⟩ := lexeme
    obtain rfl : kind? = some .endOfLine := line
    rfl
  · rfl

/-- What was scanned, when line ends are written differently. -/
def Scan.restyle (ending : List Char) (moved : Nat → Nat) (scan : Scan) : Scan where
  tokens := scan.tokens.map (Token.restyle ending moved)
  findings := scan.findings.map (Finding.relocate (Span.shift moved))

/-- The token of a lexeme that is written differently. -/
lemma restyle_token (ending : List Char) (moved : Nat → Nat) (known : lexeme.kind? = some kind) :
    (⟨kind, (place.shift moved).span file (lexeme.restyle ending).text⟩ : Token) =
      restyle ending moved ⟨kind, place.span file lexeme.text⟩ := by
  unfold Lexeme.restyle restyle
  by_cases line : kind = .endOfLine
  · subst line
    simp only [known, if_true]
    rfl
  · simp only [known, Option.some.injEq, line, if_false]
    rfl

/-- A problem is found at the span of a lexeme, which is no line end. -/
lemma restyle_finding (ending : List Char) (moved : Nat → Nat) {problem : LexicalProblem}
    (found : lexeme.problem? = some problem) :
    (⟨problem, (place.shift moved).span file (lexeme.restyle ending).text⟩ : Finding LexicalProblem) =
      Finding.relocate (Span.shift moved) ⟨problem, place.span file lexeme.text⟩ := by
  have other : lexeme.kind? ≠ some .endOfLine := by
    intro line
    rw [Lexeme.problem?, line] at found
    cases found
  rw [Lexeme.restyle, if_neg other]
  rfl

/-- One more lexeme is scanned. -/
lemma Follows.scanFrom (h : Follows ending source place lexeme)
    (ih : scanFrom file ((place.after lexeme).shift (movedOffset ending source)) (cut.map (Lexeme.restyle ending)) =
      (scanFrom file (place.after lexeme) cut).restyle ending (movedOffset ending source)) :
    scanFrom file (place.shift (movedOffset ending source)) ((lexeme :: cut).map (Lexeme.restyle ending)) =
      (scanFrom file place (lexeme :: cut)).restyle ending (movedOffset ending source) := by
  have kind? : (lexeme.restyle ending).kind? = lexeme.kind? := by
    unfold Lexeme.restyle
    split
    · next line => exact line.symm
    · rfl
  rw [List.map_cons, Token.scanFrom, h.after, ih, Token.scanFrom, problem?_restyle, kind?]
  simp only [Scan.restyle, List.map_append, Option.toList_map, Scan.mk.injEq]
  refine ⟨congrArg (· ++ _) ?_, congrArg (· ++ _) ?_⟩
  · cases e : lexeme.kind? with
    | none => rfl
    | some kind => exact congrArg ([·]) (restyle_token ending _ e)
  · cases e : lexeme.problem? with
    | none => rfl
    | some problem => exact congrArg ([·]) (restyle_finding ending _ e)

/-- Line ends apart, tokens are as long where they have moved to. -/
lemma Follows.stretch (h : Follows ending source place lexeme) (other : lexeme.kind? ≠ some .endOfLine) :
    (place.span file lexeme.text).stretch (movedOffset ending source) =
      (place.span file lexeme.text).shift (movedOffset ending source) := by
  have stop : (place.span file lexeme.text).stop = (place.after lexeme).offset := by
    rw [Place.after, if_neg other]
    rfl
  have length := h.stop
  rw [Lexeme.restyle, if_neg other] at length
  rw [Span.stretch, stop, length]
  show _ = (⟨_, _, _, _, _, _⟩ : Span)
  congr 1
  exact Nat.add_sub_cancel_left ..

end

/-- The lexemes of a text, one after the other, move by what line ends have grown. -/
lemma Munched.follows (munched : Munched rest cut) (file : String) (marks : Marks source front rest place stops)
    (style : OtherStyle ending) (feeds : '\r' ∉ rest) :
    scanFrom file (place.shift (movedOffset ending source)) (cut.map (Lexeme.restyle ending)) =
        (scanFrom file place cut).restyle ending (movedOffset ending source) ∧
      ∀ token ∈ (scanFrom file place cut).tokens, token.kind ≠ .endOfLine →
        token.span.stretch (movedOffset ending source) = token.span.shift (movedOffset ending source) := by
  induction munched generalizing front place stops with
  | nil =>
    refine ⟨rfl, fun token mem _ => ?_⟩
    obtain rfl := List.mem_singleton.mp mem
    show (⟨_, _, _, _, _, _⟩ : Span) = ⟨_, _, _, _, _, _⟩
    congr 1
    exact Nat.sub_self _
  | @token kind lexeme rest cut munches _ ih =>
    have follows : Follows ending source place ⟨some kind, lexeme⟩ := by
      by_cases line : kind = .endOfLine
      · subst line
        obtain rfl := eq_lineFeed munches.mem fun mem => feeds (List.mem_append_left _ mem)
        exact marks.follows_lineFeed style munches
      · exact marks.follows_plain ending (by simpa using line) (language_plain munches.mem line)
    obtain ⟨_, behind⟩ := marks.munched munches
    obtain ⟨scanned, lengths⟩ := ih behind fun mem => feeds (List.mem_append_right _ mem)
    refine ⟨follows.scanFrom scanned, fun token mem other => ?_⟩
    rcases List.mem_append.mp mem with first | later
    · obtain rfl := List.mem_singleton.mp first
      exact follows.stretch (by simpa using other)
    · exact lengths token later other
  | @stray c rest cut strays _ ih =>
    have single : Marks source front ([c] ++ rest) place stops := marks
    have follows : Follows ending source place ⟨none, [c]⟩ :=
      single.follows_plain ending nofun (by simpa using strays.plain)
    obtain ⟨scanned, lengths⟩ := ih (marks.stray strays) fun mem => feeds (List.mem_cons_of_mem _ mem)
    exact ⟨follows.scanFrom scanned, fun token mem => lengths token mem⟩

/-- A source whose line feeds are written differently has the same tokens and the same problems, moved by what line
ends have grown; line ends apart, the tokens are as long as before. -/
theorem scan_withLineEnds (file : String) {source : String} (style : OtherStyle ending) (feeds : '\r' ∉ source.toList) :
    let moved := movedOffset ending source.toList
    scan file (String.ofList (withLineEnds ending source.toList)) = (scan file source).restyle ending moved ∧
      ∀ token ∈ (scan file source).tokens, token.kind ≠ .endOfLine →
        token.span.stretch moved = token.span.shift moved := by
  intro moved
  have start : Place.start.shift moved = .start := by
    rw [Place.shift, show Place.start.offset = 0 from rfl, show moved 0 = _ from (Marks.start source.toList).moved ending]
    rfl
  obtain ⟨scanned, lengths⟩ := (munched_lexemes source.toList).follows file (.start _) style feeds
  rw [start] at scanned
  rw [scan, String.toList_ofList, lexemes_withLineEnds style feeds, scanned]
  exact ⟨rfl, lengths⟩

/-! ## Offsets -/

/-- Offsets keep their order when line ends grow. -/
lemma movedOffset_strictMono (ending source : List Char) : StrictMono (movedOffset ending source) := by
  intro offset later before
  have stops : (stopsUpTo source offset).length ≤ (stopsUpTo source later).length := by
    unfold stopsUpTo
    refine (List.monotone_filter_right _ fun stop early => ?_).length_le
    simp only [decide_eq_true_eq] at early ⊢
    exact early.trans before.le
  exact Nat.add_lt_add_of_lt_of_le before (Nat.mul_le_mul_left _ stops)

end Token

end ArrowScript
