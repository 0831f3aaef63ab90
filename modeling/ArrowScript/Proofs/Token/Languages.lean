import ArrowScript.Proofs.Token.Scanning
import Mathlib.Computability.Language
import Mathlib.Order.Bounds.Basic

/-!
# Lexical languages

The lexemes of a kind are a regular language, put together from classes of characters and fixed texts. What a
pattern finds at the start of a text is the greatest length that a beginning of the text has in the language of
the pattern, and nothing where no beginning is in it.
-/

namespace ArrowScript.Token

open scoped Computability

/-! ## Kinds -/

/-- The texts of a single character of a class. -/
def oneOf (member : Char → Prop) : Language Char :=
  {text | ∃ c, member c ∧ text = [c]}

/-- A fixed text. -/
def fixed (text : String) : Language Char :=
  {text.toList}

/-- Letters and the underscore. -/
def Letter (c : Char) : Prop :=
  'a' ≤ c ∧ c ≤ 'z' ∨ 'A' ≤ c ∧ c ≤ 'Z' ∨ c = '_'

/-- Decimal digits. -/
def Digit (c : Char) : Prop :=
  '0' ≤ c ∧ c ≤ '9'

/-- One digit or more. -/
def digits : Language Char :=
  oneOf Digit * (oneOf Digit)∗

/-- Digits with any number of further groups of digits, each led by a point. -/
def numbers : Language Char :=
  digits * (fixed "." * digits)∗

/-- The lexemes of a kind; nothing is an end of file. -/
def Kind.language : Kind → Language Char
  | .endOfFile => 0
  | .endOfLine => fixed "\r\n" + fixed "\n" + fixed "\r"
  | .whitespace => oneOf (· ∈ [' ', '\t', '\x0c']) * (oneOf (· ∈ [' ', '\t', '\x0c']))∗
  | .comment => fixed "//" * (oneOf (· ∉ ['\r', '\n']))∗
  | .identifier => oneOf Letter * (oneOf fun c => Letter c ∨ Digit c)∗
  | .builtinType => fixed "int" + fixed "decimal" + fixed "bool" + fixed "str" + fixed "byte"
  | .boolean => fixed "true" + fixed "false"
  | .integer => {text | text ∈ numbers ∧ '.' ∉ text}
  | .decimal => {text | text ∈ numbers ∧ '.' ∈ text}
  | .string => fixed "\"" * (oneOf (· ∉ ['"', '\r', '\n']))∗ * (fixed "\"" + 1)
  | kind => kind.spelling?.elim 0 fixed

/-- The language of a pattern. -/
def Pattern.language : Pattern → Language Char
  | exactly text => {text}
  | lineEnd => Kind.endOfLine.language
  | blanks => Kind.whitespace.language
  | comment => Kind.comment.language
  | word => Kind.identifier.language
  | integer => Kind.integer.language
  | decimal => Kind.decimal.language
  | quoted => Kind.string.language

/-! ## Beginnings of a text -/

/-- The lengths of the beginnings of a text that are in a language. -/
def lengths (language : Language Char) (text : List Char) : Set Nat :=
  {length | ∃ lexeme ∈ language, lexeme <+: text ∧ lexeme.length = length}

/-- What is found is the greatest length of a beginning of a text in a language; nothing is found if there is no
such beginning. -/
def Finds (found : Option Nat) (language : Language Char) (text : List Char) : Prop :=
  match found with
  | some length => IsGreatest (lengths language text) length
  | none => lengths language text = ∅

variable {language : Language Char} {lexeme text rest front : List Char} {member : Char → Prop} {length : Nat}

lemma mem_fixed {word : String} : text ∈ fixed word ↔ text = word.toList :=
  Iff.rfl

/-- A run of characters of a class. -/
lemma mem_run : text ∈ (oneOf member)∗ ↔ ∀ c ∈ text, member c := by
  rw [Language.mem_kstar]
  constructor
  · rintro ⟨parts, rfl, single⟩ c mem
    obtain ⟨part, known, mem⟩ := List.mem_flatten.mp mem
    obtain ⟨d, hd, rfl⟩ := single part known
    obtain rfl := List.mem_singleton.mp mem
    exact hd
  · intro all
    -- A run is put together from its characters, one at a time.
    refine ⟨text.map ([·]), ?_, ?_⟩
    · induction text with
      | nil => rfl
      | cons c rest ih => simpa using ih fun d mem => all d (List.mem_cons_of_mem _ mem)
    · intro part mem
      obtain ⟨c, known, rfl⟩ := List.mem_map.mp mem
      exact ⟨c, all c known, rfl⟩

/-- A character of a class in front. -/
lemma mem_oneOf_mul : text ∈ oneOf member * language ↔ ∃ c rest, text = c :: rest ∧ member c ∧ rest ∈ language := by
  rw [Language.mem_mul]
  constructor
  · rintro ⟨_, ⟨c, hc, rfl⟩, rest, mem, rfl⟩
    exact ⟨c, rest, rfl, hc, mem⟩
  · rintro ⟨c, rest, rfl, hc, mem⟩
    exact ⟨[c], ⟨c, hc, rfl⟩, rest, mem, rfl⟩

/-- A fixed text in front. -/
lemma mem_fixed_mul {word : String} :
    text ∈ fixed word * language ↔ ∃ rest ∈ language, text = word.toList ++ rest := by
  rw [Language.mem_mul]
  constructor
  · rintro ⟨_, rfl, rest, mem, rfl⟩
    exact ⟨rest, mem, rfl⟩
  · rintro ⟨rest, mem, rfl⟩
    exact ⟨_, rfl, rest, mem, rfl⟩

namespace Finds

/-- A beginning of a text that is in the language and longer than all others there. -/
lemma some (lexeme : List Char) (mem : lexeme ∈ language) (begins : lexeme <+: text)
    (longest : ∀ other ∈ language, other <+: text → other.length ≤ lexeme.length) :
    Finds (some lexeme.length) language text := by
  refine ⟨⟨lexeme, mem, begins, rfl⟩, ?_⟩
  rintro _ ⟨other, known, starts, rfl⟩
  exact longest other known starts

/-- No beginning of a text is in the language. -/
lemma none (h : ∀ lexeme ∈ language, ¬ lexeme <+: text) : Finds none language text := by
  refine Set.eq_empty_iff_forall_notMem.mpr ?_
  rintro _ ⟨lexeme, mem, begins, rfl⟩
  exact h lexeme mem begins

/-- Where nothing is found, no beginning of the text is in the language. -/
lemma absent (h : Finds .none language text) (mem : lexeme ∈ language) : ¬ lexeme <+: text :=
  fun begins => Set.eq_empty_iff_forall_notMem.mp h _ ⟨lexeme, mem, begins, rfl⟩

/-- What is found is at least as long as any beginning of the text in the language. -/
lemma longest (h : Finds (.some length) language text) (mem : lexeme ∈ language) (begins : lexeme <+: text) :
    lexeme.length ≤ length :=
  h.2 ⟨lexeme, mem, begins, rfl⟩

/-- A character of a class in front takes one more. -/
lemma cons {c : Char} (hc : member c) (h : Finds (.some length) language text) :
    Finds (.some (1 + length)) (oneOf member * language) (c :: text) := by
  obtain ⟨⟨lexeme, mem, begins, rfl⟩, longest⟩ := h
  rw [Nat.add_comm]
  refine some (c :: lexeme) (mem_oneOf_mul.mpr ⟨c, lexeme, rfl, hc, mem⟩)
    (List.cons_prefix_cons.mpr ⟨rfl, begins⟩) fun other known starts => ?_
  obtain ⟨d, rest, rfl, -, known⟩ := mem_oneOf_mul.mp known
  exact Nat.succ_le_succ (longest ⟨rest, known, (List.cons_prefix_cons.mp starts).2, rfl⟩)

/-- A character that is not of the class that is asked for in front. -/
lemma cons_none {c : Char} (hc : ¬ member c) : Finds .none (oneOf member * language) (c :: text) := by
  refine none fun lexeme mem begins => ?_
  obtain ⟨d, rest, rfl, hd, -⟩ := mem_oneOf_mul.mp mem
  obtain ⟨rfl, -⟩ := List.cons_prefix_cons.mp begins
  exact hc hd

/-- There is no character at all. -/
lemma nil_none : Finds .none (oneOf member * language) [] := by
  refine none fun lexeme mem begins => ?_
  obtain ⟨d, rest, rfl, -⟩ := mem_oneOf_mul.mp mem
  cases List.prefix_nil.mp begins

/-- A fixed text in front takes its length more. -/
lemma fixed_append (word : String) (h : Finds (.some length) language text) :
    Finds (.some (word.toList.length + length)) (fixed word * language) (word.toList ++ text) := by
  obtain ⟨⟨lexeme, mem, begins, rfl⟩, longest⟩ := h
  rw [← List.length_append]
  refine some _ (mem_fixed_mul.mpr ⟨lexeme, mem, rfl⟩) ((List.prefix_append_right_inj _).mpr begins)
    fun other known starts => ?_
  obtain ⟨rest, inner, rfl⟩ := mem_fixed_mul.mp known
  rw [List.length_append, List.length_append]
  exact Nat.add_le_add_left (longest ⟨rest, inner, (List.prefix_append_right_inj _).mp starts, rfl⟩) _

/-- The fixed text that is asked for in front is not there. -/
lemma fixed_none {word : String} (h : ¬ word.toList <+: text) : Finds .none (fixed word * language) text := by
  refine none fun lexeme mem begins => ?_
  obtain ⟨rest, -, rfl⟩ := mem_fixed_mul.mp mem
  exact h ((List.prefix_append _ _).trans begins)

end Finds

/-! ## Runs -/

variable {class? : Char → Bool}

/-- A run goes on behind characters of its class. -/
lemma runLength_append (all : ∀ c ∈ front, class? c) (rest : List Char) :
    runLength class? (front ++ rest) = front.length + runLength class? rest := by
  induction front with
  | nil => simp
  | cons c front ih =>
    rw [List.cons_append, runLength, if_pos (all c List.mem_cons_self),
      ih fun d mem => all d (List.mem_cons_of_mem _ mem), List.length_cons]
    omega

/-- A text begins with its run, behind which there is none. -/
lemma exists_run (class? : Char → Bool) (text : List Char) : ∃ front back, text = front ++ back ∧
    runLength class? text = front.length ∧ (∀ c ∈ front, class? c) ∧ runLength class? back = 0 := by
  have all := take_runLength class? text
  have whole := runLength_append all (text.drop (runLength class? text))
  have taken := List.length_take_of_le (runLength_le class? text)
  rw [List.take_append_drop, taken] at whole
  exact ⟨_, _, (List.take_append_drop _ text).symm, taken.symm, all, by omega⟩

/-- A run is as long as can be. -/
lemma finds_runLength (decides : ∀ c, class? c ↔ member c) (text : List Char) :
    Finds (some (runLength class? text)) (oneOf member)∗ text := by
  obtain ⟨front, back, rfl, length, all, -⟩ := exists_run class? text
  rw [length]
  refine .some _ (mem_run.mpr fun c mem => (decides c).mp (all c mem)) (List.prefix_append ..)
    fun other known starts => ?_
  -- Any other run at the start would be part of the one that is found.
  obtain ⟨rest, e⟩ := starts
  have inside := runLength_append (fun c mem => (decides c).mpr (mem_run.mp known c mem)) rest
  rw [e] at inside
  omega

/-- A run that must not be empty. -/
lemma finds_run? (decides : ∀ c, class? c ↔ member c) (text : List Char) :
    Finds (run? class? text) (oneOf member * (oneOf member)∗) text := by
  cases text with
  | nil => exact .nil_none
  | cons c rest =>
    rw [run?, runLength]
    by_cases h : class? c
    · rw [if_pos h, Nat.add_comm]
      split
      · omega
      · exact .cons ((decides c).mp h) (finds_runLength decides rest)
    · rw [if_neg h]
      exact .cons_none (mt (decides c).mpr h)

/-! ## Classes -/

lemma isLineEnd_iff {c : Char} : isLineEnd c ↔ c = '\n' ∨ c = '\r' := by
  simp [isLineEnd]

lemma isBlank_iff {c : Char} : isBlank c ↔ c ∈ [' ', '\t', '\x0c'] := by
  simp [isBlank, or_assoc]

lemma inLine_iff {c : Char} : (!isLineEnd c) ↔ c ∉ ['\r', '\n'] := by
  simp [isLineEnd, and_comm]

lemma isQuotable_iff {c : Char} : isQuotable c ↔ c ∉ ['"', '\r', '\n'] := by
  simp [isQuotable, isLineEnd, and_comm]

lemma isDigit_iff {c : Char} : c.isDigit ↔ Digit c := by
  simp [Char.isDigit, Digit, Char.le_def, UInt32.le_iff_toNat_le]

lemma isAlpha_iff {c : Char} : c.isAlpha ↔ 'A' ≤ c ∧ c ≤ 'Z' ∨ 'a' ≤ c ∧ c ≤ 'z' := by
  show (decide (c.val ≥ 'A'.val ∧ c.val ≤ 'Z'.val) || decide (c.val ≥ 'a'.val) && decide (c.val ≤ 'z'.val)) = true ↔ _
  simp only [Bool.or_eq_true, Bool.and_eq_true, decide_eq_true_eq]
  rfl

lemma isWordStart_iff {c : Char} : isWordStart c ↔ Letter c := by
  simp only [isWordStart, Bool.or_eq_true, isAlpha_iff, decide_eq_true_eq, Letter]
  tauto

lemma isWordRest_iff {c : Char} : isWordRest c ↔ Letter c ∨ Digit c := by
  rw [← isWordStart_iff, ← isDigit_iff]
  simp [isWordRest, isWordStart, Char.isAlphanum]
  tauto

/-! ## Patterns -/

lemma finds_exactly (word text : List Char) : Finds ((Pattern.exactly word).longest? text) {word} text := by
  rw [Pattern.longest?]
  split
  · next begins =>
    exact .some _ rfl (List.isPrefixOf_iff_prefix.mp begins) fun other known _ => by rw [show other = word from known]
  · next begins =>
    refine .none fun lexeme mem starts => begins ?_
    rw [show lexeme = word from mem] at starts
    exact List.isPrefixOf_iff_prefix.mpr starts

/-- Line ends are of one or two characters. -/
lemma mem_lineEnd : text ∈ Kind.endOfLine.language ↔ text = ['\r', '\n'] ∨ text = ['\n'] ∨ text = ['\r'] := by
  show text ∈ fixed "\r\n" + fixed "\n" + fixed "\r" ↔ _
  simp only [Language.mem_add, mem_fixed, or_assoc]
  rfl

lemma finds_lineEnd (text : List Char) : Finds (Pattern.lineEnd.longest? text) Kind.endOfLine.language text := by
  rcases text with _ | ⟨c, rest⟩
  · refine .none fun lexeme mem begins => ?_
    obtain rfl := List.prefix_nil.mp begins
    simp [mem_lineEnd] at mem
  · by_cases both : ∃ tail, c = '\r' ∧ rest = '\n' :: tail
    · obtain ⟨tail, rfl, rfl⟩ := both
      rw [Pattern.longest?]
      refine .some ['\r', '\n'] (mem_lineEnd.mpr (.inl rfl)) ⟨tail, rfl⟩ fun other known _ => ?_
      rcases mem_lineEnd.mp known with rfl | rfl | rfl <;> simp
    · have single : Pattern.lineEnd.longest? (c :: rest) = if isLineEnd c then some 1 else none := by
        rw [Pattern.longest?]
        rintro tail rfl rfl
        exact both ⟨tail, rfl, rfl⟩
      rw [single]
      -- Without a line feed behind a carriage return, only single characters are left.
      have short : ∀ lexeme ∈ Kind.endOfLine.language, lexeme <+: c :: rest → isLineEnd c ∧ lexeme = [c] := by
        intro lexeme mem begins
        rcases mem_lineEnd.mp mem with rfl | rfl | rfl
        · obtain ⟨rfl, tail, e⟩ := List.cons_prefix_cons.mp begins
          exact absurd ⟨tail, rfl, e.symm⟩ both
        · obtain ⟨rfl, -⟩ := List.cons_prefix_cons.mp begins
          exact ⟨rfl, rfl⟩
        · obtain ⟨rfl, -⟩ := List.cons_prefix_cons.mp begins
          exact ⟨rfl, rfl⟩
      split
      · next h =>
        refine .some [c] ?_ ⟨rest, rfl⟩ fun other known starts => by rw [(short other known starts).2]
        rcases isLineEnd_iff.mp h with rfl | rfl <;> simp [mem_lineEnd]
      · next h => exact .none fun lexeme mem begins => h (short lexeme mem begins).1

lemma finds_comment (text : List Char) : Finds (Pattern.comment.longest? text) Kind.comment.language text := by
  by_cases slashes : ['/', '/'] <+: text
  · obtain ⟨rest, rfl⟩ := slashes
    exact .fixed_append "//" (finds_runLength (fun _ => inLine_iff) rest)
  · have absent : Pattern.comment.longest? text = none := by
      rw [Pattern.longest?]
      rintro rest rfl
      exact slashes ⟨rest, rfl⟩
    rw [absent]
    exact .fixed_none slashes

lemma finds_word (text : List Char) : Finds (Pattern.word.longest? text) Kind.identifier.language text := by
  cases text with
  | nil => exact .nil_none
  | cons c rest =>
    rw [Pattern.longest?]
    split
    · next start => exact .cons (isWordStart_iff.mp start) (finds_runLength (fun _ => isWordRest_iff) rest)
    · next start => exact .cons_none (mt isWordStart_iff.mpr start)

/-- A comment is two slashes and the rest of the line. -/
lemma mem_comment : text ∈ Kind.comment.language ↔
    ∃ rest, text = '/' :: '/' :: rest ∧ ∀ c ∈ rest, c ∉ ['\r', '\n'] := by
  show text ∈ fixed "//" * (oneOf (· ∉ ['\r', '\n']))∗ ↔ _
  simp only [mem_fixed_mul, mem_run]
  exact ⟨fun ⟨rest, all, e⟩ => ⟨rest, e, all⟩, fun ⟨rest, e, all⟩ => ⟨rest, all, e⟩⟩

/-- A quoted text has a quote in front and may have another one at the end. -/
lemma mem_quoted : text ∈ Kind.string.language ↔ ∃ inner, (∀ c ∈ inner, c ∉ ['"', '\r', '\n']) ∧
    (text = '"' :: (inner ++ ['"']) ∨ text = '"' :: inner) := by
  show text ∈ fixed "\"" * (oneOf (· ∉ ['"', '\r', '\n']))∗ * (fixed "\"" + 1) ↔ _
  rw [mul_assoc, mem_fixed_mul]
  simp only [Language.mem_mul, mem_run]
  constructor
  · rintro ⟨_, ⟨inner, all, close, ends, rfl⟩, rfl⟩
    rcases ends with rfl | rfl
    · exact ⟨inner, all, .inl rfl⟩
    · exact ⟨inner, all, .inr (by rw [List.append_nil]; rfl)⟩
  · rintro ⟨inner, all, rfl | rfl⟩
    · exact ⟨_, ⟨inner, all, ['"'], .inl rfl, rfl⟩, rfl⟩
    · exact ⟨_, ⟨inner, all, [], .inr rfl, List.append_nil _⟩, rfl⟩

/-- Behind the opening quote, a quoted text goes up to the closing quote or, if that is missing, the end of the
line. -/
lemma finds_quotedRest (text : List Char) :
    Finds (some (runLength isQuotable text + if text[runLength isQuotable text]? = some '"' then 1 else 0))
      ((oneOf (· ∉ ['"', '\r', '\n']))∗ * (fixed "\"" + 1)) text := by
  obtain ⟨front, back, rfl, length, all, stop⟩ := exists_run isQuotable text
  have run : front ∈ (oneOf (· ∉ ['"', '\r', '\n']))∗ := mem_run.mpr fun c mem => isQuotable_iff.mp (all c mem)
  rw [length, List.getElem?_append_right (Nat.le_refl _), Nat.sub_self]
  -- However a beginning is read, its inner part lies in the run of the text.
  have whole (inner close rest : List Char) (known : inner ∈ (oneOf (· ∉ ['"', '\r', '\n']))∗)
      (e : inner ++ close ++ rest = front ++ back) :
      front.length = inner.length + runLength isQuotable (close ++ rest) := by
    rw [← length, ← e, List.append_assoc,
      runLength_append fun c mem => isQuotable_iff.mpr (mem_run.mp known c mem)]
  split
  · next close =>
    obtain ⟨rest, rfl⟩ : ∃ rest, back = '"' :: rest := by
      cases back <;> simp_all
    have length : (front ++ ['"']).length = front.length + 1 := List.length_append
    rw [← length]
    refine .some _ (Language.mem_mul.mpr ⟨front, run, ['"'], .inl rfl, rfl⟩) ⟨rest, by simp⟩ fun other known starts => ?_
    obtain ⟨inner, inside, close, ends, rfl⟩ := Language.mem_mul.mp known
    obtain ⟨rest', e⟩ := starts
    have whole := whole inner close rest' inside e
    have short : close.length ≤ 1 := by rcases ends with rfl | rfl <;> simp
    rw [List.length_append]
    omega
  · next open' =>
    rw [Nat.add_zero, ← List.append_nil front]
    refine .some _ (Language.mem_mul.mpr ⟨front, run, [], .inr rfl, rfl⟩) ⟨back, by simp⟩ fun other known starts => ?_
    obtain ⟨inner, inside, close, ends, rfl⟩ := Language.mem_mul.mp known
    obtain ⟨rest', e⟩ := starts
    have whole := whole inner close rest' inside (by simpa using e)
    rcases ends with rfl | rfl
    · -- A closing quote would stand right behind the run.
      have stops : runLength isQuotable ("\"".toList ++ rest') = 0 := rfl
      rw [stops, Nat.add_zero] at whole
      rw [List.append_nil, List.append_assoc] at e
      obtain ⟨-, rfl⟩ := List.append_inj e whole.symm
      exact absurd rfl open'
    · simp only [List.append_nil]
      omega

lemma finds_quoted (text : List Char) : Finds (Pattern.quoted.longest? text) Kind.string.language text := by
  by_cases quote : ['"'] <+: text
  · obtain ⟨rest, rfl⟩ := quote
    have found := Finds.fixed_append "\"" (finds_quotedRest rest)
    rw [← mul_assoc, ← Nat.add_assoc] at found
    exact found
  · have absent : Pattern.quoted.longest? text = none := by
      rw [Pattern.longest?]
      rintro rest rfl
      exact quote ⟨rest, rfl⟩
    rw [absent, show Kind.string.language = _ from mul_assoc ..]
    exact .fixed_none quote

/-! ## Numbers -/

lemma mem_digits : text ∈ digits ↔ text ≠ [] ∧ ∀ c ∈ text, Digit c := by
  rw [digits, mem_oneOf_mul]
  constructor
  · rintro ⟨c, rest, rfl, hc, run⟩
    exact ⟨nofun, by simpa using ⟨hc, mem_run.mp run⟩⟩
  · rintro ⟨nonempty, all⟩
    cases text with
    | nil => exact absurd rfl nonempty
    | cons c rest =>
      exact ⟨c, rest, rfl, all c List.mem_cons_self, mem_run.mpr fun d mem => all d (List.mem_cons_of_mem _ mem)⟩

/-- Groups of digits are none, or a point, digits and further groups. -/
lemma mem_groups : text ∈ (fixed "." * digits)∗ ↔
    text = [] ∨ ∃ whole ∈ digits, ∃ more ∈ (fixed "." * digits)∗, text = '.' :: (whole ++ more) := by
  -- Unfolding the star once.
  conv_lhs => rw [← Language.one_add_self_mul_kstar_eq_kstar, Language.mem_add, Language.mem_one, mul_assoc,
    mem_fixed_mul]
  refine or_congr_right ?_
  constructor
  · rintro ⟨rest, mem, rfl⟩
    obtain ⟨whole, digits, more, groups, rfl⟩ := Language.mem_mul.mp mem
    exact ⟨whole, digits, more, groups, rfl⟩
  · rintro ⟨whole, digits, more, groups, rfl⟩
    exact ⟨whole ++ more, Language.mem_mul.mpr ⟨whole, digits, more, groups, rfl⟩, rfl⟩

/-- Behind digits, groups end the run of digits. -/
lemma runLength_groups {whole more : List Char} (all : whole ∈ digits) (groups : more ∈ (fixed "." * digits)∗)
    (some : more ≠ []) (rest : List Char) : runLength Char.isDigit (whole ++ more ++ rest) = whole.length := by
  rw [List.append_assoc, runLength_append fun c mem => isDigit_iff.mpr ((mem_digits.mp all).2 c mem)]
  rcases mem_groups.mp groups with rfl | ⟨_, -, _, -, rfl⟩
  · exact absurd rfl some
  · rfl

lemma finds_groups (text : List Char) : Finds (some (groupsLength text)) (fixed "." * digits)∗ text := by
  -- Along the groups that are found: there is none without digits, a first one or no point at all.
  fun_induction groupsLength text with
  | case1 rest stop =>
    refine .some _ (Language.nil_mem_kstar _) (List.nil_prefix) fun other known starts => ?_
    rcases mem_groups.mp known with rfl | ⟨whole, all, more, -, rfl⟩
    · exact Nat.le_refl _
    · -- Digits behind the point would be a run.
      obtain ⟨-, tail, rfl⟩ := List.cons_prefix_cons.mp starts
      rw [List.append_assoc, runLength_append fun c mem => isDigit_iff.mpr ((mem_digits.mp all).2 c mem)] at stop
      exact absurd (List.length_eq_zero_iff.mp (Nat.eq_zero_of_add_eq_zero_right stop)) (mem_digits.mp all).1
  | case2 rest length run ih =>
    obtain ⟨front, back, rfl, long, all, stop⟩ := exists_run Char.isDigit rest
    rw [Nat.succ_eq_add_one] at run
    rw [run] at long
    rw [long, List.drop_left] at ih ⊢
    obtain ⟨⟨lexeme, mem, begins, found⟩, longest⟩ := ih
    have more : ('.' :: (front ++ lexeme)).length = 2 + length + groupsLength back := by
      rw [List.length_cons, List.length_append, found, ← long]
      omega
    rw [← more]
    refine .some _ (mem_groups.mpr (.inr ⟨front, ?_, lexeme, mem, rfl⟩)) ?_ fun other known starts => ?_
    · refine mem_digits.mpr ⟨?_, fun c mem => isDigit_iff.mp (all c mem)⟩
      rintro rfl
      cases long
    · exact List.cons_prefix_cons.mpr ⟨rfl, (List.prefix_append_right_inj _).mpr begins⟩
    · rcases mem_groups.mp known with rfl | ⟨whole, all, rest, groups, rfl⟩
      · exact Nat.zero_le _
      · obtain ⟨-, tail, e⟩ := List.cons_prefix_cons.mp starts
        rw [List.length_cons, List.length_cons, List.length_append, List.length_append]
        refine Nat.succ_le_succ ?_
        by_cases none : rest = []
        · subst none
          rw [List.append_nil] at e
          rw [← e, runLength_append fun c mem => isDigit_iff.mpr ((mem_digits.mp all).2 c mem)] at run
          simp only [List.length_nil]
          omega
        · -- The point of the further groups ends the digits, so these are the whole run.
          have same := runLength_groups all groups none tail
          rw [e, run, long] at same
          rw [List.append_assoc] at e
          obtain ⟨rfl, rfl⟩ := List.append_inj e same.symm
          have := longest ⟨rest, groups, List.prefix_append .., rfl⟩
          omega
  | case3 text other =>
    refine .some _ (Language.nil_mem_kstar _) (List.nil_prefix) fun lexeme known starts => ?_
    rcases mem_groups.mp known with rfl | ⟨_, -, _, -, rfl⟩
    · exact Nat.le_refl _
    · obtain ⟨tail, rfl⟩ := starts
      exact absurd rfl (other _)

/-- There is no point in groups only if there are none. -/
lemma point_mem_groups (groups : text ∈ (fixed "." * digits)∗) : '.' ∈ text ↔ text ≠ [] := by
  rcases mem_groups.mp groups with rfl | ⟨_, -, _, -, rfl⟩ <;> simp

/-- There is no point among digits. -/
lemma point_notMem_digits (all : text ∈ digits) : '.' ∉ text :=
  fun mem => absurd ((mem_digits.mp all).2 _ mem) (by unfold Digit; decide)

/-- A decimal number is a number with groups. -/
lemma mem_decimal : text ∈ Kind.decimal.language ↔
    ∃ whole ∈ digits, ∃ more ∈ (fixed "." * digits)∗, more ≠ [] ∧ text = whole ++ more := by
  show text ∈ digits * (fixed "." * digits)∗ ∧ '.' ∈ text ↔ _
  rw [Language.mem_mul]
  constructor
  · rintro ⟨⟨whole, all, more, groups, rfl⟩, point⟩
    refine ⟨whole, all, more, groups, (point_mem_groups groups).mp ?_, rfl⟩
    exact (List.mem_append.mp point).resolve_left (point_notMem_digits all)
  · rintro ⟨whole, all, more, groups, some, rfl⟩
    exact ⟨⟨whole, all, more, groups, rfl⟩, List.mem_append_right _ ((point_mem_groups groups).mpr some)⟩

/-- An integer is digits. -/
lemma mem_integer : text ∈ Kind.integer.language ↔ text ∈ digits := by
  show text ∈ digits * (fixed "." * digits)∗ ∧ '.' ∉ text ↔ _
  rw [Language.mem_mul]
  constructor
  · rintro ⟨⟨whole, all, more, groups, rfl⟩, point⟩
    have none : more = [] := by
      by_contra some
      exact point (List.mem_append_right _ ((point_mem_groups groups).mpr some))
    rwa [none, List.append_nil]
  · intro all
    exact ⟨⟨text, all, [], Language.nil_mem_kstar _, List.append_nil text⟩, point_notMem_digits all⟩

lemma finds_integer (text : List Char) : Finds (Pattern.integer.longest? text) Kind.integer.language text := by
  rw [show Kind.integer.language = digits from Set.ext fun _ => mem_integer]
  exact finds_run? (fun _ => isDigit_iff) text

lemma longest?_decimal (text : List Char) :
    Pattern.decimal.longest? text = (run? Char.isDigit text).bind fun whole =>
      match groupsLength (text.drop whole) with
      | 0 => none
      | length => some (whole + length) := rfl

lemma finds_decimal (text : List Char) : Finds (Pattern.decimal.longest? text) Kind.decimal.language text := by
  have found : Finds (run? Char.isDigit text) digits text := finds_run? (fun _ => isDigit_iff) text
  rw [longest?_decimal]
  cases run : run? Char.isDigit text with
  | none =>
    refine .none fun lexeme mem begins => ?_
    obtain ⟨whole, all, more, -, -, rfl⟩ := mem_decimal.mp mem
    rw [run] at found
    exact found.absent all ((List.prefix_append ..).trans begins)
  | some length =>
    rw [run] at found
    obtain ⟨⟨whole, all, ⟨back, rfl⟩, rfl⟩, -⟩ := found
    have groups := finds_groups back
    -- All decimal numbers at the start of the text begin with the same digits.
    have behind : ∀ lexeme ∈ Kind.decimal.language, lexeme <+: whole ++ back →
        ∃ more ∈ (fixed "." * digits)∗, more ≠ [] ∧ more <+: back ∧ lexeme = whole ++ more := by
      rintro lexeme mem ⟨tail, e⟩
      obtain ⟨other, all, more, known, some, rfl⟩ := mem_decimal.mp mem
      have length : runLength Char.isDigit (whole ++ back) = whole.length := by
        unfold run? at run
        split at run
        · cases run
        · exact Option.some.inj run
      rw [← e, runLength_groups all known some tail] at length
      rw [List.append_assoc] at e
      obtain ⟨rfl, rest⟩ := List.append_inj e length
      exact ⟨more, known, some, ⟨tail, rest⟩, rfl⟩
    rw [Option.bind_some, List.drop_left]
    split
    · next zero =>
      refine .none fun lexeme mem begins => ?_
      obtain ⟨more, known, some, starts, rfl⟩ := behind lexeme mem begins
      rw [zero] at groups
      exact some (List.length_eq_zero_iff.mp (Nat.le_zero.mp (groups.longest known starts)))
    · next positive =>
      obtain ⟨⟨more, known, starts, length⟩, -⟩ := id groups
      have some : more ≠ [] := by
        rintro rfl
        exact positive length.symm
      rw [← length] at groups ⊢
      rw [← List.length_append]
      refine .some _ (mem_decimal.mpr ⟨whole, all, more, known, some, rfl⟩) ((List.prefix_append_right_inj _).mpr starts)
        fun other mem begins => ?_
      obtain ⟨more', known', -, starts', rfl⟩ := behind other mem begins
      simpa using groups.longest known' starts'

/-- Every pattern finds the longest beginning of a text in its language. -/
lemma finds_longest? (pattern : Pattern) (text : List Char) :
    Finds (pattern.longest? text) pattern.language text := by
  cases pattern with
  | exactly word => exact finds_exactly word text
  | lineEnd => exact finds_lineEnd text
  | blanks => exact finds_run? (fun _ => isBlank_iff) text
  | comment => exact finds_comment text
  | word => exact finds_word text
  | integer => exact finds_integer text
  | decimal => exact finds_decimal text
  | quoted => exact finds_quoted text

end ArrowScript.Token
