import ArrowScript.Proofs.Token.Languages
import ArrowScript.Syntax.TypeRef

/-!
# Mangled names

Types and functions are kept under their names and, behind an apostrophe, the number of their type
parameters. A name that is a word is found under such a key only where that name was declared with that
number (`mangle_eq_iff`), since nothing in a text that starts like a word holds an apostrophe.
-/

namespace ArrowScript
open Token

/-- What stands between a name and the number of type parameters. -/
def apostrophe : Char :=
  '\x27'

/-- A text that holds no apostrophe if it starts like a word. -/
def Unmangled : List Char → Prop
  | [] => True
  | c :: rest => isWordStart c → apostrophe ∉ rest

/-- Words start with a character that is no apostrophe. -/
lemma ne_apostrophe_of_isWordStart {c : Char} (h : isWordStart c) : c ≠ apostrophe := by
  rintro rfl
  exact absurd h (by decide)

/-- Words go on with characters that are no apostrophes. -/
lemma ne_apostrophe_of_isWordRest {c : Char} (h : isWordRest c) : c ≠ apostrophe := by
  rintro rfl
  exact absurd h (by decide)

/-- Words hold no apostrophe. -/
lemma apostrophe_notMem_of_isWord {text : List Char} (h : IsWord text) : apostrophe ∉ text := by
  cases text with
  | nil => simp
  | cons c rest =>
    obtain ⟨start, others⟩ := h
    intro mem
    rcases List.mem_cons.mp mem with e | mem
    · exact ne_apostrophe_of_isWordStart start e.symm
    · exact ne_apostrophe_of_isWordRest (others _ mem) rfl

/-- Numbers hold no apostrophe. -/
lemma apostrophe_notMem_toDigits (n : Nat) : apostrophe ∉ Nat.toDigits 10 n := by
  intro mem
  exact absurd (Nat.isDigit_of_mem_toDigits (by decide) (by decide) mem) (by decide)

/-- The characters of a key. -/
lemma toList_mangle (name : String) (arity : Nat) :
    (mangle name arity).toList =
      if arity = 0 then name.toList else name.toList ++ apostrophe :: Nat.toDigits 10 arity := by
  unfold mangle
  split
  · rfl
  · simp [apostrophe, toString, Nat.toList_repr]

/-- A word with a number of type parameters is found under the key of that name and number only. -/
lemma mangle_eq_iff {name other : String} {arity count : Nat} (word : IsWord name.toList)
    (plain : Unmangled other.toList) :
    mangle name arity = mangle other count ↔ name = other ∧ arity = count := by
  constructor
  · intro h
    have h := congrArg String.toList h
    rw [toList_mangle, toList_mangle] at h
    have clear := apostrophe_notMem_of_isWord word
    split at h
    · next zero =>
      split at h
      · next zero' => exact ⟨String.toList_injective h, zero.trans zero'.symm⟩
      · rw [h] at clear
        simp at clear
    · split at h
      · -- the other name starts like the word, so it holds no apostrophe
        cases e : name.toList with
        | nil =>
          rw [e] at word
          cases word
        | cons c rest =>
          rw [e] at word h
          rw [← h] at plain
          exact absurd (by simp) (plain word.1)
      · obtain ⟨same, -, digits⟩ :=
          (List.append_cons_inj_of_notMem clear (apostrophe_notMem_toDigits arity)).mp h
        refine ⟨String.toList_injective same, ?_⟩
        have number := congrArg (Nat.ofDigitChars 10 · 0) digits
        simpa using number
  · rintro ⟨rfl, rfl⟩
    rfl

/-! ## Tokens of a text -/

namespace Token

/-- A run starts with a character of its class. -/
lemma head_of_run? {class? : Char → Bool} {c : Char} {rest : List Char} {length : Nat}
    (h : run? class? (c :: rest) = some length) : class? c := by
  by_contra none
  simp [run?, runLength, none] at h

/-- Words do not start with digits. -/
lemma not_isWordStart_of_isDigit {c : Char} (h : c.isDigit) : isWordStart c = false := by
  rw [isDigit_iff, Digit] at h
  rw [Bool.eq_false_iff, ne_eq, isWordStart_iff, Letter]
  rintro (⟨lower, -⟩ | ⟨upper, -⟩ | rfl)
  · exact absurd (Char.le_trans lower h.2) (by decide)
  · exact absurd (Char.le_trans upper h.2) (by decide)
  · exact absurd h.2 (by decide)

/-- What a pattern matches at the start of a text is unmangled, if the fixed texts are. -/
lemma unmangled_of_longest? {pattern : Pattern} {c : Char} {rest : List Char} {length : Nat}
    (fixed : ∀ text, pattern = .exactly text → apostrophe ∉ text)
    (h : pattern.longest? (c :: rest) = some length) :
    Unmangled (c :: rest.take (length - 1)) := by
  intro start
  -- The first character begins a word, which rules out all classes but that of words.
  have clash : ∀ {p : Prop}, isWordStart c = false → p := by
    intro p no
    rw [no] at start
    cases start
  cases pattern with
  | exactly text =>
    rw [Pattern.longest?] at h
    split at h
    · next before =>
      obtain rfl := Option.some.inj h
      obtain ⟨more, split⟩ := List.isPrefixOf_iff_prefix.mp before
      cases text with
      | nil => simp
      | cons d others =>
        obtain ⟨rfl, rfl⟩ := List.cons.inj split
        have clear := fixed _ rfl
        simp at clear ⊢
        exact clear.2
    · cases h
  | word =>
    rw [Pattern.longest?, if_pos start] at h
    obtain rfl := Option.some.inj h
    rw [Nat.add_sub_cancel_left]
    intro mem
    exact ne_apostrophe_of_isWordRest (take_runLength _ _ _ mem) rfl
  | lineEnd =>
    refine clash ?_
    have lineEnd : isLineEnd c := by
      unfold Pattern.longest? at h
      split at h <;> simp_all [isLineEnd]
    simp only [isLineEnd, Bool.or_eq_true, decide_eq_true_eq] at lineEnd
    rcases lineEnd with rfl | rfl <;> rfl
  | blanks =>
    have blank := head_of_run? h
    simp only [isBlank, Bool.or_eq_true, decide_eq_true_eq] at blank
    rcases blank with (rfl | rfl) | rfl <;> exact clash rfl
  | comment =>
    have slash : c = '/' := by
      unfold Pattern.longest? at h
      split at h <;> simp_all
    exact clash (slash ▸ rfl)
  | integer => exact clash (not_isWordStart_of_isDigit (head_of_run? h))
  | decimal =>
    obtain ⟨whole, h, -⟩ := Option.bind_eq_some_iff.mp h
    exact clash (not_isWordStart_of_isDigit (head_of_run? h))
  | quoted =>
    have quote : c = '"' := by
      unfold Pattern.longest? at h
      split at h <;> simp_all
    exact clash (quote ▸ rfl)

/-- The fixed texts of the rules hold no apostrophe. -/
lemma apostrophe_notMem_of_mem_rules :
    ∀ rule ∈ rules, ∀ text, rule.1 = .exactly text → apostrophe ∉ text := by
  have spelled : ∀ kind ∈ Kind.all, ∀ text, kind.spelling? = some text →
      apostrophe ∉ text.toList := by
    decide
  intro rule mem text e
  simp only [rules, List.mem_append, List.mem_filterMap, List.mem_map] at mem
  rcases mem with ((⟨kind, known, spelling⟩ | ⟨name, known, rfl⟩) | ⟨name, known, rfl⟩) | mem
  · obtain ⟨fixed, single, rfl⟩ := Option.map_eq_some_iff.mp spelling
    obtain rfl := Pattern.exactly.inj e
    exact spelled kind known fixed single
  · obtain rfl := Pattern.exactly.inj e
    clear e
    revert known name
    decide
  · obtain rfl := Pattern.exactly.inj e
    clear e
    revert known name
    decide
  · simp only [List.mem_cons, List.not_mem_nil, or_false] at mem
    rcases mem with rfl | rfl | rfl | rfl | rfl | rfl | rfl <;> cases e

/-- Lexemes with a kind are unmangled. -/
lemma unmangled_of_mem_lexemes {text : List Char} {lexeme : Lexeme} {kind : Kind}
    (mem : lexeme ∈ lexemes text) (h : lexeme.kind? = some kind) : Unmangled lexeme.text := by
  fun_induction lexemes text with
  | case1 => cases mem
  | case2 c rest found length match? ih =>
    rcases List.mem_cons.mp mem with rfl | mem
    · obtain ⟨rule, known, -, matched⟩ := rule_of_munch? match?
      exact unmangled_of_longest? (apostrophe_notMem_of_mem_rules rule known) matched
    · exact ih mem
  | case3 c rest match? ih =>
    rcases List.mem_cons.mp mem with rfl | mem
    · cases h
    · exact ih mem

/-- The contents of the tokens of a text are unmangled. -/
lemma unmangled_of_mem_scan {file source : String} {token : Token}
    (mem : token ∈ (scan file source).tokens) : Unmangled token.span.content.toList := by
  obtain ⟨body, last, tokens, -, -, empty, found⟩ :=
    scanFrom_tokens file .start (lexemes source.toList)
  rw [scan, tokens, List.mem_append, List.mem_singleton] at mem
  rcases mem with mem | rfl
  · obtain ⟨-, lexeme, mem, known, text⟩ := found token mem
    rw [text, String.toList_ofList]
    exact unmangled_of_mem_lexemes mem known
  · rw [Span.content, empty]
    trivial

end Token

end ArrowScript
