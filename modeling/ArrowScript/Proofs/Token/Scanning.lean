import ArrowScript.Token.Scan
import Mathlib.Tactic.Common

/-!
# Tokens of a text

What parsing and analysis rely on about the tokens of a text: the end of file stands at the end and
nowhere else (`endsOnce_scan`), all spans are of the file that was read (`file_of_mem_scan`), and the
tokens that can name a link are words (`isWord_of_mem_scan`).
-/

namespace ArrowScript.Token

/-- The tokens end with the only end of file among them. -/
def EndsOnce (tokens : List Token) : Prop :=
  ∃ body last, tokens = body ++ [last] ∧ last.kind = .endOfFile ∧
    ∀ token ∈ body, token.kind ≠ .endOfFile

/-- A letter or underscore, followed by letters, underscores and digits. -/
def IsWord : List Char → Prop
  | [] => False
  | c :: rest => isWordStart c ∧ ∀ d ∈ rest, isWordRest d

instance : (text : List Char) → Decidable (IsWord text)
  | [] => isFalse id
  | c :: rest =>
    decidable_of_iff (isWordStart c && rest.all isWordRest) (by simp [IsWord])

/-! ## Patterns -/

/-- What a run takes belongs to the class. -/
lemma take_runLength (class? : Char → Bool) (text : List Char) :
    ∀ c ∈ text.take (runLength class? text), class? c := by
  induction text with
  | nil => simp
  | cons c rest ih =>
    rw [runLength]
    split
    · next h =>
      intro d mem
      rw [List.take_succ_cons, List.mem_cons] at mem
      rcases mem with rfl | mem
      · exact h
      · exact ih d mem
    · simp

/-- The longer of two matches is one of them. -/
lemma longer_eq {first second : Option (Kind × Nat)} {found : Kind × Nat}
    (h : longer first second = some found) : first = some found ∨ second = some found := by
  unfold longer at h
  split at h
  · split at h
    · exact .inr h
    · exact .inl h
  · exact .inl h
  · exact .inr h

/-- The longest match is a match of one of the rules. -/
lemma rule_of_munch? {text : List Char} {kind : Kind} {length : Nat}
    (h : munch? text = some (kind, length)) :
    ∃ rule ∈ rules, rule.2 = kind ∧ rule.1.longest? text = some length := by
  have fold : ∀ (tried : List (Pattern × Kind)) (best : Option (Kind × Nat)),
      tried.foldl (fun best rule => longer best ((rule.1.longest? text).map (rule.2, ·))) best =
        some (kind, length) →
      best = some (kind, length) ∨
        ∃ rule ∈ tried, rule.2 = kind ∧ rule.1.longest? text = some length := by
    intro tried
    induction tried with
    | nil => exact fun best h => .inl h
    | cons rule rest ih =>
      intro best h
      rcases ih _ h with taken | ⟨other, mem, found⟩
      · have either : best = some (kind, length) ∨
            (rule.1.longest? text).map (rule.2, ·) = some (kind, length) := longer_eq taken
        rcases either with kept | found
        · exact .inl kept
        · obtain ⟨_, matched, e⟩ := Option.map_eq_some_iff.mp found
          obtain ⟨rfl, rfl⟩ := Prod.mk.inj e
          exact .inr ⟨rule, List.mem_cons_self, rfl, matched⟩
      · exact .inr ⟨other, List.mem_cons_of_mem _ mem, found⟩
  rcases fold rules none h with h | h
  · cases h
  · exact h

/-- No rule is for the end of file, and the rules for names match words. -/
lemma kind_of_mem_rules : ∀ rule ∈ rules, rule.2 ≠ .endOfFile ∧
    (rule.2 = .identifier ∨ rule.2 = .builtinType →
      rule.1 = .word ∨ ∃ text, rule.1 = .exactly text ∧ IsWord text) := by
  have spelled : ∀ kind ∈ Kind.all, ∀ text, kind.spelling? = some text →
      kind ≠ .endOfFile ∧ kind ≠ .identifier ∧ kind ≠ .builtinType := by
    intro kind _ text
    cases kind <;> simp [Kind.spelling?]
  intro rule mem
  simp only [rules, List.mem_append, List.mem_filterMap, List.mem_map] at mem
  rcases mem with ((⟨kind, known, spelling⟩ | ⟨name, known, rfl⟩) | ⟨name, _, rfl⟩) | mem
  · obtain ⟨text, single, rfl⟩ := Option.map_eq_some_iff.mp spelling
    obtain ⟨notEnd, notName, notType⟩ := spelled kind known text single
    exact ⟨notEnd, fun h => absurd h (by simp [notName, notType])⟩
  · refine ⟨by simp, fun _ => .inr ⟨_, rfl, ?_⟩⟩
    simp only [builtinTypeNames, List.mem_cons, List.not_mem_nil, or_false] at known
    rcases known with rfl | rfl | rfl | rfl | rfl <;> decide
  · exact ⟨by simp, fun h => absurd h (by simp)⟩
  · simp only [List.mem_cons, List.not_mem_nil, or_false] at mem
    rcases mem with rfl | rfl | rfl | rfl | rfl | rfl | rfl <;> exact ⟨by simp, by simp⟩

/-- Lexemes are not the end of file, and those that are names are words. -/
lemma kind_of_mem_lexemes {text : List Char} {lexeme : Lexeme} {kind : Kind}
    (mem : lexeme ∈ lexemes text) (h : lexeme.kind? = some kind) :
    kind ≠ .endOfFile ∧ (kind = .identifier ∨ kind = .builtinType → IsWord lexeme.text) := by
  fun_induction lexemes text with
  | case1 => cases mem
  | case2 c rest found length match? ih =>
    rcases List.mem_cons.mp mem with rfl | mem
    · obtain rfl : found = kind := by simpa using h
      obtain ⟨rule, known, rfl, matched⟩ := rule_of_munch? match?
      obtain ⟨notEnd, named⟩ := kind_of_mem_rules rule known
      refine ⟨notEnd, fun name => ?_⟩
      -- A word is matched by the pattern for names or is a fixed text that reads like one.
      rcases named name with e | ⟨text, e, word⟩
      · rw [e, Pattern.longest?] at matched
        split at matched
        · next start =>
          obtain rfl := Option.some.inj matched
          refine ⟨start, ?_⟩
          rw [Nat.add_sub_cancel_left]
          exact take_runLength _ _
        · cases matched
      · rw [e, Pattern.longest?] at matched
        split at matched
        · next before =>
          obtain rfl := Option.some.inj matched
          obtain ⟨more, split⟩ := List.isPrefixOf_iff_prefix.mp before
          cases text with
          | nil => cases word
          | cons d others =>
            obtain ⟨rfl, rfl⟩ := List.cons.inj split
            simpa using word
        · cases matched
    · exact ih mem
  | case3 c rest match? ih =>
    rcases List.mem_cons.mp mem with rfl | mem
    · cases h
    · exact ih mem

/-! ## Scanned texts -/

/-- What is placed are the kinds and texts of the lexemes, then the end of file. -/
lemma scanFrom_tokens (file : String) (place : Place) (cut : List Lexeme) :
    ∃ body last, (scanFrom file place cut).tokens = body ++ [last] ∧
      last.kind = .endOfFile ∧ last.span.file = file ∧ last.span.text = none ∧
      ∀ token ∈ body, token.span.file = file ∧
        ∃ lexeme ∈ cut, lexeme.kind? = some token.kind ∧
          token.span.content = String.ofList lexeme.text := by
  induction cut generalizing place with
  | nil => exact ⟨[], place.endOfFile file, rfl, rfl, rfl, rfl, by simp⟩
  | cons lexeme rest ih =>
    obtain ⟨body, last, tokens, kind, same, empty, found⟩ := ih (place.after lexeme)
    refine ⟨(lexeme.kind?.map (⟨·, place.span file lexeme.text⟩)).toList ++ body, last, ?_, kind,
      same, empty, ?_⟩
    · rw [scanFrom, tokens, List.append_assoc]
    · intro token mem
      rcases List.mem_append.mp mem with mem | mem
      · obtain ⟨_, known, rfl⟩ := Option.map_eq_some_iff.mp (Option.mem_toList.mp mem)
        exact ⟨rfl, lexeme, List.mem_cons_self, known, rfl⟩
      · obtain ⟨same, other, mem, known⟩ := found token mem
        exact ⟨same, other, List.mem_cons_of_mem _ mem, known⟩

variable {file source : String} {token : Token}

/-- The tokens of a text end with the only end of file among them. -/
lemma endsOnce_scan (file source : String) : EndsOnce (scan file source).tokens := by
  obtain ⟨body, last, tokens, kind, -, -, found⟩ := scanFrom_tokens file .start (lexemes source.toList)
  refine ⟨body, last, tokens, kind, fun token mem => ?_⟩
  obtain ⟨-, lexeme, mem, known, -⟩ := found token mem
  exact (kind_of_mem_lexemes mem known).1

/-- The spans of the tokens of a text are of its file. -/
lemma file_of_mem_scan (mem : token ∈ (scan file source).tokens) : token.span.file = file := by
  obtain ⟨body, last, tokens, -, same, -, found⟩ := scanFrom_tokens file .start (lexemes source.toList)
  rw [scan, tokens, List.mem_append, List.mem_singleton] at mem
  rcases mem with mem | rfl
  · exact (found token mem).1
  · exact same

/-- The tokens of a text that are names or built-in types are words. -/
lemma isWord_of_mem_scan (mem : token ∈ (scan file source).tokens)
    (name : token.kind = .identifier ∨ token.kind = .builtinType) :
    IsWord token.span.content.toList := by
  obtain ⟨body, last, tokens, kind, -, -, found⟩ := scanFrom_tokens file .start (lexemes source.toList)
  rw [scan, tokens, List.mem_append, List.mem_singleton] at mem
  rcases mem with mem | rfl
  · obtain ⟨-, lexeme, mem, known, text⟩ := found token mem
    rw [text, String.toList_ofList]
    exact (kind_of_mem_lexemes mem known).2 name
  · rw [kind] at name
    exact absurd name (by decide)

end ArrowScript.Token
