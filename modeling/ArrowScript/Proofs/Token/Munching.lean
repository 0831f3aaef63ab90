import ArrowScript.Proofs.Token.Languages

/-!
# Maximal munch

A token is the longest beginning of what is left of a text that is a lexeme of any kind. Several kinds have the
same lexeme only where a word is also a name, and then it is not a name. The languages of the kinds alone thus
say how a text is cut, and a character stands alone just where no lexeme begins.
-/

namespace ArrowScript.Token

/-- The only text that a pattern for a fixed text matches. -/
def Pattern.fixedText? : Pattern → Option (List Char)
  | exactly text => some text
  | _ => none

variable {text lexeme rest : List Char} {kind other : Kind} {pattern : Pattern} {rule : Pattern × Kind}

/-! ## Rules -/

/-- The language of a pattern holds what the pattern finds all of. -/
lemma mem_language_iff : text ∈ pattern.language ↔ pattern.longest? text = some text.length := by
  have found := finds_longest? pattern text
  constructor
  · intro mem
    cases e : pattern.longest? text with
    | none =>
      rw [e] at found
      exact absurd (List.prefix_refl text) (found.absent mem)
    | some length =>
      rw [e] at found
      obtain ⟨⟨lexeme, -, begins, rfl⟩, -⟩ := id found
      rw [Nat.le_antisymm begins.length_le (found.longest mem (List.prefix_refl text))]
  · intro e
    rw [e] at found
    obtain ⟨⟨lexeme, mem, begins, length⟩, -⟩ := found
    rwa [← begins.eq_of_length length]

/-- The rules are those of fixed spellings, of fixed words with a kind in common, and of classes of lexemes. -/
lemma mem_rules : rule ∈ rules ↔
    (∃ kind text, kind.spelling? = some text ∧ rule = (.exactly text.toList, kind)) ∨
      (∃ name ∈ builtinTypeNames, rule = (.exactly name.toList, .builtinType)) ∨
      (∃ name ∈ booleanNames, rule = (.exactly name.toList, .boolean)) ∨
      rule ∈ [(Pattern.lineEnd, Kind.endOfLine), (.blanks, .whitespace), (.comment, .comment), (.word, .identifier),
        (.integer, .integer), (.decimal, .decimal), (.quoted, .string)] := by
  have known (kind : Kind) : kind ∈ Kind.all := by cases kind <;> decide
  simp only [rules, List.mem_append, List.mem_filterMap, List.mem_map, Option.map_eq_some_iff, known, true_and,
    or_assoc, eq_comm (a := rule)]

/-- A kind with a fixed spelling has no other lexeme. -/
lemma language_of_spelling {word : String} (h : kind.spelling? = some word) : kind.language = fixed word := by
  cases kind <;> cases h <;> rfl

/-- The lexemes that built-in types have in common with no other kind. -/
lemma mem_builtinType : text ∈ Kind.builtinType.language ↔ ∃ name ∈ builtinTypeNames, text = name.toList := by
  show text ∈ fixed "int" + fixed "decimal" + fixed "bool" + fixed "str" + fixed "byte" ↔ _
  simp [Language.mem_add, mem_fixed, builtinTypeNames, or_assoc]

/-- The truth values. -/
lemma mem_boolean : text ∈ Kind.boolean.language ↔ ∃ name ∈ booleanNames, text = name.toList := by
  show text ∈ fixed "true" + fixed "false" ↔ _
  simp [Language.mem_add, mem_fixed, booleanNames]

/-- The lexemes of a kind are what the patterns of its rules match. -/
lemma mem_language : text ∈ kind.language ↔ ∃ rule ∈ rules, rule.2 = kind ∧ text ∈ rule.1.language := by
  constructor
  · intro mem
    cases spelling : kind.spelling? with
    | some word =>
      rw [language_of_spelling spelling] at mem
      exact ⟨(.exactly word.toList, kind), mem_rules.mpr (.inl ⟨kind, word, spelling, rfl⟩), rfl, mem⟩
    | none =>
      cases kind with
      | endOfFile => cases mem
      | builtinType =>
        obtain ⟨name, known, rfl⟩ := mem_builtinType.mp mem
        exact ⟨_, mem_rules.mpr (.inr (.inl ⟨name, known, rfl⟩)), rfl, rfl⟩
      | boolean =>
        obtain ⟨name, known, rfl⟩ := mem_boolean.mp mem
        exact ⟨_, mem_rules.mpr (.inr (.inr (.inl ⟨name, known, rfl⟩))), rfl, rfl⟩
      | endOfLine => exact ⟨(.lineEnd, .endOfLine), mem_rules.mpr (by simp), rfl, mem⟩
      | whitespace => exact ⟨(.blanks, .whitespace), mem_rules.mpr (by simp), rfl, mem⟩
      | comment => exact ⟨(.comment, .comment), mem_rules.mpr (by simp), rfl, mem⟩
      | identifier => exact ⟨(.word, .identifier), mem_rules.mpr (by simp), rfl, mem⟩
      | integer => exact ⟨(.integer, .integer), mem_rules.mpr (by simp), rfl, mem⟩
      | decimal => exact ⟨(.decimal, .decimal), mem_rules.mpr (by simp), rfl, mem⟩
      | string => exact ⟨(.quoted, .string), mem_rules.mpr (by simp), rfl, mem⟩
      | _ => cases spelling
  · rintro ⟨rule, known, rfl, mem⟩
    rcases mem_rules.mp known with ⟨kind, word, spelling, rfl⟩ | ⟨name, named, rfl⟩ | ⟨name, named, rfl⟩ | known
    · rw [language_of_spelling spelling]
      exact mem
    · exact mem_builtinType.mpr ⟨name, named, mem⟩
    · exact mem_boolean.mpr ⟨name, named, mem⟩
    · simp only [List.mem_cons, List.not_mem_nil, or_false] at known
      rcases known with rfl | rfl | rfl | rfl | rfl | rfl | rfl <;> exact mem

/-- No lexeme is empty. -/
lemma nil_notMem_language : [] ∉ kind.language := by
  intro mem
  obtain ⟨rule, known, -, mem⟩ := mem_language.mp mem
  have nothing : ∀ rule ∈ rules, rule.1.longest? [] = none := by decide
  rw [mem_language_iff, nothing rule known] at mem
  cases mem

/-! ## Kinds with a lexeme in common -/

/-- A fixed text is a lexeme of one kind, and possibly a name. -/
lemma kind_of_exactly (known : (.exactly text, kind) ∈ rules) (mem : text ∈ other.language) :
    other = kind ∨ other = .identifier := by
  obtain ⟨rule, there, rfl, matched⟩ := mem_language.mp mem
  -- Which rules match the text of a fixed rule can be computed, as there are finitely many.
  have table : ∀ rule ∈ rules, ∀ text ∈ rule.1.fixedText?, ∀ other ∈ rules,
      other.1.longest? text = some text.length → other.2 = rule.2 ∨ other.2 = .identifier := by
    decide +kernel
  exact table _ known text rfl rule there (mem_language_iff.mp matched)

/-- The kinds that are given by a class of lexemes. -/
def Kind.classes : List Kind :=
  [.endOfLine, .whitespace, .comment, .identifier, .integer, .decimal, .string]

/-- The code points that the lexemes of a class can begin with. -/
def Kind.Leads : Kind → Nat → Prop
  | .endOfLine, code => code = 13 ∨ code = 10
  | .whitespace, code => code = 32 ∨ code = 9 ∨ code = 12
  | .comment, code => code = 47
  | .identifier, code => 97 ≤ code ∧ code ≤ 122 ∨ 65 ≤ code ∧ code ≤ 90 ∨ code = 95
  | .integer, code | .decimal, code => 48 ≤ code ∧ code ≤ 57
  | .string, code => code = 34
  | _, _ => False

lemma leads_of_letter {c : Char} (h : Letter c) : Kind.identifier.Leads c.toNat := by
  rcases h with ⟨low, high⟩ | ⟨low, high⟩ | rfl
  · exact .inl ⟨low, high⟩
  · exact .inr (.inl ⟨low, high⟩)
  · exact .inr (.inr rfl)

lemma leads_of_digit {c : Char} (h : Digit c) : Kind.integer.Leads c.toNat :=
  ⟨h.1, h.2⟩

/-- A lexeme of a class begins with a character of it. -/
lemma exists_lead (known : kind ∈ Kind.classes) (mem : text ∈ kind.language) :
    ∃ c rest, text = c :: rest ∧ kind.Leads c.toNat := by
  simp only [Kind.classes, List.mem_cons, List.not_mem_nil, or_false] at known
  rcases known with rfl | rfl | rfl | rfl | rfl | rfl | rfl
  · rcases mem_lineEnd.mp mem with rfl | rfl | rfl
    · exact ⟨_, _, rfl, .inl rfl⟩
    · exact ⟨_, _, rfl, .inr rfl⟩
    · exact ⟨_, _, rfl, .inl rfl⟩
  · obtain ⟨c, rest, rfl, blank, -⟩ := mem_oneOf_mul.mp mem
    refine ⟨c, rest, rfl, ?_⟩
    simp only [List.mem_cons, List.not_mem_nil, or_false] at blank
    rcases blank with rfl | rfl | rfl
    · exact .inl rfl
    · exact .inr (.inl rfl)
    · exact .inr (.inr rfl)
  · obtain ⟨rest, rfl, -⟩ := mem_comment.mp mem
    exact ⟨_, _, rfl, rfl⟩
  · obtain ⟨c, rest, rfl, letter, -⟩ := mem_oneOf_mul.mp mem
    exact ⟨c, rest, rfl, leads_of_letter letter⟩
  · obtain ⟨c, rest, rfl, digit, -⟩ := mem_oneOf_mul.mp (mem_integer.mp mem)
    exact ⟨c, rest, rfl, leads_of_digit digit⟩
  · obtain ⟨_, all, more, -, -, rfl⟩ := mem_decimal.mp mem
    obtain ⟨c, rest, rfl, digit, -⟩ := mem_oneOf_mul.mp all
    exact ⟨c, rest ++ more, rfl, leads_of_digit digit⟩
  · obtain ⟨_, -, rfl | rfl⟩ := mem_quoted.mp mem <;> exact ⟨_, _, rfl, rfl⟩

/-- Classes have no lexemes in common. -/
lemma kind_of_classes (known : kind ∈ Kind.classes) (known' : other ∈ Kind.classes) (mem : text ∈ kind.language)
    (mem' : text ∈ other.language) : kind = other := by
  have points : text ∈ Kind.integer.language → text ∈ Kind.decimal.language → False := fun whole point => whole.2 point.2
  -- Apart from numbers, the first character tells the classes apart.
  obtain ⟨c, rest, rfl, lead⟩ := exists_lead known mem
  obtain ⟨_, _, e, lead'⟩ := exists_lead known' mem'
  obtain ⟨rfl, -⟩ := List.cons.inj e
  simp only [Kind.classes, List.mem_cons, List.not_mem_nil, or_false] at known known'
  rcases known with rfl | rfl | rfl | rfl | rfl | rfl | rfl <;>
    rcases known' with rfl | rfl | rfl | rfl | rfl | rfl | rfl <;>
    first
    | rfl
    | exact (points mem mem').elim
    | exact (points mem' mem).elim
    | (simp only [Kind.Leads] at lead lead'; omega)

/-- The rules of a class are those that are not for fixed texts. -/
lemma class_or_exactly (known : rule ∈ rules) :
    (∃ word, rule.1 = .exactly word) ∨ rule.2 ∈ Kind.classes := by
  rcases mem_rules.mp known with ⟨kind, word, -, rfl⟩ | ⟨name, -, rfl⟩ | ⟨name, -, rfl⟩ | known
  · exact .inl ⟨_, rfl⟩
  · exact .inl ⟨_, rfl⟩
  · exact .inl ⟨_, rfl⟩
  · simp only [List.mem_cons, List.not_mem_nil, or_false] at known
    rcases known with rfl | rfl | rfl | rfl | rfl | rfl | rfl <;> exact .inr (by simp [Kind.classes])

/-- Where two kinds have a lexeme in common, one of them is that of names. -/
lemma kind_of_common (mem : text ∈ kind.language) (mem' : text ∈ other.language) :
    kind = other ∨ kind = .identifier ∨ other = .identifier := by
  obtain ⟨⟨pattern, _⟩, known, rfl, matched⟩ := mem_language.mp mem
  obtain ⟨⟨pattern', _⟩, known', rfl, matched'⟩ := mem_language.mp mem'
  rcases class_or_exactly known with ⟨word, rfl⟩ | known
  · obtain rfl : text = word := matched
    rcases kind_of_exactly known mem' with same | name
    · exact .inl same.symm
    · exact .inr (.inr name)
  · rcases class_or_exactly known' with ⟨word, rfl⟩ | known'
    · obtain rfl : text = word := matched'
      rcases kind_of_exactly known' mem with same | name
      · exact .inl same
      · exact .inr (.inl name)
    · exact .inl (kind_of_classes known known' mem mem')

/-! ## The longest match -/

/-- A lexeme at the start of a text is the longest of all kinds, and a name only if it is of no other kind. -/
structure Munches (kind : Kind) (lexeme rest : List Char) : Prop where
  mem : lexeme ∈ kind.language
  longest : ∀ other : Kind, ∀ text ∈ other.language, text <+: lexeme ++ rest → text.length ≤ lexeme.length
  named : ∀ other : Kind, lexeme ∈ other.language → other ≠ kind → other = .identifier

/-- No lexeme begins at the start of a text. -/
def Strays (text : List Char) : Prop :=
  ∀ kind, ∀ lexeme ∈ Kind.language kind, ¬ lexeme <+: text

/-- A rule is the first among those that find the most at the start of a text. -/
structure FirstLongest (text : List Char) (tried : List (Pattern × Kind)) (rule : Pattern × Kind) (length : Nat) :
    Prop where
  found : rule.1.longest? text = some length
  split : ∃ earlier later, tried = earlier ++ rule :: later ∧
    (∀ other ∈ earlier, ∀ less, other.1.longest? text = some less → less < length) ∧
    ∀ other ∈ later, ∀ less, other.1.longest? text = some less → less ≤ length

namespace FirstLongest

variable {tried : List (Pattern × Kind)} {length : Nat}

/-- What is found is the most that any rule finds. -/
lemma most (h : FirstLongest text tried rule length) {other : Pattern × Kind} (mem : other ∈ tried) {less : Nat}
    (found : other.1.longest? text = some less) : less ≤ length := by
  obtain ⟨earlier, later, rfl, before, after⟩ := h.split
  rcases List.mem_append.mp mem with mem | mem
  · exact Nat.le_of_lt (before other mem less found)
  · rcases List.mem_cons.mp mem with rfl | mem
    · exact Nat.le_of_eq (Option.some.inj (found.symm.trans h.found))
    · exact after other mem less found

/-- A further rule that finds no more. -/
lemma keep (h : FirstLongest text tried rule length) {other : Pattern × Kind}
    (less : ∀ less, other.1.longest? text = some less → less ≤ length) :
    FirstLongest text (tried ++ [other]) rule length := by
  obtain ⟨found, earlier, later, rfl, before, after⟩ := h
  refine ⟨found, earlier, later ++ [other], by simp, before, fun rule mem => ?_⟩
  rcases List.mem_append.mp mem with mem | mem
  · exact after rule mem
  · rwa [List.mem_singleton.mp mem]

/-- A further rule that finds more than all before. -/
lemma last (found : rule.1.longest? text = some length)
    (less : ∀ other ∈ tried, ∀ less, other.1.longest? text = some less → less < length) :
    FirstLongest text (tried ++ [rule]) rule length :=
  ⟨found, tried, [], rfl, less, nofun⟩

end FirstLongest

/-- Trying rules one after the other keeps the first that finds the most. -/
lemma firstLongest_of_foldl (text : List Char) (tried : List (Pattern × Kind)) :
    match tried.foldl (fun best rule => longer best ((rule.1.longest? text).map (rule.2, ·))) none with
    | some (kind, length) => ∃ pattern, FirstLongest text tried (pattern, kind) length
    | none => ∀ rule ∈ tried, rule.1.longest? text = none := by
  -- From the last rule on, as each rule is compared with the best of all before.
  induction tried using List.reverseRecOn with
  | nil => exact nofun
  | append_singleton tried rule ih =>
    rw [List.foldl_append, List.foldl_cons, List.foldl_nil]
    split at ih
    · next kind length best =>
      obtain ⟨pattern, first⟩ := ih
      rw [best]
      cases e : rule.1.longest? text with
      | none => exact ⟨pattern, first.keep (by simp [e])⟩
      | some more =>
        rw [Option.map_some, longer]
        by_cases less : length < more
        · rw [if_pos less]
          exact ⟨rule.1, .last e fun other mem small found => Nat.lt_of_le_of_lt (first.most mem found) less⟩
        · rw [if_neg less]
          refine ⟨pattern, first.keep fun small found => ?_⟩
          rw [← Option.some.inj (e.symm.trans found)]
          exact Nat.le_of_not_lt less
    · next best =>
      rw [best]
      cases e : rule.1.longest? text with
      | none =>
        intro other mem
        rcases List.mem_append.mp mem with mem | mem
        · exact ih other mem
        · rwa [List.mem_singleton.mp mem]
      | some more =>
        refine ⟨rule.1, .last e fun other mem less found => ?_⟩
        rw [ih other mem] at found
        cases found

/-- Only rules of classes other than names stand behind the one for names. -/
lemma rules_behind_names : rules.Pairwise fun first second =>
    first.2 = .identifier → second.2 ∈ Kind.classes ∧ second.2 ≠ .identifier := by
  decide +kernel

/-- Munching takes the longest lexeme at the start of a text, and a name only if it is of no other kind. -/
lemma munches_of_munch? {length : Nat} (h : munch? text = some (kind, length)) :
    ∃ lexeme rest, text = lexeme ++ rest ∧ lexeme.length = length ∧ Munches kind lexeme rest := by
  have first := firstLongest_of_foldl text rules
  unfold munch? at h
  rw [h] at first
  obtain ⟨pattern, first⟩ := first
  have known : (pattern, kind) ∈ rules := by
    obtain ⟨_, _, e, -⟩ := first.split
    simp [e]
  have here := finds_longest? pattern text
  rw [first.found] at here
  obtain ⟨⟨lexeme, mem, ⟨rest, rfl⟩, rfl⟩, -⟩ := here
  -- What a rule matches is no longer than what it finds, and that is no longer than what is found first.
  have longest (other : Kind) (text : List Char) (mem : text ∈ other.language) (begins : text <+: lexeme ++ rest) :
      ∃ rule ∈ rules, rule.2 = other ∧ text ∈ rule.1.language ∧ ∃ more, rule.1.longest? (lexeme ++ rest) = some more ∧
        text.length ≤ more ∧ more ≤ lexeme.length := by
    obtain ⟨rule, there, rfl, matched⟩ := mem_language.mp mem
    have found := finds_longest? rule.1 (lexeme ++ rest)
    cases e : rule.1.longest? (lexeme ++ rest) with
    | none =>
      rw [e] at found
      exact absurd begins (found.absent matched)
    | some more =>
      rw [e] at found
      exact ⟨rule, there, rfl, matched, more, e, found.longest matched begins, first.most there e⟩
  refine ⟨lexeme, rest, rfl, rfl, mem_language.mpr ⟨_, known, rfl, mem⟩, ?_, ?_⟩
  · intro other text mem begins
    obtain ⟨_, -, -, -, more, -, le, le'⟩ := longest other text mem begins
    exact Nat.le_trans le le'
  · intro other common ne
    obtain ⟨rule, there, rfl, matched, more, found, le, le'⟩ := longest other lexeme common (List.prefix_append ..)
    obtain rfl := Nat.le_antisymm le' le
    rcases kind_of_common common (mem_language.mpr ⟨_, known, rfl, mem⟩) with same | name | name
    · exact absurd same ne
    · exact name
    · -- A name that is first found by its rule is nothing else: other classes alone stand behind that rule.
      obtain ⟨earlier, later, e, before, -⟩ := first.split
      have behind := rules_behind_names
      rw [e, List.pairwise_append] at behind
      rw [e] at there
      rcases List.mem_append.mp there with there | there
      · exact absurd (before rule there _ found) (Nat.lt_irrefl _)
      · rcases List.mem_cons.mp there with rfl | there
        · exact absurd rfl ne
        · obtain ⟨known, different⟩ := (List.pairwise_cons.mp behind.2.1).1 rule there name
          have names : kind ∈ Kind.classes := by rw [show kind = .identifier from name]; decide
          exact absurd (kind_of_classes known names common (mem_language.mpr ⟨_, ‹_›, rfl, mem⟩)) ne

/-- Where munching takes nothing, no lexeme begins. -/
lemma strays_of_munch? (h : munch? text = none) : Strays text := by
  intro kind lexeme mem begins
  obtain ⟨rule, known, -, matched⟩ := mem_language.mp mem
  have none := firstLongest_of_foldl text rules
  unfold munch? at h
  rw [h] at none
  have found := finds_longest? rule.1 text
  rw [none rule known] at found
  exact found.absent matched begins

/-! ## Cut texts -/

/-- A text is cut by maximal munch: each lexeme with a kind is munched off what is left, and a character without
one stands where no lexeme begins. -/
inductive Munched : List Char → List Lexeme → Prop
  | nil : Munched [] []
  | token {kind : Kind} {lexeme rest : List Char} {cut : List Lexeme} :
    Munches kind lexeme rest → Munched rest cut → Munched (lexeme ++ rest) (⟨some kind, lexeme⟩ :: cut)
  | stray {c : Char} {rest : List Char} {cut : List Lexeme} :
    Strays (c :: rest) → Munched rest cut → Munched (c :: rest) (⟨none, [c]⟩ :: cut)

/-- Cutting is maximal munch. -/
lemma munched_lexemes (text : List Char) : Munched text (lexemes text) := by
  fun_induction lexemes text with
  | case1 => exact .nil
  | case2 c rest kind length found ih =>
    -- A lexeme is never empty, so cutting takes at least the first character.
    obtain ⟨lexeme, back, e, rfl, munches⟩ := munches_of_munch? found
    cases lexeme with
    | nil => exact absurd munches.mem nil_notMem_language
    | cons d lexeme =>
      rw [List.cons_append] at e
      obtain ⟨rfl, rfl⟩ := List.cons.inj e
      simp only [List.length_cons, Nat.add_sub_cancel, List.take_left, List.drop_left] at ih ⊢
      exact .token munches ih
  | case3 c rest none ih => exact .stray (strays_of_munch? none) ih

/-- What is munched off a text is determined by the text. -/
lemma Munches.unique {back : List Char} {lexeme' : List Char} {kind' : Kind} (e : lexeme ++ rest = lexeme' ++ back)
    (h : Munches kind lexeme rest) (h' : Munches kind' lexeme' back) :
    kind = kind' ∧ lexeme = lexeme' ∧ rest = back := by
  have short := h.longest kind' lexeme' h'.mem ⟨back, e.symm⟩
  have short' := h'.longest kind lexeme h.mem ⟨rest, e⟩
  obtain ⟨rfl, rfl⟩ := List.append_inj e (Nat.le_antisymm short' short)
  refine ⟨?_, rfl, rfl⟩
  by_contra ne
  exact ne ((h'.named kind h.mem ne).trans (h.named kind' h'.mem (Ne.symm ne)).symm)

/-- What is munched off a text is not empty. -/
lemma Munches.ne_nil (h : Munches kind lexeme rest) : lexeme ++ rest ≠ [] := by
  intro e
  obtain ⟨rfl, -⟩ := List.append_eq_nil_iff.mp e
  exact nil_notMem_language h.mem

/-- Nothing is munched off a text where no lexeme begins. -/
lemma Munches.not_strays (h : Munches kind lexeme rest) : ¬ Strays (lexeme ++ rest) :=
  fun strays => strays kind lexeme h.mem (List.prefix_append ..)

/-- Maximal munch cuts a text in one way only. -/
lemma Munched.unique {cut cut' : List Lexeme} (h : Munched text cut) :
    ∀ {text' : List Char}, text = text' → Munched text' cut' → cut = cut' := by
  -- The first piece is determined by the text: either something is munched off it or no lexeme begins.
  induction h generalizing cut' with
  | nil =>
    rintro _ e (_ | ⟨munches, _⟩ | _)
    · rfl
    · exact absurd e.symm munches.ne_nil
    · cases e
  | token munches _ ih =>
    rintro _ e (_ | ⟨munches', other⟩ | ⟨strays, other⟩)
    · exact absurd e munches.ne_nil
    · obtain ⟨rfl, rfl, rfl⟩ := munches.unique e munches'
      rw [ih rfl other]
    · exact absurd (e ▸ strays) munches.not_strays
  | stray strays _ ih =>
    rintro _ e (_ | ⟨munches', other⟩ | ⟨_, other⟩)
    · cases e
    · exact absurd (e ▸ strays) munches'.not_strays
    · obtain ⟨rfl, rfl⟩ := List.cons.inj e
      rw [ih rfl other]

/-- The lexemes of a text are the only ones that maximal munch cuts it into. -/
theorem munched_iff {cut : List Lexeme} : Munched text cut ↔ cut = lexemes text := by
  constructor
  · exact fun munched => munched.unique rfl (munched_lexemes text)
  · rintro rfl
    exact munched_lexemes text

/-! ## Placed lexemes -/

/-- A placed lexeme: a token, or a character that no token begins with. -/
structure Slice where
  kind? : Option Kind
  span : Span

/-- The token that a slice is. -/
def Slice.token? (slice : Slice) : Option Token :=
  slice.kind?.map (⟨·, slice.span⟩)

/-- What is reported about a slice. -/
def Slice.finding? (slice : Slice) : Option (Finding LexicalProblem) :=
  (Lexeme.problem? ⟨slice.kind?, slice.span.content.toList⟩).map (⟨·, slice.span⟩)

/-- Lexemes placed one after the other. -/
def slicesFrom (file : String) : Place → List Lexeme → List Slice
  | _, [] => []
  | place, lexeme :: rest =>
    ⟨lexeme.kind?, place.span file lexeme.text⟩ :: slicesFrom file (place.after lexeme) rest

/-- Scanning reads tokens and findings off the slices. -/
lemma scanFrom_eq (file : String) (place : Place) (cut : List Lexeme) : scanFrom file place cut =
    ⟨(slicesFrom file place cut).filterMap Slice.token? ++ [(cut.foldl Place.after place).endOfFile file],
      (slicesFrom file place cut).filterMap Slice.finding?⟩ := by
  induction cut generalizing place with
  | nil => rfl
  | cons lexeme rest ih =>
    obtain ⟨kind?, text⟩ := lexeme
    have content : (place.span file text).content.toList = text := String.toList_ofList
    rw [scanFrom, ih, slicesFrom, List.filterMap_cons, List.filterMap_cons, Slice.token?, Slice.finding?, content]
    generalize Lexeme.problem? ⟨kind?, text⟩ = problem?
    cases kind? <;> cases problem? <;> rfl

lemma offset_after (place : Place) (lexeme : Lexeme) :
    (place.after lexeme).offset = place.offset + Text.byteLength lexeme.text := by
  unfold Place.after
  split <;> rfl

/-- A slice is what maximal munch takes off a text at its offset. -/
def Slice.Fits (source : List Char) (slice : Slice) : Prop :=
  ∃ front lexeme back, source = front ++ (lexeme ++ back) ∧ slice.span.offset = Text.byteLength front ∧
    slice.span.text = some (String.ofList lexeme) ∧
    match slice.kind? with
    | some kind => Munches kind lexeme back
    | none => ∃ c, lexeme = [c] ∧ Strays (c :: back)

/-- The slices of a text that is cut by maximal munch fit where they are placed. -/
lemma fits_of_munched {file : String} {source front text : List Char} {cut : List Lexeme} {place : Place}
    (munched : Munched text cut) (e : source = front ++ text) (offset : place.offset = Text.byteLength front) :
    ∀ slice ∈ slicesFrom file place cut, slice.Fits source := by
  induction munched generalizing front place with
  | nil => nofun
  | @token kind lexeme rest cut munches _ ih =>
    intro slice mem
    rcases List.mem_cons.mp mem with rfl | mem
    · exact ⟨front, lexeme, rest, e, offset, rfl, munches⟩
    · have behind : source = (front ++ lexeme) ++ rest := by rw [e, List.append_assoc]
      exact ih behind (by rw [offset_after, offset, Text.byteLength_append]) slice mem
  | @stray c rest cut strays _ ih =>
    intro slice mem
    rcases List.mem_cons.mp mem with rfl | mem
    · exact ⟨front, [c], rest, e, offset, rfl, c, rfl, strays⟩
    · have behind : source = (front ++ [c]) ++ rest := by rw [e, List.append_assoc, List.singleton_append]
      exact ih behind (by rw [offset_after, offset, Text.byteLength_append]) slice mem

/-- Two beginnings of a text with as many bytes are the same. -/
lemma eq_of_byteLength {front front' back back' : List Char} (e : front ++ back = front' ++ back')
    (length : Text.byteLength front = Text.byteLength front') : front = front' := by
  have nil {text : List Char} (zero : Text.byteLength text = 0) : text = [] := by
    by_contra nonempty
    exact (Text.byteLength_pos nonempty).ne' zero
  rcases List.append_eq_append_iff.mp e with ⟨more, rfl, -⟩ | ⟨more, rfl, -⟩ <;>
  · rw [Text.byteLength_append] at length
    rw [nil (by omega : Text.byteLength more = 0), List.append_nil]

/-! ## Scanned texts -/

/-- A character is reported to be unexpected at an offset. -/
def Scan.Rejects (scan : Scan) (c : Char) (offset : Nat) : Prop :=
  ∃ finding ∈ scan.findings, finding.problem = .unexpected (String.singleton c) ∧ finding.span.offset = offset

/-- Only a lexeme without a kind is reported as unexpected, with its text. -/
lemma problem?_unexpected {lexeme : Lexeme} {text : String} (h : lexeme.problem? = some (.unexpected text)) :
    lexeme.kind? = none ∧ text = String.ofList lexeme.text := by
  unfold Lexeme.problem? at h
  split at h
  · next none => exact ⟨none, (LexicalProblem.unexpected.inj (Option.some.inj h)).symm⟩
  · split at h <;> cases h
  · split at h <;> cases h
  · cases h

/-- A token of a text, its end apart, is the longest lexeme at its offset. -/
lemma exists_munches {file source : String} {token : Token} (mem : token ∈ (scan file source).tokens)
    (notEnd : token.kind ≠ .endOfFile) : ∃ front lexeme back, source.toList = front ++ (lexeme ++ back) ∧
      token.span.offset = Text.byteLength front ∧ token.span.text = some (String.ofList lexeme) ∧
      Munches token.kind lexeme back := by
  rw [scan, scanFrom_eq, List.mem_append, List.mem_singleton] at mem
  rcases mem with mem | rfl
  · obtain ⟨slice, known, e⟩ := List.mem_filterMap.mp mem
    obtain ⟨front, lexeme, back, source, offset, text, fits⟩ :=
      fits_of_munched (munched_lexemes _) (List.nil_append _).symm rfl slice known
    obtain ⟨kind, some, rfl⟩ := Option.map_eq_some_iff.mp e
    rw [some] at fits
    exact ⟨front, lexeme, back, source, offset, text, fits⟩
  · exact absurd rfl notEnd

/-- No lexeme begins where a character is reported to be unexpected. -/
lemma exists_strays {file source text : String} {finding : Finding LexicalProblem}
    (mem : finding ∈ (scan file source).findings) (unexpected : finding.problem = .unexpected text) :
    ∃ front c back, source.toList = front ++ c :: back ∧ finding.span.offset = Text.byteLength front ∧
      text = String.singleton c ∧ Strays (c :: back) := by
  rw [scan, scanFrom_eq] at mem
  obtain ⟨slice, known, e⟩ := List.mem_filterMap.mp mem
  obtain ⟨front, lexeme, back, source, offset, content, fits⟩ :=
    fits_of_munched (munched_lexemes _) (List.nil_append _).symm rfl slice known
  obtain ⟨problem, found, rfl⟩ := Option.map_eq_some_iff.mp e
  obtain rfl : problem = .unexpected text := unexpected
  obtain ⟨plain, rfl⟩ := problem?_unexpected found
  rw [show slice.kind? = none from plain] at fits
  obtain ⟨c, rfl, strays⟩ := fits
  refine ⟨front, c, back, source, offset, ?_, strays⟩
  rw [Span.content, content, Option.getD_some, String.toList_ofList]
  rfl

end ArrowScript.Token
