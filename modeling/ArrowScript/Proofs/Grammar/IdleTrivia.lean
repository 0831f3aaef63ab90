import ArrowScript.Proofs.Grammar.Runs

/-!
# Idle trivia

The grammar asks for trivia in three places only: an array bracket must not stand behind blanks or line ends,
and a statement and the parts of a declaration end with the line. A comment, a blank that no bracket follows
and a line end that another line end follows are therefore idle. `Thinned tokens kept` says that some tokens
with idle trivia left out are some others. What a cursor finds ahead of it is the same in both lists, up to
which of two line ends it is that ends a line.
-/

namespace ArrowScript

namespace Token

/-- The first kind among some tokens past those of some kinds, end of file when there is none. -/
def kindPast (passed : List Kind) (tokens : List Token) : Kind :=
  ((tokens.map Token.kind).find? (· ∉ passed)).getD .endOfFile

/-- Whether nothing depends on a token: it is a comment, a blank whose next token, comments apart, is not a
bracket of an array, or a line end whose next token, comments and blanks apart, is a line end, too. -/
def idle (token : Token) (rest : List Token) : Bool :=
  match token.kind with
  | .comment => true
  | .whitespace => kindPast [.comment] rest ∉ [Kind.leftBracket, Kind.rightBracket]
  | .endOfLine => kindPast [.comment, .whitespace] rest = .endOfLine
  | _ => false

/-- Some tokens with idle ones left out are some others. -/
inductive Thinned : List Token → List Token → Prop
  | nil : Thinned [] []
  | keep {token : Token} {rest kept : List Token} : Thinned rest kept → Thinned (token :: rest) (token :: kept)
  | drop {token : Token} {rest kept : List Token} :
    token.idle rest → Thinned rest kept → Thinned (token :: rest) kept

/-- Some tokens without any idle ones. -/
def thin : List Token → List Token
  | [] => []
  | token :: rest => if token.idle rest then thin rest else token :: thin rest

variable {token : Token} {tokens rest kept : List Token} {passed : List Kind} {k : Kind}

/-- A token of a kind that is passed. -/
@[simp] lemma kindPast_passed (h : token.kind ∈ passed) :
    kindPast passed (token :: rest) = kindPast passed rest := by
  simp [kindPast, h]

/-- A token of a kind that is not passed. -/
@[simp] lemma kindPast_stop (h : token.kind ∉ passed) : kindPast passed (token :: rest) = token.kind := by
  simp [kindPast, h]

/-- What is passed does not stop. -/
lemma kindPast_notMem (file : Kind.endOfFile ∉ passed) (tokens : List Token) : kindPast passed tokens ∉ passed := by
  induction tokens with
  | nil => exact file
  | cons token rest ih =>
    by_cases h : token.kind ∈ passed
    · rwa [kindPast_passed h]
    · rwa [kindPast_stop h]

/-- If something stops and nothing is the end of file, the end of file does not come first. -/
lemma kindPast_ne_endOfFile (none : ∀ token ∈ tokens, token.kind ≠ .endOfFile)
    (stop : ∃ token ∈ tokens, token.kind ∉ passed) : kindPast passed tokens ≠ .endOfFile := by
  induction tokens with
  | nil =>
    obtain ⟨_, mem, _⟩ := stop
    exact absurd mem List.not_mem_nil
  | cons token rest ih =>
    rw [List.forall_mem_cons] at none
    by_cases h : token.kind ∈ passed
    · obtain ⟨other, mem, out⟩ := stop
      have behind : other ∈ rest := (List.mem_cons.mp mem).resolve_left fun e => out (e ▸ h)
      rw [kindPast_passed h]
      exact ih none.2 ⟨other, behind, out⟩
    · rw [kindPast_stop h]
      exact none.1

/-- Where nothing is left an end of file is taken to come next, so one at the end makes no difference. -/
lemma kindPast_closed {last : Token} (file : last.kind = .endOfFile) (stop : Kind.endOfFile ∉ passed) :
    kindPast passed (tokens ++ [last]) = kindPast passed tokens := by
  induction tokens with
  | nil =>
    rw [List.nil_append, kindPast_stop (file ▸ stop), file]
    rfl
  | cons token rest ih =>
    rw [List.cons_append]
    by_cases h : token.kind ∈ passed
    · rw [kindPast_passed h, kindPast_passed h, ih]
    · rw [kindPast_stop h, kindPast_stop h]

/-- What stops where less is passed also stops where more is passed, unless it is passed itself. -/
lemma kindPast_of_fewer {more : List Kind} (sub : passed ⊆ more) (stop : kindPast passed tokens ∉ more) :
    kindPast more tokens = kindPast passed tokens := by
  induction tokens with
  | nil => rfl
  | cons token rest ih =>
    by_cases h : token.kind ∈ passed
    · rw [kindPast_passed h] at stop ⊢
      rw [kindPast_passed (sub h), ih stop]
    · rw [kindPast_stop h] at stop ⊢
      rw [kindPast_stop stop]

/-- An idle token is trivia. -/
lemma idle_trivia (h : token.idle rest) : token.kind.isTrivia := by
  unfold idle at h
  split at h <;> simp_all [Kind.isTrivia]

namespace Thinned

/-- Nothing has to be left out. -/
lemma refl : ∀ tokens : List Token, Thinned tokens tokens
  | [] => .nil
  | _ :: rest => .keep (refl rest)

/-- All that can be left out at once. -/
lemma thin (tokens : List Token) : Thinned tokens (thin tokens) := by
  induction tokens with
  | nil => exact .nil
  | cons token rest ih =>
    rw [Token.thin]
    split
    · next idle => exact .drop idle ih
    · exact .keep ih

/-- What is kept is in its order. -/
lemma sublist (h : Thinned tokens kept) : kept.Sublist tokens := by
  induction h with
  | nil => exact .slnil
  | keep _ ih => exact ih.cons_cons _
  | drop _ _ ih => exact ih.cons _

/-- Blanks and comments apart, the same kind comes next. -/
lemma kindPast_line (h : Thinned tokens kept) :
    kindPast [.comment, .whitespace] kept = kindPast [.comment, .whitespace] tokens := by
  induction h with
  | nil => rfl
  | @keep token rest kept _ ih =>
    by_cases passed : token.kind ∈ [Kind.comment, Kind.whitespace]
    · rw [kindPast_passed passed, kindPast_passed passed, ih]
    · rw [kindPast_stop passed, kindPast_stop passed]
  | @drop token rest kept idle _ ih =>
    by_cases passed : token.kind ∈ [Kind.comment, Kind.whitespace]
    · rw [kindPast_passed passed, ih]
    · -- Of the idle tokens that are not passed only line ends are left, and they come in front of another.
      rw [kindPast_stop passed, ih]
      unfold Token.idle at idle
      split at idle <;> simp_all

/-- Comments apart, a bracket comes next in both or in neither. -/
lemma kindPast_bracket (h : Thinned tokens kept) (bracket : k ∈ [Kind.leftBracket, Kind.rightBracket]) :
    kindPast [.comment] kept = k ↔ kindPast [.comment] tokens = k := by
  have solid : k.isTrivia = false := by
    simp only [List.mem_cons, List.not_mem_nil, or_false] at bracket
    rcases bracket with rfl | rfl <;> rfl
  induction h with
  | nil => rfl
  | @keep token rest kept _ ih =>
    by_cases passed : token.kind ∈ [Kind.comment]
    · rw [kindPast_passed passed, kindPast_passed passed]
      exact ih
    · rw [kindPast_stop passed, kindPast_stop passed]
  | @drop token rest kept idle _ ih =>
    by_cases passed : token.kind ∈ [Kind.comment]
    · rw [kindPast_passed passed]
      exact ih
    · -- Neither the token that is left out is a bracket nor, as it is idle, the one behind it.
      have here : token.kind ≠ k := fun e => by simp [← e, idle_trivia idle] at solid
      have behind : kindPast [.comment] rest ≠ k := by
        rintro rfl
        unfold Token.idle at idle
        split at idle
        · simp_all
        · exact of_decide_eq_true idle bracket
        · have stop : kindPast [.comment] rest ∉ [Kind.comment, Kind.whitespace] := by
            intro mem
            simp only [List.mem_cons, List.not_mem_nil, or_false] at mem
            rcases mem with e | e <;> simp [e, Kind.isTrivia] at solid
          rw [← kindPast_of_fewer (by simp) stop, of_decide_eq_true idle] at solid
          cases solid
        · cases idle
      rw [kindPast_stop passed]
      exact iff_of_false (mt ih.mp behind) here

/-- The kinds apart from trivia are the same. -/
lemma kinds (h : Thinned tokens kept) :
    (kept.map Token.kind).filter (!·.isTrivia) = (tokens.map Token.kind).filter (!·.isTrivia) := by
  -- Only trivia is left out, and none is counted.
  induction h with
  | nil => rfl
  | keep _ ih => simp only [List.map_cons, List.filter_cons, ih]
  | drop idle _ ih => simp [ih, idle_trivia idle]

end Thinned

/-- Past trivia, the same token comes next, and what follows it is thinned. -/
lemma Thinned.past_trivia (h : Thinned tokens kept) :
    (kept.dropWhile (·.kind.isTrivia)).head? = (tokens.dropWhile (·.kind.isTrivia)).head? ∧
      Thinned (tokens.dropWhile (·.kind.isTrivia)).tail (kept.dropWhile (·.kind.isTrivia)).tail := by
  induction h with
  | nil => exact ⟨rfl, .nil⟩
  | @keep token rest kept h ih =>
    rw [List.dropWhile_cons, List.dropWhile_cons]
    split
    · exact ih
    · exact ⟨rfl, h⟩
  | drop idle _ ih => rwa [List.dropWhile_cons, if_pos (idle_trivia idle)]

/-- Whether a token is idle does not depend on an end of file at the end. -/
lemma idle_closed {last : Token} (file : last.kind = .endOfFile) :
    token.idle (rest ++ [last]) = token.idle rest := by
  unfold Token.idle
  rw [kindPast_closed file (by simp), kindPast_closed file (by simp)]

/-- An end of file may be added at the end. -/
lemma Thinned.closed {last : Token} (file : last.kind = .endOfFile) (h : Thinned tokens kept) :
    Thinned (tokens ++ [last]) (kept ++ [last]) := by
  induction h with
  | nil => exact .keep .nil
  | keep _ ih => exact .keep ih
  | drop idle _ ih => exact .drop ((idle_closed file).trans idle) ih

/-- An end of file at the end is kept. -/
lemma Thinned.of_closed {last : Token} (file : last.kind = .endOfFile) (h : Thinned (tokens ++ [last]) kept) :
    ∃ front, kept = front ++ [last] ∧ Thinned tokens front := by
  induction tokens generalizing kept with
  | nil =>
    cases h with
    | keep h =>
      cases h
      exact ⟨[], rfl, .nil⟩
    | drop idle _ =>
      have trivia := idle_trivia idle
      rw [file] at trivia
      cases trivia
  | cons token rest ih =>
    cases h with
    | keep h =>
      obtain ⟨front, rfl, thinned⟩ := ih h
      exact ⟨token :: front, rfl, .keep thinned⟩
    | drop idle h =>
      obtain ⟨front, rfl, thinned⟩ := ih h
      exact ⟨front, rfl, .drop (idle_closed file ▸ idle) thinned⟩

end Token

end ArrowScript
