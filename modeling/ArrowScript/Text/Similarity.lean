/-!
# Similarity

How alike two texts are. Characters of the two that are the same and stand at nearly the same position are
paired. Texts are alike when many characters of both are paired, and when the paired ones come in the same
order in both.
-/

namespace ArrowScript.Text

/-- A character that can be paired once. -/
structure Slot where
  char : Char
  paired : Bool

/-- The first place near a position where a character can be paired. -/
def partner? (reach position : Nat) (c : Char) (slots : List Slot) : Option Nat :=
  slots.zipIdx.findIdx? fun (slot, place) =>
    !slot.paired && slot.char = c && position ≤ place + reach && place ≤ position + reach

/-- Pairs characters with slots from left to right. What is left are the characters that were paired, and
the slots. -/
def pair (reach : Nat) : List (Char × Nat) → List Slot → List Char × List Slot
  | [], slots => ([], slots)
  | (c, position) :: rest, slots =>
    match partner? reach position c slots with
    | none => pair reach rest slots
    | some place =>
      let (paired, slots) := pair reach rest (slots.modify place fun slot => ⟨slot.char, true⟩)
      (c :: paired, slots)

/-- How alike two texts are, as a part of a whole. -/
structure Likeness where
  part : Nat
  whole : Nat

namespace Likeness

/-- Whether a likeness is at most another one. -/
def atMost (first second : Likeness) : Bool :=
  first.part * second.whole ≤ second.part * first.whole

/-- Whether a likeness is worth telling: seven tenths or more. -/
def isClose (likeness : Likeness) : Bool :=
  atMost ⟨7, 10⟩ likeness

end Likeness

/-- How alike two texts are: the mean of the parts of both that are paired, and of the part of the pairs
that come in the same order. Two pairs that are swapped count once. -/
def likeness (first second : String) : Likeness :=
  let a := first.length
  let b := second.length
  let (left, slots) :=
    pair (max a b / 2 - 1) first.toList.zipIdx (second.toList.map fun c => ⟨c, false⟩)
  let right := (slots.filter (·.paired)).map (·.char)
  let pairs := left.length
  let swaps := (left.zip right).countP (fun (x, y) => x ≠ y) / 2
  if pairs = 0 then ⟨0, 1⟩
  else ⟨pairs * pairs * (a + b) + (pairs - swaps) * a * b, 3 * pairs * a * b⟩

/-- The closest of some candidates to a text by name, if there is a close one. The last of several that
are equally close counts. -/
def closest? {α : Type} (name : α → String) (text : String) (candidates : List α) : Option α :=
  let close := (candidates.map fun x => (x, likeness text (name x))).filter (·.2.isClose)
  (close.foldl closer none).map (·.1)
where
  /-- The closer one of two candidates, of which the first may be missing. -/
  closer : Option (α × Likeness) → α × Likeness → Option (α × Likeness)
    | none, next => some next
    | some best, next => if best.2.atMost next.2 then some next else some best

end ArrowScript.Text
