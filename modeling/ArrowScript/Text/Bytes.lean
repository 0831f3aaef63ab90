/-!
# Bytes of texts

Offsets and lengths count the bytes that a text has in UTF-8.
-/

namespace ArrowScript.Text

/-- How many bytes some characters have. -/
def byteLength : List Char → Nat
  | [] => 0
  | c :: rest => c.utf8Size + byteLength rest

@[simp] theorem byteLength_append (front back : List Char) :
    byteLength (front ++ back) = byteLength front + byteLength back := by
  induction front with
  | nil => simp [byteLength]
  | cons c rest ih => simp [byteLength, ih, Nat.add_assoc]

theorem byteLength_pos {text : List Char} (nonempty : text ≠ []) : 0 < byteLength text := by
  cases text with
  | nil => exact absurd rfl nonempty
  | cons c rest => exact Nat.add_pos_left c.utf8Size_pos _

theorem byteLength_eq_utf8ByteSize (text : List Char) :
    byteLength text = (String.ofList text).utf8ByteSize := by
  induction text with
  | nil => rfl
  | cons c rest ih =>
    rw [byteLength, ih, show c :: rest = [c] ++ rest from rfl, String.ofList_append,
      String.utf8ByteSize_append]
    simp

end ArrowScript.Text
