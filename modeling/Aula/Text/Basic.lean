/-
Text as the checker reads it: a list of characters, walked from the
front. Reading a program is recursion on this list, and a lexeme is a
list that stands inside a longer one.

# Two measures

A text has a length in characters (`List.length`) and a size in bytes
(`byteSize`), the room it takes when stored as UTF-8. Every cut the
checker makes is at a length; every offset, column and span it reports
is a size. `byteSize_append` keeps the two in step: sizes add up along
a cut, so the offset of a piece is the size of what stands before it.
-/
namespace Aula

/-- Text is the list of its characters. -/
abbrev Text := List Char

/-- A string literal stands for the text it spells. -/
instance : Coe String Text := ⟨String.toList⟩

namespace Text

-- ============================================================ byte size

/-- The number of bytes of the text in UTF-8. -/
def byteSize : Text → Nat
  | [] => 0
  | c :: s => c.utf8Size + byteSize s

@[simp]
theorem byteSize_nil : byteSize [] = 0 := rfl

@[simp]
theorem byteSize_cons (c : Char) (s : Text) :
    byteSize (c :: s) = c.utf8Size + byteSize s := rfl

/-- Sizes add up along a cut. -/
@[simp]
theorem byteSize_append (s t : Text) :
    byteSize (s ++ t) = byteSize s + byteSize t := by
  induction s with
  | nil => simp
  | cons c s ih => simp [ih, Nat.add_assoc]

/-- Only the empty text takes no room. -/
theorem byteSize_eq_zero {s : Text} : byteSize s = 0 ↔ s = [] := by
  cases s with
  | nil => simp
  | cons c s =>
    have := c.utf8Size_pos
    simp only [byteSize_cons, reduceCtorEq, iff_false]
    omega

/-- The text from byte offset `n` on; there is none past the end and
none inside a character. -/
def fromByte? : Nat → Text → Option Text
  | 0, s => some s
  | _ + 1, [] => none
  | n + 1, c :: s =>
    if c.utf8Size ≤ n + 1 then fromByte? (n + 1 - c.utf8Size) s else none

/-- Skipping the size of a leading piece leaves what follows it. -/
theorem fromByte?_byteSize_append (s t : Text) :
    fromByte? (byteSize s) (s ++ t) = some t := by
  induction s with
  | nil => simp [fromByte?]
  | cons c s ih =>
    obtain ⟨k, hk⟩ := Nat.exists_eq_add_of_lt c.utf8Size_pos
    have hsize : byteSize (c :: s) = (k + byteSize s) + 1 := by
      simp only [byteSize_cons]
      omega
    have hleft : k + byteSize s + 1 - c.utf8Size = byteSize s := by omega
    rw [hsize, List.cons_append, fromByte?, if_pos (by omega), hleft, ih]

-- ============================================================= numerals

/-- A number in decimal digits, without leading zeros. -/
def decimal (n : Nat) : Text := Nat.toDigits 10 n

/-- A number in lower-case hexadecimal digits, without leading
zeros. -/
def hexadecimal (n : Nat) : Text := Nat.toDigits 16 n

end Text

end Aula
