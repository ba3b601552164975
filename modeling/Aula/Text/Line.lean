/-
Places in a source text: from a byte offset to the line that holds it
and the column within that line.

A source is cut into lines after each newline, so every line but the
last ends in one. The last line may be empty: it is there after a final
newline, and in an empty source. The offset just past the end belongs
to it, so every offset up to the size of the source has a place and no
larger one has.
-/
import Aula.Text.Basic

namespace Aula

/-- A place in a source: the number of the line, counted from one, its
text with the newline if it has one, and the bytes before the place in
that line. -/
structure Place where
  line : Nat
  text : Text
  column : Nat
deriving DecidableEq, Repr

namespace Text

/-- The lines of a text, each with its newline, and a last one without.
They concatenate to the text. -/
def lines : Text → List Text
  | [] => [[]]
  | c :: s => if c = '\n' then [c] :: lines s else (lines s).modifyHead (c :: ·)

/-- There is always a last line. -/
theorem lines_ne_nil (s : Text) : lines s ≠ [] := by
  cases s with
  | nil => simp [lines]
  | cons c s =>
    unfold lines
    split
    · simp
    · simpa using lines_ne_nil s

theorem flatten_lines (s : Text) : (lines s).flatten = s := by
  induction s with
  | nil => rfl
  | cons c s ih =>
    obtain ⟨l, ls, h⟩ := List.exists_cons_of_ne_nil (lines_ne_nil s)
    rw [h] at ih
    unfold lines
    split
    · simpa [h] using ih
    · simpa [h] using ih

/-- Lines put together again, a newline behind each. -/
def unlines (ls : List Text) : Text := ls.flatMap (· ++ ['\n'])

/-- The place `offset` bytes into `ls`, the first of which has the given
number. -/
def placeIn : (number : Nat) → (ls : List Text) → (offset : Nat) → Option Place
  | _, [], _ => none
  | number, [l], offset =>
    if offset ≤ byteSize l then some ⟨number, l, offset⟩ else none
  | number, l :: ls, offset =>
    if offset < byteSize l then some ⟨number, l, offset⟩
    else placeIn (number + 1) ls (offset - byteSize l)

/-- The place of a byte offset in a source, on a character boundary or
not. -/
def place? (source : Text) (offset : Nat) : Option Place :=
  placeIn 1 (lines source) offset

end Text

end Aula
