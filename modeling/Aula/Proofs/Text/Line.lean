/-
Lines, and the places on them.

The lines of a text are cut off one by one (`Text.lines`), and a place is
found by counting down through them. `Text.IsLine` says the same without an
order: a line has no newline in it, and the text around it ends in one and
begins with one, where there is any. The number of a line is then one more
than the newlines in front of it, and the place of an offset in the line is
at the bytes in front of it (`IsLine.place?_eq`).

Every cut of a text is on one line (`exists_isLine`), and a line is known by
its number (`IsLine.unique`).
-/
import Aula.Text.Line
import Mathlib.Data.List.DropRight

namespace Aula.Text

/-- The text has no newline. -/
def IsOneLine (s : Text) : Prop := '\n' ∉ s

/-- A line of a source, without its newline. That is the first character of
what comes after, if anything does. -/
structure IsLine (source before line after : Text) : Prop where
  source_eq : source = before ++ (line ++ after)
  starts : ∀ c ∈ before.getLast?, c = '\n'
  ends : ∀ c ∈ after.head?, c = '\n'
  isOneLine : line.IsOneLine

variable {source before line after : Text}

-- ============================================================= the cuts

/-- Wherever a text is cut, the cut is on a line. -/
theorem exists_isLine (front back : Text) :
    ∃ before start rest after, IsLine (front ++ back) before (start ++ rest) after
      ∧ front = before ++ start ∧ back = rest ++ after := by
  let p : Char → Bool := fun c => c ≠ '\n'
  have hfront : front = front.rdropWhile p ++ front.rtakeWhile p :=
    List.rdropWhile_append_rtakeWhile.symm
  have hback : back = back.takeWhile p ++ back.dropWhile p :=
    List.takeWhile_append_dropWhile.symm
  refine ⟨_, _, _, _, ⟨?_, ?_, ?_, ?_⟩, hfront, hback⟩
  · rw [List.append_assoc, ← List.append_assoc, ← hfront, ← hback]
  · intro c hc
    have hlast := List.head?_dropWhile_not p front.reverse
    rw [List.rdropWhile, List.getLast?_reverse] at hc
    rw [Option.mem_def.1 hc] at hlast
    simpa [p] using hlast
  · intro c hc
    have hhead := List.head?_dropWhile_not p back
    rw [Option.mem_def.1 hc] at hhead
    simpa [p] using hhead
  · intro hmem
    rcases List.mem_append.1 hmem with hmem | hmem
    · simpa [p] using List.mem_rtakeWhile_imp hmem
    · simpa [p] using List.mem_takeWhile_imp hmem

theorem IsLine.take_one (h : IsLine source before line after) :
    after.take 1 = [] ∨ after.take 1 = ['\n'] := by
  cases hafter : after with
  | nil => exact .inl rfl
  | cons c later =>
    obtain rfl := h.ends c (by rw [hafter]; rfl)
    exact .inr rfl

-- =========================================================== the cutting

theorem lines_of_isOneLine (h : line.IsOneLine) : lines line = [line] := by
  induction line with
  | nil => rfl
  | cons c line ih =>
    obtain ⟨hc, hline⟩ := not_or.1 (mt List.mem_cons.2 h)
    rw [lines, if_neg (Ne.symm hc), ih hline]
    rfl

theorem lines_append_newline (h : line.IsOneLine) (s : Text) :
    lines (line ++ '\n' :: s) = (line ++ ['\n']) :: lines s := by
  induction line with
  | nil => rfl
  | cons c line ih =>
    obtain ⟨hc, hline⟩ := not_or.1 (mt List.mem_cons.2 h)
    rw [List.cons_append, lines, if_neg (Ne.symm hc), ih hline]
    rfl

/-- Behind a whole line, places are those of the rest, on later lines. -/
theorem placeIn_append_newline (h : line.IsOneLine) (s : Text) (number offset : Nat) :
    placeIn number (lines (line ++ '\n' :: s)) (line.byteSize + 1 + offset)
      = placeIn (number + 1) (lines s) offset := by
  have hsize : byteSize (line ++ ['\n']) = line.byteSize + 1 := byteSize_append ..
  obtain ⟨l, ls, hls⟩ := List.exists_cons_of_ne_nil (lines_ne_nil s)
  rw [lines_append_newline h, hls, placeIn, hsize, if_neg (by omega)]
  · congr 1
    omega
  · exact List.cons_ne_nil l ls

/-- Behind so many whole lines. -/
theorem placeIn_append {before : Text} (hstarts : ∀ c ∈ before.getLast?, c = '\n')
    (s : Text) (number offset : Nat) :
    placeIn number (lines (before ++ s)) (before.byteSize + offset)
      = placeIn (number + before.count '\n') (lines s) offset := by
  by_cases hmem : '\n' ∈ before
  · -- the first line of those in front, and then the others
    obtain ⟨l, before', heq, hl⟩ := List.eq_append_cons_of_mem hmem
    have hshorter : before'.length < before.length := by
      rw [heq, List.length_append, List.length_cons]
      omega
    have hstarts' : ∀ c ∈ before'.getLast?, c = '\n' := by
      intro c hc
      apply hstarts
      rw [heq, List.getLast?_append, List.getLast?_cons, Option.mem_def.1 hc]
      rfl
    have hsize : before.byteSize + offset = byteSize l + 1 + (byteSize before' + offset) := by
      rw [heq, byteSize_append, byteSize_cons, show ('\n' : Char).utf8Size = 1 from rfl]
      omega
    have hcount : before.count '\n' = before'.count '\n' + 1 := by
      rw [heq, List.count_append, List.count_eq_zero_of_not_mem hl, List.count_cons_self,
        Nat.zero_add]
    rw [hsize, hcount, heq, List.append_assoc, List.cons_append, placeIn_append_newline hl,
      placeIn_append hstarts' s]
    congr 1
    omega
  · cases hlast : before.getLast? with
    | none =>
      obtain rfl := List.getLast?_eq_none_iff.1 hlast
      rw [List.nil_append, byteSize_nil, Nat.zero_add]
      rfl
    | some c =>
      obtain rfl := hstarts c hlast
      exact absurd (List.mem_of_getLast? hlast) hmem
termination_by before.length

theorem IsLine.place?_eq (h : IsLine source before line after) {column : Nat}
    (hcolumn : column ≤ line.byteSize) :
    source.place? (before.byteSize + column)
      = some ⟨1 + before.count '\n', line ++ after.take 1, column⟩ := by
  unfold place?
  rw [h.source_eq, placeIn_append h.starts]
  cases hafter : after with
  | nil =>
    rw [List.append_nil, lines_of_isOneLine h.isOneLine]
    simp [placeIn, hcolumn]
  | cons c after' =>
    obtain rfl : c = '\n' := h.ends c (by rw [hafter]; rfl)
    obtain ⟨l, ls, hls⟩ := List.exists_cons_of_ne_nil (lines_ne_nil after')
    have hsize : byteSize (line ++ ['\n']) = line.byteSize + 1 := byteSize_append ..
    rw [lines_append_newline h.isOneLine, hls, placeIn, if_pos (by omega)]
    · rfl
    · exact List.cons_ne_nil l ls

-- ============================================================ the number

/-- What is in front of a line does not go on with more text up to a line, but
for another newline. -/
theorem eq_nil_of_starts (before : Text) {more : Text} (hcount : more.count '\n' = 0)
    (hstarts : ∀ c ∈ (before ++ more).getLast?, c = '\n') : more = [] := by
  cases hlast : more.getLast? with
  | none => exact List.getLast?_eq_none_iff.1 hlast
  | some c =>
    have hc : c ∈ (before ++ more).getLast? := by
      rw [List.getLast?_append, hlast]
      rfl
    obtain rfl := hstarts c hc
    exact absurd (List.mem_of_getLast? hlast) (List.count_eq_zero.1 hcount)

theorem IsLine.takeWhile_eq (h : IsLine source before line after) :
    (line ++ after).takeWhile (fun c => c ≠ '\n') = line := by
  rw [List.takeWhile_append_of_pos]
  · cases hafter : after with
    | nil => exact List.append_nil _
    | cons c after' =>
      obtain rfl : c = '\n' := h.ends c (by rw [hafter]; rfl)
      exact List.append_nil _
  · intro c hc
    apply decide_eq_true
    rintro rfl
    exact h.isOneLine hc

/-- A line is known by its number. -/
theorem IsLine.unique {before' line' after' : Text} (h : IsLine source before line after)
    (h' : IsLine source before' line' after')
    (hnumber : before.count '\n' = before'.count '\n') :
    before = before' ∧ line = line' := by
  have hsource := h.source_eq.symm.trans h'.source_eq
  have hbefore : before = before' := by
    rcases List.append_eq_append_iff.1 hsource with ⟨more, heq, -⟩ | ⟨more, heq, -⟩
    · rw [heq, List.count_append] at hnumber
      have hmore : more = [] := by
        apply eq_nil_of_starts before (by omega)
        rw [← heq]
        exact h'.starts
      rw [heq, hmore, List.append_nil]
    · rw [heq, List.count_append] at hnumber
      have hmore : more = [] := by
        apply eq_nil_of_starts before' (by omega)
        rw [← heq]
        exact h.starts
      rw [heq, hmore, List.append_nil]
  subst hbefore
  refine ⟨rfl, ?_⟩
  rw [← h.takeWhile_eq, ← h'.takeWhile_eq, List.append_cancel_left hsource]

end Aula.Text
