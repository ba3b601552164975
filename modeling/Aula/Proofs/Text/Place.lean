/-
The map from offsets to lines and columns.

An offset counts bytes, and it need not stand where a character begins. So the
number of its line is said in bytes as well: it is one more than the newlines
among as many bytes of the source as the offset says (`IsPlace`). A newline is
one byte, and no byte of another character looks like it (`count_encode`), so
these are the newlines of the text in front of the line.

Each offset up to the size of the source has a place and no other has
(`place?_eq_none_iff`), and it is told by the line around it
(`place?_eq_some_iff`). The place of an offset past the last newline is no
special case: the text behind that is a line too, be it empty.
-/
import Aula.Proofs.Text.Line

namespace Aula.Text

-- =============================================================== bytes

/-- The bytes of the text in UTF-8. -/
def utf8 (s : Text) : List UInt8 := s.flatMap String.utf8EncodeChar

/-- The byte that a newline is. -/
def newline : UInt8 := 10

theorem utf8_append (s t : Text) : utf8 (s ++ t) = utf8 s ++ utf8 t := List.flatMap_append

theorem length_utf8 (s : Text) : (utf8 s).length = byteSize s := by
  induction s with
  | nil => rfl
  | cons c s ih =>
    have hcons : utf8 (c :: s) = String.utf8EncodeChar c ++ utf8 s := List.flatMap_cons
    rw [hcons, List.length_append, ih, String.length_utf8EncodeChar, byteSize_cons]

/-- Where a character takes several bytes, all of them are large. -/
theorem le_of_mem_encode {c : Char} (hc : ¬ c.val.toNat ≤ 127) {b : UInt8}
    (hb : b ∈ String.utf8EncodeChar c) : 128 ≤ b.toNat := by
  have hbyte : ∀ n, 128 ≤ n → n < 256 → 128 ≤ (UInt8.ofNat n).toNat := by
    intro n hle hlt
    rwa [UInt8.toNat_ofNat', Nat.mod_eq_of_lt hlt]
  unfold String.utf8EncodeChar at hb
  simp only [hc, if_false] at hb
  split_ifs at hb <;> simp only [List.mem_cons, List.not_mem_nil, or_false] at hb
  · rcases hb with rfl | rfl <;> apply hbyte <;> omega
  · rcases hb with rfl | rfl | rfl <;> apply hbyte <;> omega
  · rcases hb with rfl | rfl | rfl | rfl <;> apply hbyte <;> omega

/-- No other character has the byte of a newline among its bytes. -/
theorem count_encode (c : Char) :
    (String.utf8EncodeChar c).count newline = if c = '\n' then 1 else 0 := by
  by_cases hc : c = '\n'
  · subst hc
    rfl
  · rw [if_neg hc, List.count_eq_zero]
    intro hmem
    by_cases hshort : c.val.toNat ≤ 127
    · have hcode : String.utf8EncodeChar c = [UInt8.ofNat c.val.toNat] := if_pos hshort
      rw [hcode, List.mem_singleton] at hmem
      have hbyte := congrArg UInt8.toNat hmem
      rw [UInt8.toNat_ofNat', Nat.mod_eq_of_lt (by omega)] at hbyte
      exact hc (Char.toNat_inj.1 hbyte.symm)
    · exact absurd (le_of_mem_encode hshort hmem) (by decide)

theorem count_utf8 (s : Text) : (utf8 s).count newline = s.count '\n' := by
  induction s with
  | nil => rfl
  | cons c s ih =>
    have hcons : utf8 (c :: s) = String.utf8EncodeChar c ++ utf8 s := List.flatMap_cons
    rw [hcons, List.count_append, ih, count_encode, List.count_cons, Nat.add_comm]
    simp only [beq_iff_eq]

-- =============================================================== places

/-- The place of an offset: on a line of the source, so many bytes behind its
beginning, up to the newline that ends it or to the end. The number counts the
newlines among the bytes in front of the offset. -/
inductive IsPlace (source : Text) (offset : Nat) : Place → Prop where
  | onLine {before line after : Text} {column : Nat} (hline : IsLine source before line after)
      (hoffset : before.byteSize + column = offset) (hcolumn : column ≤ line.byteSize) :
      IsPlace source offset
        ⟨1 + (source.utf8.take offset).count newline, line ++ after.take 1, column⟩

variable {source before line after : Text} {offset column : Nat}

/-- The newlines in front of an offset are those in front of its line. -/
theorem IsLine.count_take (h : IsLine source before line after) (hcolumn : column ≤ line.byteSize) :
    (source.utf8.take (before.byteSize + column)).count newline = before.count '\n' := by
  have hfront : (utf8 line).take column <+: utf8 line := List.take_prefix ..
  have hnone : ((utf8 line).take column).count newline = 0 := by
    have hle := hfront.sublist.count_le newline
    rw [count_utf8, List.count_eq_zero_of_not_mem h.isOneLine] at hle
    exact Nat.le_zero.1 hle
  rw [h.source_eq, utf8_append, utf8_append, ← length_utf8, List.take_length_add_append,
    List.take_append_of_le_length (by rwa [length_utf8]), List.count_append, count_utf8, hnone,
    Nat.add_zero]

/-- An offset up to the end is in front of a character, inside one, or at the
end. -/
theorem exists_cut {s : Text} (h : offset ≤ byteSize s) :
    ∃ front back, s = front ++ back ∧ byteSize front ≤ offset
      ∧ ∀ c ∈ back.head?, offset < byteSize front + c.utf8Size := by
  induction s generalizing offset with
  | nil => exact ⟨[], [], rfl, Nat.zero_le _, fun c hc => by cases hc⟩
  | cons c s ih =>
    rw [byteSize_cons] at h
    by_cases hinside : offset < c.utf8Size
    · refine ⟨[], c :: s, rfl, Nat.zero_le _, fun d hd => ?_⟩
      rw [← Option.some.inj hd, byteSize_nil, Nat.zero_add]
      exact hinside
    · have hrest : offset - c.utf8Size ≤ byteSize s := by omega
      obtain ⟨front, back, rfl, hle, hlt⟩ := ih hrest
      refine ⟨c :: front, back, rfl, by rw [byteSize_cons]; omega, fun d hd => ?_⟩
      have := hlt d hd
      rw [byteSize_cons]
      omega

/-- Each offset up to the end is on a line. -/
theorem exists_isPlace (h : offset ≤ source.byteSize) : ∃ p, IsPlace source offset p := by
  obtain ⟨front, back, rfl, hle, hlt⟩ := exists_cut h
  obtain ⟨before, start, rest, after, hline, rfl, rfl⟩ := exists_isLine front back
  rw [byteSize_append] at hle
  obtain ⟨column, rfl⟩ := Nat.exists_eq_add_of_le (Nat.le_of_add_right_le hle)
  refine ⟨_, .onLine hline rfl ?_⟩
  -- the character around the offset is on the line, or is the newline behind it
  simp only [byteSize_append] at h hlt ⊢
  cases rest with
  | cons c rest =>
    have := hlt c rfl
    rw [byteSize_cons]
    omega
  | nil =>
    cases after with
    | nil =>
      rw [byteSize_nil] at h ⊢
      omega
    | cons c after =>
      obtain rfl := hline.ends c rfl
      have := hlt '\n' rfl
      rw [show ('\n' : Char).utf8Size = 1 from rfl] at this
      rw [byteSize_nil]
      omega

/-- No place is past the last line. -/
theorem placeIn_eq_none {ls : List Text} (number : Nat) (h : byteSize ls.flatten < offset) :
    placeIn number ls offset = none := by
  fun_induction placeIn number ls offset with
  | case1 => rfl
  | case2 number offset l hle =>
    rw [List.flatten_cons, List.flatten_nil, List.append_nil] at h
    omega
  | case3 => rfl
  | case4 number offset l ls _ hlt =>
    rw [List.flatten_cons, byteSize_append] at h
    omega
  | case5 number offset l ls _ hle ih =>
    rw [List.flatten_cons, byteSize_append] at h
    exact ih (by omega)

theorem IsPlace.place?_eq {p : Place} (h : IsPlace source offset p) :
    source.place? offset = some p := by
  cases h with
  | onLine hline hoffset hcolumn =>
    subst hoffset
    rw [hline.place?_eq hcolumn, hline.count_take hcolumn]

theorem place?_eq_none_iff : source.place? offset = none ↔ source.byteSize < offset := by
  constructor
  · intro h
    by_contra hle
    obtain ⟨p, hp⟩ := exists_isPlace (Nat.le_of_not_lt hle)
    rw [hp.place?_eq] at h
    cases h
  · intro h
    refine placeIn_eq_none 1 ?_
    rwa [flatten_lines]

theorem place?_eq_some_iff {p : Place} : source.place? offset = some p ↔ IsPlace source offset p := by
  refine ⟨fun h => ?_, IsPlace.place?_eq⟩
  have hle : offset ≤ source.byteSize := by
    refine Nat.le_of_not_lt fun hlt => ?_
    rw [place?_eq_none_iff.2 hlt] at h
    cases h
  obtain ⟨p', hp'⟩ := exists_isPlace hle
  rw [hp'.place?_eq] at h
  rwa [← Option.some.inj h]

-- ================================================================ order

/-- A later offset is on a later line, or further on in the same one. -/
theorem IsPlace.lt {later : Nat} {p q : Place} (h : IsPlace source offset p)
    (h' : IsPlace source later q) (hlt : offset < later) :
    p.line < q.line ∨ p.line = q.line ∧ p.column < q.column := by
  have hcount : (source.utf8.take offset).count newline ≤ (source.utf8.take later).count newline :=
    (List.take_prefix_take_left (Nat.le_of_lt hlt)).sublist.count_le newline
  cases h with
  | @onLine _ _ _ column hline hoffset hcolumn =>
    cases h' with
    | @onLine _ _ _ column' hline' hoffset' hcolumn' =>
      rcases Nat.lt_or_eq_of_le hcount with hless | hequal
      · exact .inl (Nat.add_lt_add_left hless 1)
      · -- lines with as many newlines in front are the same line
        have hnumber := hequal
        rw [← hoffset, ← hoffset', hline.count_take hcolumn, hline'.count_take hcolumn'] at hnumber
        obtain ⟨rfl, -⟩ := hline.unique hline' hnumber
        refine .inr ⟨congrArg (1 + ·) hequal, ?_⟩
        show column < column'
        omega

/-- Behind the last newline, and in an empty source, is one more line without
text. -/
theorem isPlace_end (h : ∀ c ∈ source.getLast?, c = '\n') :
    IsPlace source source.byteSize ⟨1 + source.count '\n', [], 0⟩ := by
  have hline : IsLine source source [] [] :=
    ⟨(List.append_nil source).symm, h, fun c hc => by (cases hc), List.not_mem_nil⟩
  have hend : IsPlace source source.byteSize _ := .onLine hline (Nat.add_zero _) (Nat.zero_le _)
  rwa [← length_utf8, List.take_length, count_utf8, length_utf8] at hend

/-- Offsets are mapped to lines and columns. An offset has a place exactly if it
is not past the end of the source. The place is told by the line around it, its
number by the newlines among the bytes in front; a source that is empty or ends
with a newline has one further line, which is empty. Places are in the order of
their offsets, the line first and then the column, so no two offsets share
one. -/
theorem place?_maps_offsets (source : Text) :
    (∀ offset, source.place? offset = none ↔ source.byteSize < offset)
      ∧ (∀ offset p, source.place? offset = some p ↔ IsPlace source offset p)
      ∧ (source = [] ∨ source.getLast? = some '\n' →
          source.place? source.byteSize = some ⟨1 + source.count '\n', [], 0⟩)
      ∧ ∀ offset later p q, source.place? offset = some p → source.place? later = some q →
          (offset < later ↔ p.line < q.line ∨ p.line = q.line ∧ p.column < q.column)
            ∧ (p.line = q.line → p.column = q.column → offset = later) := by
  have hlt : ∀ offset later p q, source.place? offset = some p → source.place? later = some q →
      offset < later → p.line < q.line ∨ p.line = q.line ∧ p.column < q.column :=
    fun offset later p q hp hq => (place?_eq_some_iff.1 hp).lt (place?_eq_some_iff.1 hq)
  refine ⟨fun _ => place?_eq_none_iff, fun _ _ => place?_eq_some_iff, fun hlast => ?_,
    fun offset later p q hp hq => ?_⟩
  · refine (isPlace_end fun c hc => ?_).place?_eq
    rcases hlast with rfl | hlast
    · cases hc
    · exact (Option.some.inj (hlast.symm.trans hc)).symm
  · have hforth := hlt offset later p q hp hq
    have hback := hlt later offset q p hq hp
    refine ⟨⟨hforth, fun h => ?_⟩, fun hline hcolumn => ?_⟩
    · -- the offsets are neither equal nor the other way round
      rcases Nat.lt_trichotomy offset later with hless | rfl | hgreater
      · exact hless
      · obtain rfl := Option.some.inj (hp.symm.trans hq)
        omega
      · have := hback hgreater
        omega
    · rcases Nat.lt_trichotomy offset later with hless | hequal | hgreater
      · have := hforth hless
        omega
      · exact hequal
      · have := hback hgreater
        omega

/-- The middle of a letter of two bytes, behind a carriage return that ends no
line, and the end of the source, behind its newline. -/
theorem place?_maps_offsets_of_wide :
    ("\ré\n" : Text).getLast? = some '\n'
      ∧ Text.place? "\ré\n" 2 = some ⟨1, "\ré\n", 2⟩
      ∧ Text.place? "\ré\n" 4 = some ⟨2, [], 0⟩
      ∧ IsPlace "\ré\n" 2 ⟨1, "\ré\n", 2⟩
      ∧ Text.place? "\ré\n" 5 = none
      ∧ (2 < 4 ↔ 1 < 2 ∨ 1 = 2 ∧ 2 < 0) := by
  obtain ⟨hnone, hsome, hend, horder⟩ := place?_maps_offsets "\ré\n"
  have hlast : ("\ré\n" : Text).getLast? = some '\n' := rfl
  have hinside : Text.place? "\ré\n" 2 = some ⟨1, "\ré\n", 2⟩ := rfl
  have hbehind := hend (.inr hlast)
  obtain ⟨hless, -⟩ := horder 2 4 _ _ hinside hbehind
  exact ⟨hlast, hinside, hbehind, (hsome 2 _).1 hinside, (hnone 5).2 (by decide), hless⟩

end Aula.Text
