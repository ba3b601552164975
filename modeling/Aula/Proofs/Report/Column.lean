/-
The column of the caret.

A report shows the line of a fault and a caret below it. The place of the fault
is an offset, and the caret stands as many columns behind the indentation as
there are bytes between them; but what it stands below is characters. So it is
below the character at the offset exactly if the line is ASCII up to there
(`Report.caret_counts_bytes`). A letter with an accent takes two bytes, and
every such letter, in a comment or in a string, moves the caret one column too
far to the right.
-/
import Aula.Proofs.Report.Caret

namespace Aula

open Text (IsLine IsOneLine decimal)

namespace Text

/-- Trimming at the end stops at a character that is not blank. -/
theorem trimEnd_append_cons (s t : Text) {c : Char} (hc : isBlank c = false) :
    trimEnd (s ++ c :: t) = s ++ c :: trimEnd t := by
  have hstop : ∀ d ∈ (c :: s.reverse).head?, isBlank d = false := by
    intro d hd
    rwa [← Option.some.inj hd]
  have hreverse : (s ++ c :: t).reverse = t.reverse ++ c :: s.reverse := by simp
  unfold trimEnd
  rw [hreverse, dropWhile_append_of_head? _ hstop]
  simp

end Text

namespace Report

-- ======================================================== the printed line

/-- A line as it is printed, cut at one of its characters. -/
structure Printed where
  /-- The number of the line. -/
  number : Nat
  /-- What is printed of the line in front of the character. -/
  shown : Text
  char : Char
  /-- What is printed behind it. -/
  later : Text

namespace Printed

/-- The number of the line, and a bar. -/
def label (k : Printed) : Text := decimal k.number ++ " | "

def text (k : Printed) : Text := k.label ++ (k.shown ++ k.char :: k.later)

/-- The number of characters in front of the one where the line is cut. -/
def column (k : Printed) : Nat := k.label.length + k.shown.length

/-- The character stands in its column. -/
theorem getElem?_column (k : Printed) : k.text[k.column]? = some k.char := by
  unfold text column
  rw [List.getElem?_append_right (Nat.le_add_right ..), Nat.add_sub_cancel_left,
    List.getElem?_append_right (Nat.le_refl _), Nat.sub_self]
  rfl

/-- What is printed is the line of the offset, cut at the character that begins
there. -/
def IsAt (k : Printed) (source : Text) (position : Nat) : Prop :=
  ∃ before start c rest after, IsLine source before (start ++ c :: rest) after
    ∧ position = Text.byteSize (before ++ start)
    ∧ k = ⟨1 + before.count '\n', start.dropWhile isIndent, c, Text.trimEnd rest⟩

namespace IsAt

variable {k k' : Printed} {source : Text} {position : Nat}

/-- The offset determines what is printed, and where it is cut. -/
theorem unique (h : k.IsAt source position) (h' : k'.IsAt source position) : k = k' := by
  obtain ⟨before, start, c, rest, after, hline, rfl, rfl⟩ := h
  obtain ⟨before', start', c', rest', after', hline', hposition, rfl⟩ := h'
  have hsource : source = (before ++ start) ++ (c :: rest ++ after) := by
    rw [hline.source_eq]
    simp
  have hsource' : source = (before' ++ start') ++ (c' :: rest' ++ after') := by
    rw [hline'.source_eq]
    simp
  have hfront : before ++ start = before' ++ start' := by
    have hupto := Text.uptoByte?_byteSize_append (before ++ start) (c :: rest ++ after)
    rw [← hsource, hposition, hsource', Text.uptoByte?_byteSize_append] at hupto
    exact (Option.some.inj hupto).symm
  -- there are no newlines between the beginning of the line and the offset
  have hstart : start.count '\n' = 0 :=
    List.count_eq_zero_of_not_mem fun hmem => hline.isOneLine (List.mem_append_left _ hmem)
  have hstart' : start'.count '\n' = 0 :=
    List.count_eq_zero_of_not_mem fun hmem => hline'.isOneLine (List.mem_append_left _ hmem)
  have hnumber := congrArg (List.count '\n') hfront
  rw [List.count_append, List.count_append, hstart, hstart'] at hnumber
  obtain ⟨rfl, hwhole⟩ := hline.unique hline' hnumber
  obtain rfl := List.append_cancel_left hfront
  obtain ⟨rfl, rfl⟩ := List.cons.inj (List.append_cancel_left hwhole)
  rfl

theorem isOneLine (h : k.IsAt source position) : k.text.IsOneLine := by
  obtain ⟨before, start, c, rest, after, hline, -, rfl⟩ := h
  apply ((IsOneLine.decimal _).append (.literal (by decide))).append
  intro hmem
  apply hline.isOneLine
  rcases List.mem_append.1 hmem with hshown | hback
  · exact List.mem_append_left _ ((List.dropWhile_suffix isIndent).subset hshown)
  · apply List.mem_append_right
    rcases List.mem_cons.1 hback with hc | hlater
    · exact List.mem_cons.2 (.inl hc)
    · exact List.mem_cons_of_mem _ ((List.rdropWhile_prefix isBlank _).subset hlater)

end IsAt

end Printed

-- =============================================================== the caret

/-- The line with the caret, behind so many dashes. -/
def caretLine (number dashes : Nat) : Text :=
  margin number ++ " " ++ (List.replicate dashes '-' ++ ['^'])

/-- The caret stands behind the margin and the dashes. -/
theorem idxOf_caretLine (k : Printed) (dashes : Nat) :
    (caretLine k.number dashes).idxOf '^' = k.label.length + dashes := by
  have hmargin : '^' ∉ margin k.number ++ " " := by
    unfold margin padLeft
    simp
  have hdashes : '^' ∉ List.replicate dashes '-' := by
    intro hmem
    exact absurd (List.mem_replicate.1 hmem).2 (by decide)
  unfold caretLine
  rw [List.idxOf_append_of_notMem hmargin, List.idxOf_append_of_notMem hdashes]
  simp [margin, padLeft, Printed.label]

/-- A report on a place of the source ends in its line and a caret. -/
theorem exists_printed {source : Text} (file : Text) {f : Fault}
    (h : Program.check source = .error f) (hinside : f.position < source.byteSize) :
    ∃ k : Printed, k.IsAt source f.position
      ∧ lines f source file = [title f, "   " ++ f.cause.message, "-> " ++ file, margin k.number,
          k.text, caretLine k.number k.shown.byteSize] := by
  obtain ⟨front, back, rfl, hposition, hback⟩ := Program.exists_cut_of_check h
  obtain ⟨before, start, rest, after, hline, rfl, rfl⟩ := Text.exists_isLine front back
  -- the character at the offset is not blank, so it is on the line, and printed
  obtain ⟨c, rest, rfl⟩ : ∃ c t, rest = c :: t := by
    cases rest with
    | cons c rest => exact ⟨c, rest, rfl⟩
    | nil =>
      cases after with
      | nil => simp [hposition] at hinside
      | cons c after =>
        obtain rfl := hline.ends c rfl
        cases hback '\n' rfl
  have hc : isBlank c = false := hback c rfl
  have hstop : ∀ d ∈ (c :: rest).head?, isIndent d = false := by
    intro d hd
    rw [← Option.some.inj hd]
    exact isIndent_of_not_blank hc
  have hcolumn : start.byteSize ≤ Text.byteSize (start ++ c :: rest) := by
    rw [Text.byteSize_append]
    exact Nat.le_add_right ..
  have hplace := hline.place?_eq hcolumn
  rw [← Text.byteSize_append, ← hposition] at hplace
  have hdashes : start.byteSize - Text.byteSize (start.takeWhile isIndent)
      = Text.byteSize (start.dropWhile isIndent) := by
    have hsplit : start.takeWhile isIndent ++ start.dropWhile isIndent = start :=
      List.takeWhile_append_dropWhile
    have hsize := congrArg Text.byteSize hsplit
    rw [Text.byteSize_append] at hsize
    omega
  refine ⟨⟨1 + before.count '\n', start.dropWhile isIndent, c, Text.trimEnd rest⟩,
    ⟨before, start, c, rest, after, hline, hposition, rfl⟩, ?_⟩
  unfold lines
  rw [hplace]
  simp only []
  rw [excerpt_eq _ _ hline.take_one, Text.takeWhile_append_of_head? start hstop,
    Text.dropWhile_append_of_head? start hstop, Text.trimEnd_append_cons _ _ hc, hdashes]
  rfl

/-- A report on a fault inside the source ends in the line of the fault and a
line with a caret. The caret stands as many characters behind the number and the
bar as bytes of the line are printed in front of the offset; so it is below the
character at the offset exactly if all of these are ASCII. -/
theorem caret_counts_bytes (source file : Text) (f : Fault)
    (h : Program.check source = .error f) (hinside : f.position < source.byteSize) :
    ∃ (k : Printed) (above : List Text) (caret : Text), k.IsAt source f.position
      ∧ render f source file = Text.unlines (above ++ [k.text, caret])
      ∧ k.text.IsOneLine ∧ caret.IsOneLine
      ∧ k.text[k.column]? = some k.char
      ∧ caret.idxOf '^' = k.label.length + k.shown.byteSize
      ∧ (caret.idxOf '^' = k.column ↔ ∀ d ∈ k.shown, d.toNat < 128) := by
  obtain ⟨k, hat, hlines⟩ := exists_printed file h hinside
  have hcaret := idxOf_caretLine k k.shown.byteSize
  refine ⟨k, [title f, "   " ++ f.cause.message, "-> " ++ file, margin k.number],
    caretLine k.number k.shown.byteSize, hat, ?_, ?_, ?_, k.getElem?_column, hcaret, ?_⟩
  · unfold render
    rw [hlines]
    rfl
  · exact hat.isOneLine
  · exact ((margin_isOneLine _).append (.literal (by decide))).append
      ((replicate_isOneLine _ (by decide)).append (by unfold IsOneLine; decide))
  · rw [hcaret, Printed.column, Nat.add_left_cancel_iff, Text.byteSize_eq_length_iff]

/-- A brace that closes nothing, behind a comment, is at fault. -/
theorem check_of_commented {w : Text} (hw : '~' ∉ w) :
    Program.check ("~" ++ w ++ "~" ++ "\x7d")
      = .error ⟨.strayCloseBrace, Text.byteSize ("~" ++ w ++ "~")⟩ := by
  have hrule : ∃ r ∈ Rule.table, r.kind = some .comment ∧ r.wholeWord = false
      ∧ r.shape = "~" ++ .many (.one (.noneOf "~")) ++ "~" := by decide
  obtain ⟨r, hr, hkind, hwhole, hshape⟩ := hrule
  have hinner : Pattern.Word (.many (.one (.noneOf "~"))) w := by
    refine Rule.word_many_one_iff.2 fun c hc => CharClass.has_noneOf.2 fun hmem => hw ?_
    obtain rfl : c = '~' := List.mem_singleton.1 hmem
    exact hc
  have hcomment : Piece.IsWhole ⟨some .comment, "~" ++ w ++ "~"⟩ "\x7d" := by
    refine ⟨r, hr, hkind, ?_, fun h => ?_⟩
    · rw [hshape]
      exact .seq (.seq (.text _) hinner) (.text _)
    · rw [hwhole] at h
      cases h
  have hread := tokenize_of_division
    (.cut hcomment (.cut (Piece.isWhole_closeBrace []) .done))
  refine Program.check_eq_error_iff.2 (.inr ⟨_, hread, ?_⟩)
  have hzero := Nat.zero_add (Text.byteSize ("~" ++ w ++ "~"))
  conv => rhs; rw [← hzero]
  rfl

/-- Behind a letter of one byte, the caret is below the brace. -/
theorem caret_counts_bytes_of_ascii :
    Program.check "~a~\x7d" = .error ⟨.strayCloseBrace, 3⟩
      ∧ 3 < Text.byteSize "~a~\x7d"
      ∧ ∃ (above : List Text) (caret : Text), render ⟨.strayCloseBrace, 3⟩ "~a~\x7d" "p.chw"
          = Text.unlines (above ++ [("1 | ~a~\x7d" : Text), caret])
        ∧ caret.idxOf '^' = 7 ∧ ("1 | ~a~\x7d" : Text)[7]? = some '\x7d' := by
  have hcheck : Program.check "~a~\x7d" = .error ⟨.strayCloseBrace, 3⟩ :=
    check_of_commented (w := "a") (by decide)
  have hinside : 3 < Text.byteSize "~a~\x7d" := by decide
  obtain ⟨k, above, caret, hat, hrender, -, -, hchar, -, hbelow⟩ :=
    caret_counts_bytes _ "p.chw" _ hcheck hinside
  have hline : IsLine "~a~\x7d" "" "~a~\x7d" "" :=
    ⟨rfl, fun c hc => by (cases hc), fun c hc => by (cases hc), .literal (by decide)⟩
  have hplace : Printed.IsAt ⟨1, "~a~", '\x7d', ""⟩ "~a~\x7d" 3 :=
    ⟨"", "~a~", '\x7d', "", "", hline, rfl, rfl⟩
  obtain rfl := hat.unique hplace
  have hall : ("~a~" : Text).all (fun d => decide (d.toNat < 128)) = true := by decide
  have hascii : ∀ d ∈ ("~a~" : Text), d.toNat < 128 :=
    fun d hd => of_decide_eq_true (List.all_eq_true.1 hall d hd)
  exact ⟨hcheck, hinside, above, caret, hrender, hbelow.2 hascii, hchar⟩

/-- Behind a letter of two bytes it is not. -/
theorem caret_beside_character :
    Program.check "~é~\x7d" = .error ⟨.strayCloseBrace, 4⟩
      ∧ Text.fromByte? 4 "~é~\x7d" = some "\x7d"
      ∧ (lines ⟨.strayCloseBrace, 4⟩ "~é~\x7d" "p.chw").drop 4 = ["1 | ~é~\x7d", "  | ----^"]
      ∧ ("1 | ~é~\x7d" : Text).idxOf '\x7d' = 7 ∧ ("  | ----^" : Text).idxOf '^' = 8 := by
  have hcheck : Program.check "~é~\x7d" = .error ⟨.strayCloseBrace, 4⟩ :=
    check_of_commented (w := "é") (by decide)
  exact ⟨hcheck, by decide, by decide, by decide, by decide⟩

end Report

end Aula
