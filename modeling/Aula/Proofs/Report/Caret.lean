/-
A report pins the fault: from the number of the line and the column of the
caret, the offset can be told again.

For that, the offset has to have a column in what is shown. A line is shown
without the spaces and tabs it begins with, so the offset must not be among
these. It never is: a fault is where a token begins, where nothing can be
read, or at the end of the source (`Program.exists_cut_of_check`). No blank
is in front there, and so the indentation of the line is over
(`byteSize_indent_le`). The column is then a difference that is never cut off
at zero.
-/
import Aula.Proofs.Program.Relocation
import Aula.Proofs.Report.Wording
import Aula.Proofs.Scan.Lossless

namespace Aula

open Text (IsLine IsOneLine decimal)

-- ============================================================= the offset

/-- A token that is read stands in the source, and no blank is in front
there. -/
theorem Layout.exists_cut {l : Layout} {t : Token} (ht : t ∈ l.tokens) :
    ∃ front back, l.spell = front ++ back ∧ t.offset = front.byteSize
      ∧ ∀ c ∈ back.head?, isBlank c = false := by
  obtain ⟨front, after, heq, hspan⟩ := exists_place l.lead ht
  refine ⟨front, t.lexeme ++ after, heq, congrArg Span.start hspan, ?_⟩
  obtain ⟨e, -, hlexeme⟩ := exists_entry ht
  obtain ⟨r, hr, hkind, hword⟩ := e.word
  have hreads : r.Reads e.text [] := ⟨hword, fun _ => rfl⟩
  obtain ⟨c, text, htext⟩ := List.exists_cons_of_ne_nil (hreads.ne_nil hr)
  have hfirst := (Rule.ends_not_blank hr (by simp [hkind]) hword).1
  rw [hlexeme]
  rw [htext] at hfirst ⊢
  exact hfirst

/-- A fault is found at a place of the source, and no blank is in front
there. -/
theorem Program.exists_cut_of_check {source : Text} {f : Fault} (h : check source = .error f) :
    ∃ front back, source = front ++ back ∧ f.position = front.byteSize
      ∧ ∀ c ∈ back.head?, isBlank c = false := by
  rcases check_eq_error_iff.1 h with hread | ⟨stream, hread, hparse⟩
  · obtain ⟨ps, rest, hps, hstop, hscan⟩ := Scan.exists_stop 0 source
    refine ⟨Piece.spell ps, rest, hps.eq_spell_append, ?_, Rule.not_blank_of_first?_table hstop⟩
    have hoffset := congrArg Scan.offset hscan
    rw [Nat.zero_add] at hoffset
    unfold tokenize Scan.stream at hread
    split at hread
    · cases hread
    · cases hread
      exact hoffset
  · obtain ⟨l, rfl, rfl⟩ := Layout.exists_of_tokenize hread
    obtain ⟨t, ht, hposition⟩ := exists_token_of_parse hparse
    rw [hposition]
    rcases List.mem_append.1 ht with ht | ht
    · exact Layout.exists_cut ht
    · refine ⟨l.spell, [], (List.append_nil _).symm, ?_, fun c hc => by cases hc⟩
      rw [List.mem_singleton.1 ht]
      rfl

namespace Text

-- ==================================================== bytes and characters

theorem utf8Size_eq_one_iff {c : Char} : c.utf8Size = 1 ↔ c.toNat < 128 := by
  rw [Char.utf8Size_eq_one_iff, UInt32.le_iff_toNat_le]
  exact Nat.lt_succ_iff.symm

/-- Every character takes a byte or more. -/
theorem length_le_byteSize (s : Text) : s.length ≤ s.byteSize := by
  induction s with
  | nil => exact Nat.le_refl 0
  | cons c s ih =>
    have hpos := c.utf8Size_pos
    rw [List.length_cons, byteSize_cons]
    omega

/-- Only in ASCII are there as many bytes as characters. -/
theorem byteSize_eq_length_iff {s : Text} : s.byteSize = s.length ↔ ∀ c ∈ s, c.toNat < 128 := by
  induction s with
  | nil => exact iff_of_true rfl (List.forall_mem_nil _)
  | cons c s ih =>
    have hpos := c.utf8Size_pos
    have hle := length_le_byteSize s
    rw [List.forall_mem_cons, ← ih, ← utf8Size_eq_one_iff, byteSize_cons, List.length_cons]
    omega

-- ======================================================== the indentation

theorem takeWhile_append_of_head? {p : Char → Bool} (s : Text) {t : Text}
    (h : ∀ c ∈ t.head?, p c = false) : (s ++ t).takeWhile p = s.takeWhile p := by
  have hstop : t.takeWhile p = [] := by
    cases t with
    | nil => rfl
    | cons c t => exact List.takeWhile_cons_of_neg (by simp [h c rfl])
  rw [List.takeWhile_append, hstop, List.append_nil]
  split
  · next hlength => exact ((List.takeWhile_prefix p).eq_of_length hlength).symm
  · rfl

theorem dropWhile_append_of_head? {p : Char → Bool} (s : Text) {t : Text}
    (h : ∀ c ∈ t.head?, p c = false) : (s ++ t).dropWhile p = s.dropWhile p ++ t := by
  have hsplit : (s ++ t).takeWhile p ++ (s ++ t).dropWhile p
      = s.takeWhile p ++ (s.dropWhile p ++ t) := by
    rw [← List.append_assoc, List.takeWhile_append_dropWhile, List.takeWhile_append_dropWhile]
  rw [takeWhile_append_of_head? s h] at hsplit
  exact List.append_cancel_left hsplit

theorem byteSize_takeWhile_le (p : Char → Bool) (s : Text) :
    byteSize (s.takeWhile p) ≤ byteSize s := by
  conv => rhs; rw [← List.takeWhile_append_dropWhile (p := p) (l := s)]
  rw [byteSize_append]
  exact Nat.le_add_right ..

end Text

namespace Report

theorem isIndent_iff {c : Char} : isIndent c = true ↔ c = ' ' ∨ c = '\t' := by
  unfold isIndent
  rw [Bool.or_eq_true, decide_eq_true_eq, decide_eq_true_eq]

theorem isIndent_of_not_blank {c : Char} (h : isBlank c = false) : isIndent c = false := by
  apply Bool.eq_false_iff.2
  intro hindent
  rcases isIndent_iff.1 hindent with rfl | rfl
  · cases h
  · cases h

/-- The bytes of the indentation are as many as its characters. -/
theorem byteSize_of_isIndent {s : Text} (h : ∀ c ∈ s, isIndent c = true) :
    s.byteSize = s.length := by
  refine Text.byteSize_eq_length_iff.2 fun c hc => ?_
  rcases isIndent_iff.1 (h c hc) with rfl | rfl
  · decide
  · decide

/-- The indentation of a line ends where no blank is in front, if not before. -/
theorem byteSize_indent_le (start : Text) {rest : Text}
    (h : ∀ c ∈ rest.head?, isBlank c = false) :
    Text.byteSize ((start ++ rest).takeWhile isIndent) ≤ start.byteSize := by
  rw [Text.takeWhile_append_of_head? start fun c hc => isIndent_of_not_blank (h c hc)]
  exact Text.byteSize_takeWhile_le isIndent start

-- ============================================================ the excerpt

/-- What stands in front of the bar below and above a line. -/
def margin (number : Nat) : Text := padLeft ' ' ((decimal number).length + 2) "|"

/-- A line is shown as it would be without its newline. -/
theorem excerpt_eq (number : Nat) (line : Text) {tail : Text} (htail : tail = [] ∨ tail = ['\n'])
    (column : Nat) :
    excerpt ⟨number, line ++ tail, column⟩
      = [margin number,
         decimal number ++ " | " ++ Text.trimEnd (line.dropWhile isIndent),
         margin number ++ " "
          ++ (List.replicate (column - Text.byteSize (line.takeWhile isIndent)) '-' ++ ['^'])] := by
  have hstop : ∀ c ∈ tail.head?, isIndent c = false := by
    rcases htail with rfl | rfl
    · exact fun c hc => by cases hc
    · exact fun c hc => by cases hc; rfl
  have hblank : ∀ c ∈ tail, isBlank c = true := by
    rcases htail with rfl | rfl
    · exact List.forall_mem_nil _
    · exact List.forall_mem_singleton.2 rfl
  unfold excerpt
  simp only []
  rw [Text.takeWhile_append_of_head? line hstop, Text.dropWhile_append_of_head? line hstop,
    Text.trimEnd_append_blank _ hblank,
    byteSize_of_isIndent fun c hc => List.mem_takeWhile_imp hc]
  rfl

-- ============================================================= one line

theorem title_isOneLine {f : Fault} (h : f.cause.unquoted.IsOneLine) : (title f).IsOneLine := by
  have hname : IsOneLine (f.stage.name ++ ": " ++ f.cause.name : Text) :=
    (f.stage.name_isOneLine.append (.literal (by decide))).append f.cause.name_isOneLine
  unfold title
  cases htip : f.cause.tip? with
  | none => exact hname
  | some tip =>
    have hshown := Cause.tip_isOneLine h tip htip
    exact ((hname.append (.literal (by decide))).append hshown).append (.literal (by decide))

theorem replicate_isOneLine (n : Nat) {c : Char} (hc : '\n' ≠ c) :
    IsOneLine (List.replicate n c) := by
  intro hmem
  exact hc (List.mem_replicate.1 hmem).2

theorem margin_isOneLine (number : Nat) : (margin number).IsOneLine :=
  (replicate_isOneLine _ (by decide)).append (.literal (by decide))

theorem shown_isOneLine {line : Text} (h : line.IsOneLine) :
    (Text.trimEnd (line.dropWhile isIndent)).IsOneLine := by
  intro hmem
  apply h
  apply (List.dropWhile_suffix isIndent).subset
  exact (List.rdropWhile_prefix isBlank _).subset hmem

-- ============================================================== pinning

/-- The offset can be told from the number of a line, the text that is shown of
it, and the dashes in front of the caret. -/
structure Pins (source : Text) (position number : Nat) (text : Text) (dashes : Nat) : Prop where
  /-- The number is one more than the newlines in front of the offset. -/
  number_eq : ∃ front, source.uptoByte? position = some front
    ∧ number = 1 + front.count '\n'
  /-- The line of that number is the one that the offset is on. -/
  on_line : ∃ before line after, IsLine source before line after
    ∧ number = 1 + before.count '\n'
    ∧ before.byteSize ≤ position ∧ position ≤ before.byteSize + line.byteSize
  /-- It is shown without the spaces and tabs in front and the blanks at the end,
  and the offset is behind those spaces and tabs by the dashes. -/
  recovers : ∀ before line after, IsLine source before line after →
    number = 1 + before.count '\n' →
      text = Text.trimEnd (line.dropWhile isIndent)
        ∧ position = before.byteSize + Text.byteSize (line.takeWhile isIndent) + dashes

/-- The place of a cut in front of which no blank is, and what is shown of its
line. -/
theorem pins_cut (front : Text) {back : Text} (h : ∀ c ∈ back.head?, isBlank c = false) :
    ∃ number text dashes, Pins (front ++ back) front.byteSize number text dashes
      ∧ text.IsOneLine
      ∧ ∃ place, Text.place? (front ++ back) front.byteSize = some place
        ∧ excerpt place = [margin number, decimal number ++ " | " ++ text,
            margin number ++ " " ++ (List.replicate dashes '-' ++ ['^'])] := by
  obtain ⟨before, start, rest, after, hline, rfl, rfl⟩ := Text.exists_isLine front back
  have hrest : ∀ c ∈ rest.head?, isBlank c = false := by
    intro c hc
    apply h
    rw [List.head?_append, Option.mem_def.1 hc]
    rfl
  have hindent := byteSize_indent_le start hrest
  have hcount : (before ++ start).count '\n' = before.count '\n' := by
    have hstart : start.IsOneLine := fun hmem => hline.isOneLine (List.mem_append_left _ hmem)
    rw [List.count_append, List.count_eq_zero_of_not_mem hstart, Nat.add_zero]
  have hcolumn : start.byteSize ≤ Text.byteSize (start ++ rest) := by
    rw [Text.byteSize_append]
    exact Nat.le_add_right ..
  have hexcerpt :=
    excerpt_eq (1 + before.count '\n') (start ++ rest) hline.take_one start.byteSize
  refine ⟨_, _, _, ⟨?_, ?_, ?_⟩, shown_isOneLine hline.isOneLine, _, ?_, hexcerpt⟩
  · exact ⟨_, Text.uptoByte?_byteSize_append _ _, by rw [hcount]⟩
  · refine ⟨before, _, after, hline, rfl, ?_, ?_⟩
    · rw [Text.byteSize_append]
      exact Nat.le_add_right ..
    · rw [Text.byteSize_append, Text.byteSize_append]
      omega
  · intro before' line' after' hline' hnumber
    obtain ⟨rfl, rfl⟩ := hline.unique hline' (by omega)
    refine ⟨rfl, ?_⟩
    rw [Text.byteSize_append]
    omega
  · rw [Text.byteSize_append]
    exact hline.place?_eq hcolumn

/-- The report on a fault has six lines. The offset of the fault is in the source
or at its end, and it can be told from the last two lines: by the number of a
line, the text of that line, and the dashes in front of the caret. -/
theorem pins_fault (source file : Text) (f : Fault) (h : Program.check source = .error f)
    (hfile : file.IsOneLine) :
    f.position ≤ source.byteSize
      ∧ ∃ report : List Text, render f source file = Text.unlines report
        ∧ (∀ l ∈ report, l.IsOneLine)
        ∧ ∃ number text dashes, Pins source f.position number text dashes
          ∧ report = [title f, "   " ++ f.cause.message, "-> " ++ file, margin number,
              decimal number ++ " | " ++ text,
              margin number ++ " " ++ (List.replicate dashes '-' ++ ['^'])] := by
  obtain ⟨front, back, rfl, hposition, hback⟩ := Program.exists_cut_of_check h
  obtain ⟨number, text, dashes, hpins, htext, place, hplace, hexcerpt⟩ := pins_cut front hback
  rw [← hposition] at hpins hplace
  have hunquoted := Program.unquoted_isOneLine h
  have hlines : lines f (front ++ back) file
      = [title f, "   " ++ f.cause.message, "-> " ++ file, margin number,
          decimal number ++ " | " ++ text,
          margin number ++ " " ++ (List.replicate dashes '-' ++ ['^'])] := by
    unfold lines
    rw [hplace]
    exact congrArg _ hexcerpt
  refine ⟨?_, lines f (front ++ back) file, rfl, ?_, number, text, dashes, hpins, ?_⟩
  · rw [hposition, Text.byteSize_append]
    exact Nat.le_add_right ..
  · rw [hlines]
    simp only [List.forall_mem_cons]
    have hmargin := margin_isOneLine number
    refine ⟨title_isOneLine hunquoted, ?_, ?_, hmargin, ?_, ?_, List.forall_mem_nil _⟩
    · exact .append (.literal (by decide)) (Cause.message_isOneLine hunquoted)
    · exact .append (.literal (by decide)) hfile
    · exact ((IsOneLine.decimal number).append (.literal (by decide))).append htext
    · apply (hmargin.append (.literal (by decide))).append
      exact (replicate_isOneLine dashes (by decide)).append (by unfold IsOneLine; decide)
  · exact hlines

/-- A brace that closes nothing, behind a newline, a tab and a `No`: it is shown
on the second line, three columns from where that begins. -/
theorem pins_fault_of_indented_brace :
    Program.check "\n\tNo \x7d" = .error ⟨.strayCloseBrace, 5⟩
      ∧ IsOneLine "p.chw"
      ∧ render ⟨.strayCloseBrace, 5⟩ "\n\tNo \x7d" "p.chw"
        = Text.unlines [title ⟨.strayCloseBrace, 5⟩, "   " ++ Cause.message .strayCloseBrace,
            "-> " ++ "p.chw", "  |", "2 | No \x7d", "  | ---^"] := by
  have hblanks : Piece.IsWhole ⟨none, "\n\t"⟩ "No \x7d" :=
    ⟨List.cons_ne_nil _ _, List.all_eq_true.1 (by decide)⟩
  have hno : Piece.IsWhole ⟨some .otherwise, "No"⟩ " \x7d" :=
    Piece.isWhole_otherwise (by decide +kernel)
  have hblank : Piece.IsWhole ⟨none, " "⟩ "\x7d" :=
    ⟨List.cons_ne_nil _ _, List.all_eq_true.1 (by decide)⟩
  have hread : tokenize "\n\tNo \x7d"
      = .ok ⟨[.reading .otherwise "No" 2, .reading .closeBrace "\x7d" 5], .endOfInput 6, rfl⟩ :=
    tokenize_of_division
      (.cut hblanks (.cut hno (.cut hblank (.cut (Piece.isWhole_closeBrace []) .done))))
  have hcheck : Program.check "\n\tNo \x7d" = .error ⟨.strayCloseBrace, 5⟩ :=
    Program.check_eq_error_iff.2 (.inr ⟨_, hread, rfl⟩)
  have hfile : IsOneLine "p.chw" := .literal (by decide)
  obtain ⟨-, report, hrender, -, number, text, dashes, hpins, rfl⟩ :=
    pins_fault _ _ _ hcheck hfile
  -- the line is the second, for there is one newline in front of the offset
  obtain ⟨front, hfront, hnumber⟩ := hpins.number_eq
  obtain rfl : front = "\n\tNo " := Option.some.inj (hfront.symm.trans (by decide))
  obtain rfl : number = 2 := hnumber
  have hline : IsLine "\n\tNo \x7d" "\n" "\tNo \x7d" [] := by
    refine ⟨rfl, fun c hc => (Option.some.inj hc).symm, fun c hc => ?_, .literal (by decide)⟩
    cases hc
  obtain ⟨rfl, hposition⟩ := hpins.recovers _ _ _ hline (by decide)
  obtain rfl : dashes = 3 := by
    change 5 = 1 + 1 + dashes at hposition
    omega
  exact ⟨hcheck, hfile, hrender⟩

end Report

end Aula
