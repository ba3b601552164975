/-
Where the parts of a condition stand, and that they are found again.

The parts of a condition are the condition without the blanks between them.
So they can be laid out in it (`LaysOut`): each stands behind a gap of
blanks, outside quotes, and an operator of one character is not the
beginning of a longer one.

# Which parts there can be

Of the parts alone, without the text they come from, four things are left
(`Parted`): an operand is not blank at either end and not empty, it holds
operators inside quotes only, it closes its quotes unless it is the last
part, and no two operands are neighbours. That is all there is to know of
them: parts like these, with a space between each two, are cut into the same
again (`Parted.parts_spaced`). Hence a condition may be respelled from its
parts, and nothing is lost but blanks.
-/
import Aula.Proofs.Header.Condition
import Mathlib.Data.List.Chain

namespace Aula

open Text (quotedBehind quotedBehind_append quotedBehind_eq_iff quotedBehind_eq_true_iff)

-- ================================================================ blanks

namespace Text

theorem quotedBehind_of_blank {s : Text} (h : ∀ c ∈ s, isBlank c = true) (quoted : Bool) :
    quotedBehind quoted s = quoted :=
  quotedBehind_of_not_mem (fun hmem => absurd (h _ hmem) (by decide)) quoted

/-- A text that is trimmed keeps its quotes. -/
theorem quotedBehind_trim (quoted : Bool) (s : Text) :
    quotedBehind quoted s.trim = quotedBehind quoted s := by
  obtain ⟨a, b, heq, ha, hb⟩ := s.exists_eq_trim
  conv => rhs; rw [heq]
  rw [quotedBehind_append, quotedBehind_append, quotedBehind_of_blank ha,
    quotedBehind_of_blank hb]

end Text

namespace Operator

/-- No operator begins with a space. -/
theorem read?_space (s : Text) : read? (' ' :: s) = none :=
  read?_eq_none (by decide) s

/-- An operator is read where it stands, unless an equals sign is behind
it. -/
theorem read?_symbol_of_head? (o : Operator) {rest : Text} (h : rest.head? ≠ some '=') :
    read? (o.symbol ++ rest) = some o := by
  cases rest with
  | nil => cases o <;> rfl
  | cons c t => exact o.read?_symbol_append (fun hc => h (congrArg some hc)) t

/-- An operator of one character is not read where it begins a longer
one. -/
theorem head?_ne_equals {o : Operator} (ho : o = .less ∨ o = .greater) {rest : Text}
    (h : read? (o.symbol ++ rest) = some o) : rest.head? ≠ some '=' := by
  intro hhead
  obtain ⟨t, rfl⟩ : ∃ t, rest = '=' :: t := by
    cases rest with
    | nil => cases hhead
    | cons c t => exact ⟨t, congrArg (· :: t) (Option.some.inj hhead)⟩
  rcases ho with rfl | rfl
  · have hlonger : read? (symbol .less ++ '=' :: t) = some .atMost := rfl
    rw [hlonger] at h
    cases h
  · have hlonger : read? (symbol .greater ++ '=' :: t) = some .atLeast := rfl
    rw [hlonger] at h
    cases h

end Operator

namespace Condition

variable {w : Text} {later : List (Operator × Text)}

-- ============================================================= the parts

/-- The parts of a text that is cut: those in front of the first operator,
and those from it on. -/
theorem partsOf_cons (head s : Text) (o : Operator) (tail : List (Operator × Text)) :
    partsOf (head, (o, s) :: tail) = operandPart head ++ .operator o :: partsOf (s, tail) := rfl

/-- An operand on its own: it has no blanks at its ends, and the operators in
it have an odd number of quotes before them. -/
def Part.IsWhole : Part → Prop
  | .operator _ => True
  | .operand s => s.trim = s
      ∧ ∀ before (o : Operator) after, s = before ++ (o.symbol ++ after) →
        ¬ Even (before.count '"')

/-- What the parts of a condition can be. -/
inductive Parted : List Part → Prop where
  | nil : Parted []
  | last {s : Text} (hne : s ≠ []) (hs : (Part.operand s).IsWhole) : Parted [.operand s]
  | operator {o : Operator} {ps : List Part} (hps : Parted ps) : Parted (.operator o :: ps)
  | operand {s : Text} {o : Operator} {ps : List Part} (hne : s ≠ [])
      (hs : (Part.operand s).IsWhole) (hclosed : quotedBehind false s = false)
      (hps : Parted ps) : Parted (.operand s :: .operator o :: ps)

/-- What is passed over is an operand when it is trimmed. -/
theorem Passes.isWhole_trim {rest : Text} (h : Passes false w rest) :
    (Part.operand w.trim).IsWhole := by
  refine ⟨w.trim_trim, fun before o after heq => ?_⟩
  obtain ⟨a, b, hw, ha, -⟩ := w.exists_eq_trim
  have hplace : w = (a ++ before) ++ (o.symbol ++ (after ++ b)) := by
    rw [hw, heq]
    simp only [List.append_assoc]
  have hquoted := h.quoted_of_symbol hplace
  rwa [quotedBehind_append, Text.quotedBehind_of_blank ha, quotedBehind_eq_true_iff] at hquoted

/-- The parts of a text that is cut are such. -/
theorem IsCut.parted {quoted : Bool} (hquoted : quoted = false) (h : IsCut quoted w later) :
    Parted (partsOf (w, later)) := by
  induction h with
  | @last quoted head hpass =>
    subst hquoted
    show Parted (operandPart head ++ [])
    unfold operandPart
    by_cases hblank : head.trim = []
    · rw [if_pos hblank]
      exact .nil
    · rw [if_neg hblank]
      exact .last hblank hpass.isWhole_trim
  | @operator quoted head s o tail hpass hclosed hread hrest ih =>
    subst hquoted
    rw [partsOf_cons]
    unfold operandPart
    by_cases hblank : head.trim = []
    · rw [if_pos hblank]
      exact .operator (ih rfl)
    · rw [if_neg hblank]
      rw [← Text.quotedBehind_trim] at hclosed
      exact .operand hblank hpass.isWhole_trim hclosed (ih rfl)

theorem parted_parts (t : Text) : Parted (parts t) :=
  (isCut_cut false t).parted rfl

namespace Parted

variable {ps : List Part}

/-- Every part is an operator or an operand on its own, and not empty. -/
theorem isWhole (h : Parted ps) : ∀ part ∈ ps, part.text ≠ [] ∧ part.IsWhole := by
  have hsymbol : ∀ o : Operator, o.symbol ≠ [] :=
    fun o => List.ne_nil_of_length_pos o.symbol_length_pos
  induction h with
  | nil => exact List.forall_mem_nil _
  | last hne hs => exact List.forall_mem_singleton.2 ⟨hne, hs⟩
  | operator hps ih => exact List.forall_mem_cons.2 ⟨⟨hsymbol _, trivial⟩, ih⟩
  | operand hne hs hclosed hps ih =>
    exact List.forall_mem_cons.2
      ⟨⟨hne, hs⟩, List.forall_mem_cons.2 ⟨⟨hsymbol _, trivial⟩, ih⟩⟩

/-- One of two neighbours is an operator. -/
theorem isChain (h : Parted ps) :
    ps.IsChain fun p q => ∃ o, p = .operator o ∨ q = .operator o := by
  induction h with
  | nil => exact .nil
  | last => exact .singleton _
  | @operator o ps hps ih =>
    cases ps with
    | nil => exact .singleton _
    | cons p ps => exact .cons_cons ⟨o, .inl rfl⟩ ih
  | @operand s o ps hne hs hclosed hps ih =>
    refine .cons_cons ⟨o, .inr rfl⟩ ?_
    cases ps with
    | nil => exact .singleton _
    | cons p ps => exact .cons_cons ⟨o, .inl rfl⟩ ih

end Parted

-- =========================================================== the layout

/-- Parts with gaps in front of them, and what is behind the last one. -/
def layOut (entries : List (Text × Part)) (last : Text) : Text :=
  entries.flatMap (fun (gap, part) => gap ++ part.text) ++ last

/-- The text is parts and the gaps around them. -/
structure LaysOut (t : Text) (entries : List (Text × Part)) (last : Text) : Prop where
  whole : layOut entries last = t
  /-- The gaps are blank. -/
  blank : ∀ e ∈ entries, ∀ c ∈ e.1, isBlank c = true
  blank_last : ∀ c ∈ last, isBlank c = true
  /-- There is an even number of quotes before each part. -/
  unquoted : ∀ before gap part after, entries = before ++ (gap, part) :: after →
    Even ((layOut before gap).count '"')
  /-- No operator is the beginning of a longer one. -/
  longest : ∀ before gap o after, entries = before ++ (gap, .operator o) :: after →
    (o = .less ∨ o = .greater) → (layOut after last).head? ≠ some '='

theorem layOut_cons (gap : Text) (part : Part) (entries : List (Text × Part)) (last : Text) :
    layOut ((gap, part) :: entries) last = gap ++ (part.text ++ layOut entries last) := by
  simp [layOut]

namespace LaysOut

variable {t gap last : Text} {entries : List (Text × Part)}

theorem nil (h : ∀ c ∈ last, isBlank c = true) : LaysOut last [] last where
  whole := rfl
  blank := List.forall_mem_nil _
  blank_last := h
  unquoted := by
    intro before gap part after heq
    simp at heq
  longest := by
    intro before gap o after heq
    simp at heq

/-- A part in front of all others. It has to close its quotes, if there are
others. -/
theorem cons (part : Part) (hgap : ∀ c ∈ gap, isBlank c = true)
    (hclosed : entries ≠ [] → quotedBehind false part.text = false)
    (hlongest : ∀ o, part = .operator o → (o = .less ∨ o = .greater) → t.head? ≠ some '=')
    (h : LaysOut t entries last) :
    LaysOut (gap ++ (part.text ++ t)) ((gap, part) :: entries) last where
  whole := by rw [layOut_cons, h.whole]
  blank := List.forall_mem_cons.2 ⟨hgap, h.blank⟩
  blank_last := h.blank_last
  unquoted := by
    intro before gap' part' after heq
    rw [← quotedBehind_eq_iff false]
    cases before with
    | nil =>
      obtain ⟨⟨rfl, rfl⟩, rfl⟩ : (gap = gap' ∧ part = part') ∧ entries = after := by
        simpa using heq
      exact Text.quotedBehind_of_blank hgap false
    | cons e before =>
      obtain ⟨rfl, rfl⟩ := List.cons.inj heq
      have hbehind := h.unquoted before gap' part' after rfl
      rw [← quotedBehind_eq_iff false] at hbehind
      rw [layOut_cons, quotedBehind_append, quotedBehind_append,
        Text.quotedBehind_of_blank hgap, hclosed (by simp), hbehind]
  longest := by
    intro before gap' o after heq
    cases before with
    | nil =>
      obtain ⟨⟨rfl, rfl⟩, rfl⟩ : (gap = gap' ∧ part = .operator o) ∧ entries = after := by
        simpa using heq
      rw [h.whole]
      exact hlongest o rfl
    | cons e before =>
      obtain ⟨rfl, rfl⟩ := List.cons.inj heq
      exact h.longest before gap' o after rfl

/-- An operand in front of all other parts. -/
theorem operand {s : Text} (hgap : ∀ c ∈ gap, isBlank c = true)
    (hclosed : entries ≠ [] → quotedBehind false s = false) (h : LaysOut t entries last) :
    LaysOut (gap ++ (s ++ t)) ((gap, .operand s) :: entries) last :=
  cons (.operand s) hgap hclosed (fun _ ho => nomatch ho) h

/-- An operator in front of all other parts. -/
theorem operator {o : Operator} (hgap : ∀ c ∈ gap, isBlank c = true)
    (hread : Operator.read? (o.symbol ++ t) = some o) (h : LaysOut t entries last) :
    LaysOut (gap ++ (o.symbol ++ t)) ((gap, .operator o) :: entries) last := by
  refine cons (.operator o) hgap (fun _ => o.quotedBehind_symbol false) ?_ h
  rintro o' ⟨⟩ ho
  exact Operator.head?_ne_equals ho hread

end LaysOut

/-- A text that is cut is laid out in its parts. -/
theorem IsCut.exists_laysOut {quoted : Bool} (hquoted : quoted = false)
    (h : IsCut quoted w later) :
    ∃ entries last, entries.map Prod.snd = partsOf (w, later)
      ∧ LaysOut (spell (w, later)) entries last := by
  induction h with
  | @last quoted head hpass =>
    obtain ⟨a, b, heq, ha, hb⟩ := head.exists_eq_trim
    have hspell : spell (head, []) = head := List.append_nil head
    have hparts : partsOf (head, []) = operandPart head := List.append_nil _
    rw [hspell, hparts]
    unfold operandPart
    by_cases hblank : head.trim = []
    · rw [if_pos hblank]
      exact ⟨[], head, rfl, .nil (Text.trim_eq_nil_iff.1 hblank)⟩
    · rw [if_neg hblank]
      refine ⟨[(a, .operand head.trim)], b, rfl, ?_⟩
      conv => arg 1; rw [heq]
      exact .operand ha (fun h => absurd rfl h) (.nil hb)
  | @operator quoted head s o tail hpass hclosed hread hrest ih =>
    subst hquoted
    obtain ⟨a, b, heq, ha, hb⟩ := head.exists_eq_trim
    obtain ⟨entries, last, hentries, hlays⟩ := ih rfl
    have hoperator : ∀ gap, (∀ c ∈ gap, isBlank c = true) →
        LaysOut (gap ++ (o.symbol ++ spell (s, tail))) ((gap, .operator o) :: entries) last :=
      fun gap hgap => .operator hgap hread hlays
    rw [partsOf_cons, ← hentries, spell_head, spell_operator]
    unfold operandPart
    by_cases hblank : head.trim = []
    · rw [if_pos hblank]
      exact ⟨_, last, rfl, hoperator head (Text.trim_eq_nil_iff.1 hblank)⟩
    · rw [if_neg hblank]
      refine ⟨(a, .operand head.trim) :: (b, .operator o) :: entries, last, rfl, ?_⟩
      conv => arg 1; rw [heq, List.append_assoc, List.append_assoc]
      rw [← Text.quotedBehind_trim] at hclosed
      exact .operand ha (fun _ => hclosed) (hoperator b hb)

/-- A condition is laid out in its parts. -/
theorem exists_laysOut (t : Text) :
    ∃ entries last, entries.map Prod.snd = parts t ∧ LaysOut t entries last := by
  obtain ⟨entries, last, hentries, hlays⟩ := (isCut_cut false t).exists_laysOut rfl
  have hspell : spell ((cut false t).1, (cut false t).2) = t := spell_cut false t
  rw [hspell] at hlays
  exact ⟨entries, last, hentries, hlays⟩

-- ============================================================ respelling

/-- Parts with a space between each two of them. -/
def spaced (ps : List Part) : Text := [' '].intercalate (ps.map Part.text)

theorem spaced_singleton (p : Part) : spaced [p] = p.text := List.intercalate_singleton ..

theorem spaced_cons (p q : Part) (ps : List Part) :
    spaced (p :: q :: ps) = p.text ++ ' ' :: spaced (q :: ps) := by
  simp [spaced, List.intercalate_cons_cons]

/-- Behind a part there is nothing or a space. -/
theorem exists_spaced_cons (p : Part) (ps : List Part) :
    ∃ rest, spaced (p :: ps) = p.text ++ rest ∧ (rest = [] ∨ ∃ t, rest = ' ' :: t) := by
  cases ps with
  | nil => exact ⟨[], (spaced_singleton p).trans (List.append_nil _).symm, .inl rfl⟩
  | cons q ps => exact ⟨_, spaced_cons p q ps, .inr ⟨_, rfl⟩⟩

theorem head?_of_spaced {rest : Text} (h : rest = [] ∨ ∃ t, rest = ' ' :: t) :
    rest.head? ≠ some '=' := by
  rcases h with rfl | ⟨t, rfl⟩
  · nofun
  · simp

/-- An operand is passed over where nothing or a space is behind it. -/
theorem Part.IsWhole.passes (h : (Part.operand w).IsWhole) {rest : Text}
    (hrest : rest = [] ∨ ∃ t, rest = ' ' :: t) : Passes false w rest := by
  intro before c after heq hout
  rw [Operator.read?_eq_none_iff]
  rintro o ⟨u, hu⟩
  -- an operator that reaches into what is behind would have a space in it
  have hinside : ∃ v, c :: after = o.symbol ++ v := by
    rcases List.append_eq_append_iff.1 (hu.trans (List.cons_append ..).symm) with
      ⟨v, hv, -⟩ | ⟨v, hv, hbehind⟩
    · exact ⟨v, hv⟩
    · rcases hrest with rfl | ⟨t, rfl⟩
      · exact ⟨[], by rw [hv, (List.append_eq_nil_iff.1 hbehind.symm).1]; simp⟩
      · cases v with
        | nil => exact ⟨[], by rw [hv]; simp⟩
        | cons d v =>
          have hd : d ∈ o.symbol := by rw [hv]; simp
          obtain rfl : ' ' = d := (List.cons.inj hbehind).1
          cases o <;> exact absurd hd (by decide)
  obtain ⟨v, hv⟩ := hinside
  refine h.2 before o v (by rw [heq, hv]) ?_
  rwa [← quotedBehind_eq_iff false]

/-- An operator in front of a text is its first part. -/
theorem parts_operator {o : Operator} {rest : Text}
    (h : Operator.read? (o.symbol ++ rest) = some o) :
    parts (o.symbol ++ rest) = .operator o :: parts rest := by
  show partsOf (cut false _) = .operator o :: partsOf (cut false rest)
  rw [cut_operator h]
  rfl

/-- A space in front of a text changes nothing. -/
theorem parts_space (t : Text) : parts (' ' :: t) = parts t := by
  have hpass : Passes false [' '] t := .cons (fun _ => Operator.read?_space _) .nil
  have hcut := cut_append hpass
  have hspace : ∀ head, operandPart ([' '] ++ head) = operandPart head := by
    intro head
    unfold operandPart
    rw [Text.trim_blank_append (List.all_eq_true.1 (by decide))]
  show partsOf (cut false ([' '] ++ t)) = partsOf (cut false t)
  rw [hcut]
  show operandPart ([' '] ++ _) ++ _ = operandPart _ ++ _
  rw [hspace]
  rfl

/-- A text that is an operand is its only part. -/
theorem parts_operand (hne : w ≠ []) (h : (Part.operand w).IsWhole) :
    parts w = [.operand w] := by
  have hcut : IsCut false w [] := .last (h.passes (.inl rfl))
  have hspell : spell (w, []) = w := List.append_nil w
  show partsOf (cut false w) = _
  rw [← hspell, hcut.cut_eq, hspell]
  show operandPart w ++ [] = _
  unfold operandPart
  rw [h.1, if_neg hne]
  rfl

/-- An operand in front of an operator, with a space between them, is the
first part. -/
theorem parts_operand_append (hne : w ≠ []) (h : (Part.operand w).IsWhole)
    (hclosed : quotedBehind false w = false) {o : Operator} {rest : Text}
    (hread : Operator.read? (o.symbol ++ rest) = some o) :
    parts (w ++ ' ' :: (o.symbol ++ rest)) = .operand w :: parts (o.symbol ++ rest) := by
  have hspace : Passes false [' '] (o.symbol ++ rest) :=
    .cons (fun _ => Operator.read?_space _) .nil
  have hcut : cut false (' ' :: (o.symbol ++ rest)) = ([' '], (cut false (o.symbol ++ rest)).2) := by
    have hquote : quotedBehind false [' '] = false := rfl
    rw [← List.singleton_append, cut_append hspace, hquote, cut_operator hread]
    rfl
  show partsOf (cut false _) = .operand w :: partsOf (cut false _)
  rw [cut_append (h.passes (.inr ⟨_, rfl⟩)), hclosed, hcut, cut_operator hread]
  show operandPart (w ++ [' ']) ++ _ = _
  unfold operandPart
  rw [Text.trim_append_blank _ (List.all_eq_true.1 (by decide)), h.1, if_neg hne]
  rfl

/-- An operator in front of parts that are found again is found with
them. -/
theorem parts_spaced_operator {o : Operator} {ps : List Part} (h : parts (spaced ps) = ps) :
    parts (spaced (.operator o :: ps)) = .operator o :: ps := by
  obtain ⟨rest, heq, hrest⟩ := exists_spaced_cons (.operator o) ps
  rw [heq]
  show parts (o.symbol ++ rest) = _
  rw [parts_operator (o.read?_symbol_of_head? (head?_of_spaced hrest))]
  cases ps with
  | nil =>
    rw [spaced_singleton] at heq
    obtain rfl : rest = [] := List.append_right_eq_self.1 heq.symm
    exact congrArg _ h
  | cons p ps =>
    rw [spaced_cons] at heq
    rw [← List.append_cancel_left heq, parts_space, h]

/-- Parts are found again where a space is between each two of them. -/
theorem Parted.parts_spaced {ps : List Part} (h : Parted ps) : parts (spaced ps) = ps := by
  induction h with
  | nil =>
    show partsOf (cut false []) = []
    rw [cut]
    rfl
  | @last s hne hs =>
    rw [spaced_singleton]
    exact parts_operand hne hs
  | operator hps ih => exact parts_spaced_operator ih
  | @operand s o ps hne hs hclosed hps ih =>
    obtain ⟨rest, heq, hrest⟩ := exists_spaced_cons (.operator o) ps
    have hoperator := parts_spaced_operator (o := o) ih
    rw [spaced_cons]
    rw [heq] at hoperator ⊢
    show parts (s ++ ' ' :: (o.symbol ++ rest)) = _
    rw [parts_operand_append hne hs hclosed (o.read?_symbol_of_head? (head?_of_spaced hrest))]
    exact congrArg _ hoperator

/-- Whether a condition is accepted depends on its parts. -/
theorem check_of_parts {t t' : Text} (hparts : parts t' = parts t) (h : check t = .ok ()) :
    check t' = .ok () := by
  obtain ⟨first, later, halternate, hwords⟩ := exists_alternate_of_check h
  rw [← hparts] at halternate
  by_cases hnil : later = []
  · rw [if_pos hnil] at hwords
    subst hnil
    exact check_of_name halternate hwords
  · rw [if_neg hnil] at hwords
    exact check_of_operands halternate hnil hwords.1 hwords.2

/-- The parts of a condition are laid out in it with blanks between them;
they are operators, and operands that hold none outside quotes; no two
operands are neighbours. With single spaces between them they are the parts
of another condition, which is accepted exactly if this one is. -/
theorem parts_stable (t : Text) :
    (∃ entries last, entries.map Prod.snd = parts t ∧ LaysOut t entries last)
      ∧ (∀ part ∈ parts t, part.text ≠ [] ∧ part.IsWhole)
      ∧ (∀ before s s' after, parts t ≠ before ++ .operand s :: .operand s' :: after)
      ∧ parts (spaced (parts t)) = parts t
      ∧ (check (spaced (parts t)) = .ok () ↔ check t = .ok ()) := by
  have hparted := parted_parts t
  have hagain := hparted.parts_spaced
  refine ⟨exists_laysOut t, hparted.isWhole, fun before s s' after heq => ?_, hagain,
    check_of_parts hagain.symm, check_of_parts hagain⟩
  have hchain := hparted.isChain
  rw [heq] at hchain
  obtain ⟨o, ho | ho⟩ := (List.isChain_append_cons_cons.1 hchain).2.1
  · cases ho
  · cases ho

end Condition

end Aula
