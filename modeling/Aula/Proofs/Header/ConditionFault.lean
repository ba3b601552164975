/-
Which fault is found in a condition.

The parts of a condition alternate by themselves as far as operators go: no
two operands are neighbours. So an operand never stands where an operator
should, and that fault is not found in any condition. What can be wrong is
what stands at an even place, where an operand should be: the first part
there that is none is to blame (`IsFirstEven`). If none is to blame, the
condition either ends as it should or breaks off behind an operator
(`Dangles`).

# Breaking off

That a condition breaks off is a matter of its parts, and the grammar says
the same of its text (`word_dangling_iff_parts`): operands with an operator
between each two of them, one more operator, and blanks. Both directions go
through the text as it is cut.
-/
import Aula.Proofs.Header.Placement

namespace Aula

open Pattern (Word many)
open Grammar (padded operand operator)

/-- A condition that breaks off: operands with an operator between each two
of them, and one more operator. -/
def Grammar.dangling : Pattern :=
  padded operand ++ many (operator ++ padded operand) ++ (operator ++ Shape.blanks)

-- =============================================================== misfits

namespace Operand

/-- What is wrong with a word that should have had a shape: that it is
reserved, or else that it does not have it. -/
def misfit (word context : Text) : Cause :=
  if Keyword.isReserved word then .reservedWord word context else .invalidOperand word context

/-- A check of a shape finds nothing else. -/
theorem checkShape_eq_error_iff {shape : Text → Bool} {word context : Text} {cause : Cause} :
    checkShape shape word context = .error cause
      ↔ ¬ (Keyword.isReserved word = false ∧ shape word = true)
        ∧ cause = misfit word context := by
  unfold checkShape misfit
  by_cases hreserved : Keyword.isReserved word = true
  · rw [if_pos hreserved, if_pos hreserved, Except.error.injEq, and_iff_right (by simp [hreserved])]
    exact eq_comm
  · by_cases hshape : shape word = true
    · simp [hreserved, hshape]
    · rw [if_neg hreserved, if_neg hreserved, if_neg hshape, Except.error.injEq,
        and_iff_right (by simp [hshape])]
      exact eq_comm

theorem checkIdentifier_eq_error_iff {word context : Text} {cause : Cause} :
    checkIdentifier word context = .error cause
      ↔ ¬ Word Shape.name word ∧ cause = misfit word context := by
  rw [word_name_iff]
  exact checkShape_eq_error_iff

theorem check_eq_error_iff {word context : Text} {cause : Cause} :
    check word context = .error cause ↔ ¬ Word operand word ∧ cause = misfit word context := by
  rw [word_operand_iff]
  exact checkShape_eq_error_iff

end Operand

open Operand (misfit)

namespace Condition

-- =========================================================== even places

variable {holds : Part → Prop} {part : Part}

/-- The first of the parts at even places, counted from 0, for which
something holds. -/
def IsFirstEven (holds : Part → Prop) (part : Part) (ps : List Part) : Prop :=
  ∃ i, ps[2 * i]? = some part ∧ holds part ∧ ∀ j < i, ∀ q, ps[2 * j]? = some q → ¬ holds q

theorem not_isFirstEven_nil : ¬ IsFirstEven holds part [] := by
  rintro ⟨i, hpart, -⟩
  simp at hpart

theorem isFirstEven_singleton {p : Part} :
    IsFirstEven holds part [p] ↔ holds p ∧ part = p := by
  constructor
  · rintro ⟨i, hpart, hholds, -⟩
    cases i with
    | zero =>
      obtain rfl : p = part := Option.some.inj hpart
      exact ⟨hholds, rfl⟩
    | succ i => cases hpart
  · rintro ⟨hholds, rfl⟩
    exact ⟨0, rfl, hholds, fun j hj => absurd hj (Nat.not_lt_zero j)⟩

/-- Behind the first two parts the places are even and odd as they were. -/
theorem isFirstEven_cons_cons {p q : Part} {ps : List Part} :
    IsFirstEven holds part (p :: q :: ps)
      ↔ (holds p ∧ part = p) ∨ (¬ holds p ∧ IsFirstEven holds part ps) := by
  constructor
  · rintro ⟨i, hpart, hholds, hbefore⟩
    cases i with
    | zero =>
      obtain rfl : p = part := Option.some.inj hpart
      exact .inl ⟨hholds, rfl⟩
    | succ i =>
      refine .inr ⟨hbefore 0 (Nat.zero_lt_succ i) p rfl, i, hpart, hholds, fun j hj => ?_⟩
      exact hbefore (j + 1) (Nat.succ_lt_succ hj)
  · rintro (⟨hholds, rfl⟩ | ⟨hp, i, hpart, hholds, hbefore⟩)
    · exact ⟨0, rfl, hholds, fun j hj => absurd hj (Nat.not_lt_zero j)⟩
    · refine ⟨i + 1, hpart, hholds, fun j hj => ?_⟩
      cases j with
      | zero =>
        intro r hr
        obtain rfl : p = r := Option.some.inj hr
        exact hp
      | succ j => exact hbefore j (Nat.lt_of_succ_lt_succ hj)

-- ============================================================ alternation

/-- Operands, with an operator behind each. -/
inductive Dangles : List Part → Prop where
  | nil : Dangles []
  | more {s : Text} {o : Operator} {ps : List Part} (hs : Word operand s) (hps : Dangles ps) :
      Dangles (.operand s :: .operator o :: ps)

/-- They are operands with operators between them, and one more operator. -/
theorem dangles_iff {ps : List Part} (hne : ps ≠ []) :
    Dangles ps ↔ ∃ first later o, ps = alternate first later ++ [.operator o]
      ∧ Word operand first ∧ ∀ x ∈ later, Word operand x.2 := by
  constructor
  · intro h
    induction h with
    | nil => exact absurd rfl hne
    | @more s o ps hs hps ih =>
      cases hps with
      | nil => exact ⟨s, [], o, rfl, hs, List.forall_mem_nil _⟩
      | more =>
        obtain ⟨first, later, o', heq, hfirst, hlater⟩ := ih (List.cons_ne_nil _ _)
        refine ⟨s, (o, first) :: later, o', ?_, hs, List.forall_mem_cons.2 ⟨hfirst, hlater⟩⟩
        rw [heq, alternate_cons]
        rfl
  · rintro ⟨first, later, o, rfl, hfirst, hlater⟩
    clear hne
    induction later generalizing first with
    | nil => exact .more hfirst .nil
    | cons x later ih =>
      obtain ⟨o', s⟩ := x
      obtain ⟨hs, hlater⟩ := List.forall_mem_cons.1 hlater
      rw [alternate_cons]
      exact .more hfirst (ih s hs hlater)

/-- Where no two operands are neighbours, the first part at an even place
that is no operand is found, or else that the parts break off. -/
theorem checkAlternation_eq_error_iff {condition : Text} {ps : List Part} {cause : Cause}
    (hchain : ps.IsChain fun p q => ∃ o, p = .operator o ∨ q = .operator o) :
    checkAlternation condition ps = .error cause
      ↔ (Dangles ps ∧ cause = .danglingOperator condition)
        ∨ ∃ part, IsFirstEven (¬ Word operand ·.text) part ps
          ∧ cause = misfit part.text condition := by
  fun_induction checkAlternation condition ps with
  | case1 =>
    constructor
    · intro h
      cases h
      exact .inl ⟨.nil, rfl⟩
    · rintro (⟨-, rfl⟩ | ⟨part, hfirst, -⟩)
      · rfl
      · exact absurd hfirst not_isFirstEven_nil
  | case2 p =>
    rw [Operand.check_eq_error_iff]
    constructor
    · rintro ⟨hp, rfl⟩
      exact .inr ⟨p, isFirstEven_singleton.2 ⟨hp, rfl⟩, rfl⟩
    · rintro (⟨hdangles, -⟩ | ⟨part, hfirst, rfl⟩)
      · cases hdangles
      · obtain ⟨hp, rfl⟩ := isFirstEven_singleton.1 hfirst
        exact ⟨hp, rfl⟩
  | case3 p q ps e he =>
    obtain ⟨hp, rfl⟩ := Operand.check_eq_error_iff.1 he
    constructor
    · intro h
      cases h
      exact .inr ⟨p, isFirstEven_cons_cons.2 (.inl ⟨hp, rfl⟩), rfl⟩
    · rintro (⟨hdangles, -⟩ | ⟨part, hfirst, rfl⟩)
      · cases hdangles with
        | more hs => exact absurd hs hp
      · obtain ⟨-, rfl⟩ := (isFirstEven_cons_cons.1 hfirst).resolve_right fun h => h.1 hp
        rfl
  | case4 p ps hp s =>
    -- two operands would be neighbours
    obtain ⟨s', rfl, -⟩ := exists_operand (Operand.check_eq_ok_iff_operand.1 hp)
    obtain ⟨o, ho | ho⟩ := (List.isChain_cons_cons.1 hchain).1
    · cases ho
    · cases ho
  | case5 p ps hp o ih =>
    obtain ⟨s, rfl, hs⟩ := exists_operand (Operand.check_eq_ok_iff_operand.1 hp)
    rw [ih (List.isChain_cons_cons.1 hchain).2.tail]
    have hdangles : Dangles (.operand s :: .operator o :: ps) ↔ Dangles ps := by
      constructor
      · intro h
        cases h with
        | more _ hps => exact hps
      · exact .more hs
    rw [hdangles]
    refine or_congr_right (exists_congr fun part => and_congr_left fun _ => ?_)
    rw [isFirstEven_cons_cons]
    simp [Part.text, hs]

-- =========================================================== breaking off

/-- The words of the grammar, taken apart at their operators. -/
theorem word_dangling_iff {t : Text} :
    Word Grammar.dangling t
      ↔ ∃ head tail o b, t = spell (head, tail ++ [(o, b)]) ∧ Word (padded operand) head
        ∧ (∀ x ∈ tail, Word (padded operand) x.2) ∧ ∀ c ∈ b, isBlank c = true := by
  unfold Grammar.dangling
  rw [Pattern.word_append_iff]
  simp only [Pattern.word_append_iff (p := padded operand),
    Pattern.word_many_iff word_operator_append_iff, word_operator_append_iff,
    Pattern.word_blanks_iff]
  constructor
  · rintro ⟨_, _, rfl, ⟨head, _, rfl, hhead, tail, htail, rfl⟩, ⟨o, b⟩, hb, rfl⟩
    exact ⟨head, tail, o, b, by simp [spell], hhead, htail, hb⟩
  · rintro ⟨head, tail, o, b, rfl, hhead, htail, hb⟩
    exact ⟨_, _, by simp [spell], ⟨head, _, rfl, hhead, tail, htail, rfl⟩, (o, b), hb, rfl⟩

/-- Blanks are passed over. -/
theorem Passes.of_blank {b : Text} (hb : ∀ c ∈ b, isBlank c = true) (rest : Text) :
    Passes false b rest := by
  have hmarks : ∀ c ∈ ("=!<>&|" : Text), (!isBlank c) = true :=
    List.all_eq_true.1 (by decide)
  refine .of_isClear (.of_not_mem fun c hc hmem => ?_) rest
  have hmark := hmarks c hmem
  rw [hb c hc] at hmark
  cases hmark

/-- The blanks behind an operator are none of a longer one. -/
theorem head?_of_blank {b : Text} (hb : ∀ c ∈ b, isBlank c = true) : b.head? ≠ some '=' := by
  intro hhead
  have hblank := hb '=' (List.mem_of_head? hhead)
  exact absurd hblank (by decide)

/-- The parts of a text whose last piece is behind an operator. -/
theorem partsOf_append (head : Text) (tail : List (Operator × Text)) (o : Operator) (b : Text) :
    partsOf (head, tail ++ [(o, b)]) = partsOf (head, tail) ++ .operator o :: operandPart b := by
  simp [partsOf]

/-- Where the last part is an operator, nothing but blanks is behind it. -/
theorem exists_of_partsOf_eq_append {head : Text} {pieces : List (Operator × Text)}
    {ps : List Part} {o : Operator} (h : partsOf (head, pieces) = ps ++ [.operator o]) :
    ∃ tail b, pieces = tail ++ [(o, b)] ∧ b.trim = [] ∧ partsOf (head, tail) = ps := by
  rcases List.eq_nil_or_concat' pieces with rfl | ⟨tail, ⟨o', b⟩, rfl⟩
  · have hlast := congrArg List.getLast? h
    unfold partsOf operandPart at hlast
    by_cases hblank : head.trim = []
    · simp [hblank] at hlast
    · simp [hblank] at hlast
  · rw [partsOf_append] at h
    unfold operandPart at h
    by_cases hblank : b.trim = []
    · rw [if_pos hblank] at h
      obtain ⟨rfl, ho⟩ := List.append_inj' h rfl
      cases ho
      exact ⟨tail, b, rfl, hblank, rfl⟩
    · rw [if_neg hblank] at h
      have hlast := congrArg List.getLast? h
      simp at hlast

/-- Behind an operand, an operator and the blanks behind that are cut off. -/
theorem isCut_of_blank {u b : Text} (o : Operator) (hu : Word (padded operand) u)
    (hb : ∀ c ∈ b, isBlank c = true) : IsCut false u [(o, b)] := by
  obtain ⟨hpass, hclosed⟩ := isOperand_operand.passes hu (spell ([], [(o, b)]))
  have hspell : spell (b, []) = b := List.append_nil b
  refine .operator hpass hclosed ?_ (.last (.of_blank hb []))
  rw [hspell]
  exact o.read?_symbol_of_head? (head?_of_blank hb)

/-- A condition breaks off exactly if its parts do. -/
theorem word_dangling_iff_parts {t : Text} :
    Word Grammar.dangling t ↔ ∃ first later o, parts t = alternate first later ++ [.operator o]
      ∧ Word operand first ∧ ∀ x ∈ later, Word operand x.2 := by
  have hoperand := isOperand_operand
  rw [word_dangling_iff]
  constructor
  · rintro ⟨head, tail, o, b, rfl, hhead, htail, hb⟩
    have hfirst := hoperand.word_padded_iff.1 hhead
    have hlater : ∀ x ∈ tail.map fun x => (x.1, x.2.trim), Word operand x.2 := by
      simp only [List.forall_mem_map]
      exact fun x hx => hoperand.word_padded_iff.1 (htail x hx)
    have hending : ∀ u, Word (padded operand) u → IsCut false u [(o, b)] :=
      fun _ hu => isCut_of_blank o hu hb
    have halternate := partsOf_eq_alternate_iff.2
      ⟨hoperand.ne_nil hfirst, fun x hx => hoperand.ne_nil (hlater x hx), rfl, rfl⟩
    refine ⟨_, _, o, ?_, hfirst, hlater⟩
    show partsOf (cut false _) = _
    rw [(hoperand.isCut_append hending hhead htail).cut_eq, partsOf_append, halternate]
    unfold operandPart
    rw [if_pos (Text.trim_eq_nil_iff.2 hb)]
  · rintro ⟨first, later, o, hparts, hfirst, hlater⟩
    obtain ⟨tail, b, hpieces, hblank, hbefore⟩ := exists_of_partsOf_eq_append hparts
    obtain ⟨-, -, rfl, rfl⟩ := partsOf_eq_alternate_iff.1 hbefore
    have hspell : spell ((cut false t).1, (cut false t).2) = t := spell_cut false t
    refine ⟨_, tail, o, b, ?_, hoperand.word_padded_iff.2 hfirst, ?_,
      Text.trim_eq_nil_iff.1 hblank⟩
    · rw [← hpieces, hspell]
    · intro x hx
      exact hoperand.word_padded_iff.2 (hlater _ (List.mem_map_of_mem hx))

-- ================================================================= faults

/-- Of a blank condition there are no parts, and of no other. -/
theorem parts_eq_nil_iff {t : Text} : parts t = [] ↔ ∀ c ∈ t, isBlank c = true := by
  constructor
  · intro h
    obtain ⟨entries, last, hentries, hlays⟩ := exists_laysOut t
    rw [h, List.map_eq_nil_iff] at hentries
    subst hentries
    rw [← hlays.whole]
    exact hlays.blank_last
  · intro h
    have hcut : IsCut false t [] := .last (.of_blank h [])
    have hspell : spell (t, []) = t := List.append_nil t
    show partsOf (cut false t) = []
    rw [← hspell, hcut.cut_eq]
    show operandPart t ++ [] = []
    unfold operandPart
    rw [if_pos (Text.trim_eq_nil_iff.2 h)]
    rfl

/-- What is wrong with a condition. -/
inductive Blames (t : Text) : Cause → Prop where
  /-- There is nothing in it. -/
  | blank (h : ∀ c ∈ t, isBlank c = true) : Blames t .emptyCondition
  /-- It breaks off behind an operator. -/
  | dangling (h : Word Grammar.dangling t) : Blames t (.danglingOperator t)
  /-- All that is in it is not a variable. -/
  | alone {part : Part} (hparts : parts t = [part]) (hname : ¬ Word Shape.name part.text) :
      Blames t (misfit part.text t)
  /-- A part at an even place is not an operand, the first one of these. -/
  | misfit {part : Part} (hseveral : 1 < (parts t).length)
      (hfirst : IsFirstEven (¬ Word operand ·.text) part (parts t)) :
      Blames t (misfit part.text t)

variable {t : Text} {cause : Cause}

/-- Without parts there is nothing to check. -/
theorem check_of_nil (h : parts t = []) : check t = .error .emptyCondition := by
  unfold check
  rw [h]

/-- A part that is alone is checked to be a variable. -/
theorem check_of_singleton {p : Part} (h : parts t = [p]) :
    check t = Operand.checkIdentifier p.text t := by
  unfold check
  rw [h]

/-- Several parts are checked to alternate. -/
theorem check_of_several (h : 1 < (parts t).length) :
    check t = checkAlternation t (parts t) := by
  unfold check
  split
  · next hparts => simp [hparts] at h
  · next p hparts => simp [hparts] at h
  · rfl

/-- What breaks off has several parts, and they break off. -/
theorem several_of_dangling (h : Word Grammar.dangling t) :
    1 < (parts t).length ∧ Dangles (parts t) := by
  have hparts := word_dangling_iff_parts.1 h
  have hseveral : 1 < (parts t).length := by
    obtain ⟨first, later, o, heq, -⟩ := hparts
    rw [heq, List.length_append]
    simp [alternate]
  exact ⟨hseveral, (dangles_iff (List.ne_nil_of_length_pos (Nat.zero_lt_of_lt hseveral))).2 hparts⟩

theorem blames_of_nil (h : parts t = []) : Blames t cause ↔ .emptyCondition = cause := by
  constructor
  · intro hblames
    cases hblames with
    | blank => rfl
    | dangling hdangling =>
      have hseveral := (several_of_dangling hdangling).1
      simp [h] at hseveral
    | alone hone => simp [h] at hone
    | misfit hseveral => simp [h] at hseveral
  · rintro rfl
    exact .blank (parts_eq_nil_iff.1 h)

theorem blames_of_singleton {p : Part} (h : parts t = [p]) :
    Blames t cause ↔ ¬ Word Shape.name p.text ∧ cause = misfit p.text t := by
  constructor
  · intro hblames
    cases hblames with
    | blank hblank => simp [parts_eq_nil_iff.2 hblank] at h
    | dangling hdangling =>
      have hseveral := (several_of_dangling hdangling).1
      simp [h] at hseveral
    | alone hone hname =>
      obtain rfl : p = _ := by simpa [h] using hone
      exact ⟨hname, rfl⟩
    | misfit hseveral => simp [h] at hseveral
  · rintro ⟨hname, rfl⟩
    exact .alone h hname

theorem blames_of_several (h : 1 < (parts t).length) :
    Blames t cause
      ↔ (Dangles (parts t) ∧ cause = .danglingOperator t)
        ∨ ∃ part, IsFirstEven (¬ Word operand ·.text) part (parts t)
          ∧ cause = misfit part.text t := by
  constructor
  · intro hblames
    cases hblames with
    | blank hblank => simp [parts_eq_nil_iff.2 hblank] at h
    | dangling hdangling => exact .inl ⟨(several_of_dangling hdangling).2, rfl⟩
    | alone hone => simp [hone] at h
    | misfit _ hfirst => exact .inr ⟨_, hfirst, rfl⟩
  · rintro (⟨hdangles, rfl⟩ | ⟨part, hfirst, rfl⟩)
    · have hne := List.ne_nil_of_length_pos (Nat.zero_lt_of_lt h)
      exact .dangling (word_dangling_iff_parts.2 ((dangles_iff hne).1 hdangles))
    · exact .misfit h hfirst

/-- What is found in a condition is what is wrong with it. -/
theorem check_eq_error_iff_blames : check t = .error cause ↔ Blames t cause := by
  rcases hparts : parts t with _ | ⟨p, _ | ⟨q, ps⟩⟩
  · rw [check_of_nil hparts, blames_of_nil hparts, Except.error.injEq]
  · rw [check_of_singleton hparts, blames_of_singleton hparts]
    exact Operand.checkIdentifier_eq_error_iff
  · have hseveral : 1 < (parts t).length := by simp [hparts]
    rw [check_of_several hseveral, blames_of_several hseveral]
    exact checkAlternation_eq_error_iff (parted_parts t).isChain

/-- A misfit is reserved, or it is not an operand. -/
theorem misfit_cases (word context : Text) :
    misfit word context = .reservedWord word context
      ∨ misfit word context = .invalidOperand word context := by
  unfold misfit
  split
  · exact .inl rfl
  · exact .inr rfl

/-- The cause of a condition tells which way it went wrong: only a blank one
is called empty, and only one that breaks off is called dangling. -/
theorem Blames.inv (h : Blames t cause) :
    (cause = .emptyCondition ∧ ∀ c ∈ t, isBlank c = true)
      ∨ (cause = .danglingOperator t ∧ Word Grammar.dangling t)
      ∨ ∃ word, cause = .reservedWord word t ∨ cause = .invalidOperand word t := by
  cases h with
  | blank hblank => exact .inl ⟨rfl, hblank⟩
  | dangling hdangling => exact .inr (.inl ⟨rfl, hdangling⟩)
  | alone | misfit => exact .inr (.inr ⟨_, misfit_cases _ t⟩)

/-- The fault of a condition is determined by its parts. It is called empty
exactly if it is blank; an operator is never called invalid; it is called
dangling exactly if it breaks off. A part that is alone is to blame unless
it is a variable. Of several parts, if the condition does not break off, the
first at an even place that is reserved or not an operand is to blame, and
it is named as reserved exactly if it is. -/
theorem check_fault_determined (t : Text) :
    (check t = .error .emptyCondition ↔ ∀ c ∈ t, isBlank c = true)
      ∧ (∀ operator context, check t ≠ .error (.invalidOperator operator context))
      ∧ (∀ context, check t = .error (.danglingOperator context)
          ↔ context = t ∧ Word Grammar.dangling t)
      ∧ (∀ part, parts t = [part] → ¬ Word Shape.name part.text →
          check t = .error (misfit part.text t))
      ∧ (1 < (parts t).length → ∀ cause,
          check t = .error cause ∧ cause ≠ .danglingOperator t
            ↔ ∃ part, IsFirstEven (fun part => Keyword.isReserved part.text = true
                  ∨ Operand.isOperand part.text = false) part (parts t)
                ∧ cause = misfit part.text t) := by
  refine ⟨⟨fun h => ?_, fun h => ?_⟩, fun operator context h => ?_,
    fun context => ⟨fun h => ?_, ?_⟩, fun part hparts hname => ?_, fun hseveral cause => ?_⟩
  · obtain ⟨-, hblank⟩ | ⟨hcause, -⟩ | ⟨word, hcause | hcause⟩ :=
      (check_eq_error_iff_blames.1 h).inv
    · exact hblank
    all_goals cases hcause
  · exact check_eq_error_iff_blames.2 (.blank h)
  · obtain ⟨hcause, -⟩ | ⟨hcause, -⟩ | ⟨word, hcause | hcause⟩ :=
      (check_eq_error_iff_blames.1 h).inv
    all_goals cases hcause
  · obtain ⟨hcause, -⟩ | ⟨hcause, hdangling⟩ | ⟨word, hcause | hcause⟩ :=
      (check_eq_error_iff_blames.1 h).inv
    · cases hcause
    · exact ⟨Cause.danglingOperator.inj hcause, hdangling⟩
    all_goals cases hcause
  · rintro ⟨rfl, hdangling⟩
    exact check_eq_error_iff_blames.2 (.dangling hdangling)
  · exact check_eq_error_iff_blames.2 (.alone hparts hname)
  · have hmisfit : (fun part : Part => Keyword.isReserved part.text = true
        ∨ Operand.isOperand part.text = false) = (¬ Word operand ·.text) := by
      funext part
      rw [Operand.word_operand_iff, not_and_or, Bool.not_eq_false, Bool.not_eq_true]
    rw [hmisfit, check_eq_error_iff_blames]
    constructor
    · rintro ⟨h, hcause⟩
      cases h with
      | blank hblank => simp [parts_eq_nil_iff.2 hblank] at hseveral
      | dangling => exact absurd rfl hcause
      | alone hparts => simp [hparts] at hseveral
      | misfit _ hfirst => exact ⟨_, hfirst, rfl⟩
    · rintro ⟨part, hfirst, rfl⟩
      refine ⟨.misfit hseveral hfirst, fun hcause => ?_⟩
      rcases misfit_cases part.text t with heq | heq
      · rw [heq] at hcause
        cases hcause
      · rw [heq] at hcause
        cases hcause

/-- An operator that stands where an operand should be is to blame, not the
reserved word behind it; and a quoted text is to blame when it is alone. -/
theorem check_fault_of_doubled_operator :
    1 < (parts "a == && Si <").length
      ∧ check "a == && Si <" = .error (.invalidOperand "&&" "a == && Si <")
      ∧ parts "\"Si\"" = [.operand "\"Si\""]
      ∧ ¬ Word Shape.name "\"Si\""
      ∧ check "\"Si\"" = .error (.invalidOperand "\"Si\"" "\"Si\"") := by
  have hparts : parts "a == && Si <"
      = [.operand "a", .operator .equal, .operator .and, .operand "Si", .operator .less] := by
    decide +kernel
  have hlone : parts "\"Si\"" = [.operand "\"Si\""] := by decide +kernel
  have hname : ¬ Word Shape.name "\"Si\"" := by
    rw [Operand.word_name_iff]
    decide
  have hseveral : 1 < (parts "a == && Si <").length := by
    rw [hparts]
    decide
  obtain ⟨-, -, -, -, hfault⟩ := check_fault_determined "a == && Si <"
  obtain ⟨-, -, -, halone, -⟩ := check_fault_determined "\"Si\""
  refine ⟨hseveral, ?_, hlone, hname, halone _ hlone hname⟩
  refine ((hfault hseveral _).2 ⟨.operator .and, ⟨1, ?_, .inr (by decide), ?_⟩, rfl⟩).1
  · rw [hparts]
    rfl
  · intro j hj q hq
    obtain rfl : j = 0 := Nat.lt_one_iff.1 hj
    rw [hparts] at hq
    obtain rfl : Part.operand "a" = q := Option.some.inj hq
    decide

end Condition

end Aula
