/-
Loop headers are accepted by their grammar, with one variable in scope.

The three clauses of a header are cut up by different means: the first and
the third word by word, the second at its operators. Each of these finds
the words that the grammar puts there (`cut?_initShapes`,
`exists_parts_of_comparison`, `cut?_updateShapes`).

# Uses

The clauses are linked by the variable that the first one declares. The
other two have three places where a variable may stand, and once their
shape is right, a check is nothing but a look at these, from left to right
(`IsHeader.check_eq`). So what is accepted is what uses the declared
variable only, and what is found otherwise is about the first other one.
-/
import Aula.Proofs.Header.Accepted
import Aula.Proofs.Header.Condition
import Aula.Proofs.Header.Separation

namespace Aula.Loop

open Pattern (Word many)
open Text (Continues splitTrimmed)
open Shape (blanks gap identifier name integer)
open Operand (quotedOr)
open Condition (Part parts alternate spell)
open Grammar (padded comparing firstValue declaring comparison step update)
open Header (IsFirst bind_eq_ok_iff)

-- ================================================================= scope

/-- The scope of a header that declares `x`. -/
def scopeOf (x : Text) : Scope := Scope.declare x .intDecl {}

/-- Only the declared variable is in it. -/
theorem scopeOf_contains {x w : Text} : (scopeOf x).contains w = true ↔ w = x := by
  unfold Scope.contains Scope.lookup? scopeOf Scope.declare
  by_cases heq : w = x
  · simp [heq]
  · have hbeq : (w == x) = false := beq_eq_false_iff_ne.2 heq
    simp [List.lookup_cons, hbeq, heq]

/-- A keyword declares whole numbers if it is `ent`. -/
theorem declares?_eq_intDecl_iff {w : Text} :
    Keyword.declares? w = some .intDecl ↔ w = "ent" := by
  have hall : ∀ d ∈ Keyword.declarations, d.2 = .intDecl → d.1 = "ent" := by decide
  constructor
  · intro h
    obtain ⟨before, after, heq, -⟩ := List.lookup_eq_some_iff.1 h
    have hmem : (w, Kind.intDecl) ∈ Keyword.declarations := by
      rw [heq]
      exact List.mem_append_right before (.head after)
    exact hall _ hmem rfl
  · rintro rfl
    decide

-- ========================================================== first clause

/-- A first clause is taken apart at its name. -/
theorem word_declaring_iff {x w : Text} :
    Word (declaring (.text x)) w
      ↔ ∃ g v, w = "ent" ++ (g ++ (x ++ v)) ∧ Word gap g ∧ Word firstValue v := by
  unfold declaring
  simp only [Pattern.word_append_assoc]
  simp only [Pattern.word_append_iff, Pattern.word_text_iff]
  constructor
  · intro h
    obtain ⟨_, _, rfl, rfl, g, _, rfl, hg, _, v, rfl, rfl, hv⟩ := h
    exact ⟨g, v, rfl, hg, hv⟩
  · intro h
    obtain ⟨g, v, rfl, hg, hv⟩ := h
    exact ⟨_, _, rfl, rfl, g, _, rfl, hg, x, v, rfl, rfl, hv⟩

/-- Cutting finds the words of a first clause. -/
theorem cut?_initShapes {keyword g x v : Text} (hkeyword : Word identifier keyword)
    (hg : Word gap g) (hx : Word identifier x) (hv : Word firstValue v) :
    Pattern.cut? initShapes (keyword ++ (g ++ (x ++ v))) = some [keyword, g, x, v] := by
  have hname : Continues identifier.first (x ++ v) :=
    (hx.continues_append hv.continues).mono (by decide)
  have hgap : Continues gap.first (g ++ (x ++ v)) :=
    (hg.continues_append hname).mono (by decide)
  show Pattern.cut? [identifier, gap, identifier, firstValue] _ = _
  rw [Pattern.cut?_append (Pattern.scan_append (by decide) hkeyword hgap),
    Pattern.cut?_append (Pattern.scan_append (by decide) hg hname),
    Pattern.cut?_append (Pattern.scan_append (by decide) hx hv.continues),
    Pattern.cut?_single (Pattern.scan_eq_length (by decide) hv)]
  rfl

/-- A first clause is accepted if it declares some variable as a whole
number, and that is what is in scope then. -/
theorem checkInit_eq_ok_iff {clause : Text} {scope : Scope} :
    checkInit clause = .ok scope
      ↔ ∃ x, Word name x ∧ Word (declaring (.text x)) clause ∧ scope = scopeOf x := by
  constructor
  · intro h
    unfold checkInit at h
    split at h
    · next keyword g x v hcut =>
      obtain ⟨rfl, hwords⟩ := Pattern.cut?_sound hcut
      simp only [initShapes, List.forall₂_cons] at hwords
      obtain ⟨-, hg, hx, hv, -⟩ := hwords
      split at h
      · next hkeyword =>
        obtain rfl := declares?_eq_intDecl_iff.1 hkeyword
        split at h
        · cases h
        · next hreserved =>
          cases h
          refine ⟨x, Operand.word_name_iff.2 ⟨Bool.eq_false_iff.2 hreserved, ?_⟩, ?_, rfl⟩
          · exact Operand.isIdentifier_iff.2 hx
          · exact word_declaring_iff.2 ⟨g, v, by simp, hg, hv⟩
      · cases h
    · cases h
  · intro h
    obtain ⟨x, hx, hclause, rfl⟩ := h
    obtain ⟨g, v, rfl, hg, hv⟩ := word_declaring_iff.1 hclause
    obtain ⟨hreserved, hidentifier⟩ := Operand.word_name_iff.1 hx
    have hent : Word identifier "ent" := Rule.word_of_covers (by decide)
    have hcut := cut?_initShapes hent hg (Operand.isIdentifier_iff.1 hidentifier) hv
    unfold checkInit
    rw [hcut]
    simp only [declares?_eq_intDecl_iff.2 rfl, if_true, hreserved]
    rfl

-- ================================================================== uses

/-- No variable is a whole number. -/
theorem not_word_integer {w : Text} (h : Word identifier w) : ¬ Word integer w :=
  h.not_word (by decide) (by decide)

/-- A word that stands where a loop uses a variable or a whole number, and
the clause it stands in. -/
structure Use where
  word : Text
  clause : Text

/-- The word must be a whole number or the variable that the loop
declares. -/
def Use.check (x : Text) (u : Use) : Except Cause Unit :=
  checkOperand u.clause (scopeOf x) u.word

/-- What is wrong with a variable that the loop does not declare. -/
def Use.cause (u : Use) : Cause :=
  if Keyword.isReserved u.word then .reservedWord u.word u.clause
  else .undeclaredLoopVariable u.word

/-- Whole numbers and the declared variable are accepted. -/
theorem Use.check_eq_ok_iff_declared {x : Text} (hx : Word name x) {u : Use} :
    u.check x = .ok () ↔ Word integer u.word ∨ u.word = x := by
  unfold Use.check checkOperand
  by_cases hinteger : Operand.isInteger u.word = true
  · simp [hinteger, Operand.isInteger_iff.1 hinteger]
  · have hnot := mt Operand.isInteger_iff.2 hinteger
    rw [if_neg hinteger, bind_eq_ok_iff]
    constructor
    · intro h
      obtain ⟨_, -, hscope⟩ := h
      unfold Scope.check at hscope
      split at hscope
      · next hcontains => exact .inr (scopeOf_contains.1 hcontains)
      · cases hscope
    · intro h
      obtain rfl := h.resolve_left hnot
      refine ⟨(), Operand.checkIdentifier_eq_ok_iff_name.2 hx, ?_⟩
      rw [Scope.check, if_pos (scopeOf_contains.2 rfl)]

/-- Any other variable is not. -/
theorem Use.check_eq_error {x : Text} {u : Use} (hu : Word identifier u.word)
    (hne : u.word ≠ x) : u.check x = .error u.cause := by
  have hinteger := mt Operand.isInteger_iff.1 (not_word_integer hu)
  unfold Use.check Use.cause checkOperand Operand.checkIdentifier Operand.checkShape
  rw [if_neg hinteger, if_pos (Operand.isIdentifier_iff.2 hu), Scope.check,
    if_neg (mt scopeOf_contains.1 hne)]
  split
  · rfl
  · rfl

-- ========================================================= second clause

/-- What may stand on either side of a comparison, in shape. -/
theorem isOperand_identifier_or_integer : Condition.IsOperand (identifier ||| integer) where
  pass := fun _ hu => Operand.word_quotedOr_of_letters hu (by decide)
  first_not_equals := by decide
  nullable := by decide
  first_not_blank := by decide
  last_not_blank := by decide

/-- A comparison is taken apart at its operator. -/
theorem word_comparison_iff {p q : Pattern} {w : Text} :
    Word (comparison p q) w
      ↔ ∃ l a o b r, w = l ++ (a ++ (Operator.symbol o ++ (b ++ r)))
        ∧ (Word p l ∧ Word q r) ∧ o.isRelational = true
        ∧ (∀ c ∈ a, isBlank c = true) ∧ ∀ c ∈ b, isBlank c = true := by
  unfold comparison
  rw [Pattern.word_append_assoc]
  simp only [Pattern.word_append_iff, Pattern.word_padded_append_iff,
    Operator.word_comparing_iff]
  constructor
  · intro h
    obtain ⟨l, _, rfl, hl, _, r, rfl, ⟨a, _, b, rfl, ha, ⟨o, ho, rfl⟩, hb⟩, hr⟩ := h
    exact ⟨l, a, o, b, r, by simp, ⟨hl, hr⟩, ho, ha, hb⟩
  · intro h
    obtain ⟨l, a, o, b, r, rfl, ⟨hl, hr⟩, ho, ha, hb⟩ := h
    exact ⟨l, _, rfl, hl, _, r, by simp, ⟨a, _, b, rfl, ha, ⟨o, ho, rfl⟩, hb⟩, hr⟩

/-- Cutting finds the operands of a comparison. -/
theorem exists_parts_of_comparison {clause left right : Text}
    (hl : Word (identifier ||| integer) left) (hr : Word (identifier ||| integer) right)
    (h : Word (comparison (.text left) (.text right)) clause) :
    ∃ o, o.isRelational = true ∧ parts clause = alternate left [(o, right)] := by
  obtain ⟨l, a, o, b, r, rfl, ⟨hl', hr'⟩, ho, ha, hb⟩ := word_comparison_iff.1 h
  obtain rfl : left = l := (Pattern.word_text_iff.1 hl').symm
  obtain rfl : right = r := (Pattern.word_text_iff.1 hr').symm
  have hp := isOperand_identifier_or_integer
  have hlead : ∀ c ∈ ([] : Text), isBlank c = true := List.forall_mem_nil _
  have hleft : Word (padded (identifier ||| integer)) (left ++ a) :=
    Pattern.word_padded_append_iff.2 ⟨[], left, a, rfl, hlead, hl, ha⟩
  have hright : Word (padded (identifier ||| integer)) (b ++ right) :=
    Pattern.word_padded_append_iff.2 ⟨b, right, [], by simp, hb, hr, hlead⟩
  have hltrim : left = (left ++ a).trim := by
    rw [Text.trim_append_blank _ ha, hp.trim_eq hl]
  have hrtrim : right = (b ++ right).trim := by
    rw [Text.trim_blank_append hb, hp.trim_eq hr]
  have hspell : left ++ (a ++ (o.symbol ++ (b ++ right)))
      = spell (left ++ a, [(o, b ++ right)]) := by
    simp [spell]
  obtain ⟨hparts, -, -⟩ := hp.parts_eq_alternate_iff.2
    ⟨left ++ a, [(o, b ++ right)], hspell, hleft, List.forall_mem_singleton.2 hright, hltrim,
      by rw [List.map_singleton, ← hrtrim]⟩
  exact ⟨o, ho, hparts⟩

/-- The operands that cutting finds in a clause are compared in it. -/
theorem word_comparison_of_parts {clause left right : Text} {o : Operator}
    (htrim : clause.trim = clause) (ho : o.isRelational = true)
    (hl : Word (identifier ||| integer) left) (hr : Word (identifier ||| integer) right)
    (h : parts clause = alternate left [(o, right)]) :
    Word (comparison (.text left) (.text right)) clause := by
  obtain ⟨head, tail, heq, -, -, rfl, hmap⟩ :=
    isOperand_identifier_or_integer.parts_eq_alternate_iff.1
      ⟨h, hl, List.forall_mem_singleton.2 hr⟩
  obtain ⟨⟨o', s⟩, rest, rfl⟩ : ∃ y rest, tail = y :: rest := by
    refine List.exists_cons_of_ne_nil ?_
    rintro rfl
    cases hmap
  obtain ⟨hpair, hrest⟩ := List.cons.inj hmap
  obtain ⟨rfl, rfl⟩ := Prod.mk.inj hpair
  obtain rfl := List.map_eq_nil_iff.1 hrest.symm
  -- the blanks at the ends of the clause are none, for it is trimmed
  obtain ⟨a, a', hhead, ha, ha'⟩ := head.exists_eq_trim
  obtain ⟨b, b', hs, hb, hb'⟩ := s.exists_eq_trim
  have hcore : ∀ {p q : Pattern}, Word p head.trim → Word q s.trim →
      Word (comparison p q) (head.trim ++ (a' ++ (o.symbol ++ (b ++ s.trim)))) :=
    fun hp hq => word_comparison_iff.2 ⟨_, a', o, b, _, rfl, ⟨hp, hq⟩, ho, ha', hb⟩
  have hclause : clause = a ++ (head.trim ++ (a' ++ (o.symbol ++ (b ++ s.trim))) ++ b') := by
    calc clause = head ++ (o.symbol ++ s) := by rw [heq]; simp [spell]
      _ = a ++ (head.trim ++ a') ++ (o.symbol ++ (b ++ (s.trim ++ b'))) := by rw [← hhead, ← hs]
      _ = _ := by simp only [List.append_assoc]
  have htrimmed := (hcore hl hr).trim_eq (by decide) (by decide)
  rw [hclause, Text.trim_blank_append ha, Text.trim_append_blank _ hb', htrimmed] at htrim
  rw [hclause, ← htrim]
  exact hcore (.text _) (.text _)

/-- Of a second clause, it is the operands that are checked. -/
theorem checkCondition_eq {x left right clause : Text}
    (hl : Word (identifier ||| integer) left) (hr : Word (identifier ||| integer) right)
    (h : Word (comparison (.text left) (.text right)) clause) :
    checkCondition clause (scopeOf x)
      = (Use.check x ⟨left, clause⟩ >>= fun _ => Use.check x ⟨right, clause⟩) := by
  obtain ⟨o, ho, hparts⟩ := exists_parts_of_comparison hl hr h
  have hthree : parts clause = [.operand left, .operator o, .operand right] := hparts
  unfold checkCondition
  rw [hthree]
  simp only [ho, if_true]
  rfl

/-- A part that is accepted as a use is an operand. -/
theorem exists_operand_of_check {x clause : Text} (hx : Word name x) {part : Part}
    (h : Use.check x ⟨part.text, clause⟩ = .ok ()) :
    ∃ w, part = .operand w ∧ Word (identifier ||| integer) w := by
  obtain ⟨hoperand, hshape⟩ : Word Grammar.operand part.text
      ∧ Word (identifier ||| integer) part.text := by
    rcases (Use.check_eq_ok_iff_declared hx).1 h with hinteger | rfl
    · exact ⟨.first (.second hinteger), .second hinteger⟩
    · exact ⟨.first (.first hx), .first (Operand.identifier_of_name hx)⟩
  obtain ⟨w, rfl, -⟩ := Condition.exists_operand hoperand
  exact ⟨w, rfl, hshape⟩

/-- What is accepted as a second clause compares two operands. -/
theorem exists_comparison_of_checkCondition {x clause : Text} (hx : Word name x)
    (htrim : clause.trim = clause) (h : checkCondition clause (scopeOf x) = .ok ()) :
    ∃ left right, Word (identifier ||| integer) left ∧ Word (identifier ||| integer) right
      ∧ Word (comparison (.text left) (.text right)) clause := by
  unfold checkCondition at h
  split at h
  · next left o right hparts =>
    split at h
    · next ho =>
      obtain ⟨_, hleft, hright⟩ := bind_eq_ok_iff.1 h
      obtain ⟨l, rfl, hl⟩ := exists_operand_of_check hx hleft
      obtain ⟨r, rfl, hr⟩ := exists_operand_of_check hx hright
      exact ⟨l, r, hl, hr, word_comparison_of_parts htrim ho hl hr hparts⟩
    · cases h
  · cases h
  · cases h

-- ========================================================== third clause

/-- A step is read whole. -/
theorem scan_step {f : Text} (h : Word step f) : step.scan f = some f.length := by
  unfold step at h ⊢
  rcases Pattern.word_or_iff.1 h with hsign | hassign
  · rcases Pattern.word_or_iff.1 hsign with hplus | hminus
    · obtain rfl := Pattern.word_text_iff.1 hplus
      rfl
    · obtain rfl := Pattern.word_text_iff.1 hminus
      rfl
  · -- the signs may begin alike, but an equals sign follows here
    have hpassed := Pattern.scan_alt_of_openings (p := "++" ||| "--") (by decide) hassign []
    rw [List.append_nil] at hpassed
    rw [hpassed, Pattern.scan_eq_length (by decide) hassign]

/-- So it is with blanks in front. -/
theorem scan_blanks_step {e : Text} (h : Word (blanks ++ step) e) :
    (blanks ++ step).scan e = some e.length := by
  obtain ⟨a, f, rfl, ha, hf⟩ := Pattern.word_append_iff.1 h
  rw [Pattern.scan_seq_append (Pattern.scan_append (by decide) ha hf.continues), scan_step hf,
    Option.map_some, List.length_append]

/-- Cutting finds the variable that is stepped. -/
theorem cut?_updateShapes {s e : Text} (hs : Word identifier s) (he : Word (blanks ++ step) e) :
    Pattern.cut? updateShapes (s ++ e) = some [s, e] := by
  show Pattern.cut? [identifier, blanks ++ step] _ = _
  rw [Pattern.cut?_append (Pattern.scan_append (by decide) hs he.continues),
    Pattern.cut?_single (scan_blanks_step he)]
  rfl

/-- Of a third clause, it is the variable that is checked. -/
theorem checkUpdate_eq {x s clause : Text} (hs : Word identifier s)
    (h : Word (update (.text s)) clause) :
    checkUpdate clause (scopeOf x) = Use.check x ⟨s, clause⟩ := by
  obtain ⟨u, e, rfl, hu, he⟩ := Pattern.word_append_iff.1 h
  obtain rfl : s = u := (Pattern.word_text_iff.1 hu).symm
  have hinteger := mt Operand.isInteger_iff.1 (not_word_integer hs)
  unfold checkUpdate Use.check checkOperand Operand.checkIdentifier Operand.checkShape
  rw [cut?_updateShapes hs he, if_neg hinteger, if_pos (Operand.isIdentifier_iff.2 hs)]
  simp only
  split
  · rfl
  · rfl

/-- What is accepted as a third clause steps some variable. -/
theorem exists_update_of_checkUpdate {clause : Text} {scope : Scope}
    (h : checkUpdate clause scope = .ok ()) :
    ∃ s, Word identifier s ∧ Word (update (.text s)) clause := by
  unfold checkUpdate at h
  split at h
  · next s later hcut =>
    obtain ⟨rfl, hwords⟩ := Pattern.cut?_sound hcut
    obtain ⟨hs, hlater⟩ := List.forall₂_cons.1 hwords
    obtain ⟨e, rest, he, hrest, rfl⟩ := List.forall₂_cons_left_iff.1 hlater
    obtain rfl := List.forall₂_nil_left_iff.1 hrest
    refine ⟨s, hs, ?_⟩
    rw [List.flatten_cons, List.flatten_singleton]
    exact .seq (.text s) he
  · cases h

-- =============================================================== headers

/-- The second and the third clause of a header, and the words in them that
may be variables. -/
structure Clauses where
  condition : Text
  update : Text
  left : Text
  right : Text
  stepped : Text

/-- The uses of a header, from left to right. -/
def Clauses.uses (k : Clauses) : List Use :=
  [⟨k.left, k.condition⟩, ⟨k.right, k.condition⟩, ⟨k.stepped, k.update⟩]

/-- Cut at its semicolons and trimmed, the header is three clauses: the
first declares `x`, the second compares, and the third steps. Where a
variable may be used stands a word of `used`. -/
structure IsHeader (used : Pattern) (header x : Text) (k : Clauses) : Prop where
  declared : Word name x
  clauses : ∃ init, (header.splitOn ';').map Text.trim = [init, k.condition, k.update]
    ∧ Word (declaring (.text x)) init
  left : Word (used ||| integer) k.left
  right : Word (used ||| integer) k.right
  stepped : Word used k.stepped
  condition : Word (comparison (.text k.left) (.text k.right)) k.condition
  update : Word (Grammar.update (.text k.stepped)) k.update

/-- Where other words may be used as well, it is a header as before. -/
theorem IsHeader.mono {used used' : Pattern} {header x : Text} {k : Clauses}
    (hused : ∀ w, Word used w → Word used' w) (h : IsHeader used header x k) :
    IsHeader used' header x k := by
  have hoperand : ∀ w, Word (used ||| integer) w → Word (used' ||| integer) w :=
    fun w hw => Pattern.word_or_iff.2 ((Pattern.word_or_iff.1 hw).imp_left (hused w))
  exact { h with
    left := hoperand _ h.left
    right := hoperand _ h.right
    stepped := hused _ h.stepped }

namespace IsHeader

variable {header x : Text} {k : Clauses} (h : IsHeader identifier header x k)
include h

/-- There are no quotes and no semicolons in the clauses. -/
theorem pass : ∀ piece ∈ header.splitOn ';', Word (many (quotedOr ['"', ';'])) piece := by
  obtain ⟨init, hclauses, hinit⟩ := h.clauses
  have hinit' : Word (declaring identifier) init :=
    hinit.append_mono (fun _ hu => hu.append_mono (fun _ => id)
      (Operand.identifier_of_name h.declared).of_text) fun _ => id
  have hcondition : Word (comparison (identifier ||| integer) (identifier ||| integer))
      k.condition :=
    h.condition.append_mono (fun _ hu => hu.append_mono h.left.of_text fun _ => id)
      h.right.of_text
  have hupdate : Word (Grammar.update identifier) k.update :=
    h.update.append_mono h.stepped.of_text fun _ => id
  have hplain : ∀ clause ∈ [init, k.condition, k.update],
      Word (many (quotedOr ['"', ';'])) clause := by
    simp only [List.forall_mem_cons]
    refine ⟨?_, ?_, ?_, List.forall_mem_nil _⟩
    · exact Operand.word_quotedOr_of_letters hinit' (by decide)
    · exact Operand.word_quotedOr_of_letters hcondition (by decide)
    · exact Operand.word_quotedOr_of_letters hupdate (by decide)
  intro piece hpiece
  apply Operand.word_quotedOr_of_trim (by decide)
  apply hplain
  rw [← hclauses]
  exact List.mem_map_of_mem hpiece

/-- Splitting finds the clauses. -/
theorem splitTrimmed_eq :
    ∃ init, splitTrimmed ';' header = [init, k.condition, k.update]
      ∧ Word (declaring (.text x)) init := by
  unfold splitTrimmed
  rw [Text.split_eq_splitOn_of_pieces (by decide) h.pass]
  exact h.clauses

/-- A check of a header is a look at its uses. -/
theorem check_eq : check header = k.uses.forM (Use.check x) := by
  obtain ⟨init, hsplit, hinit⟩ := h.splitTrimmed_eq
  have hscope : checkInit init = .ok (scopeOf x) :=
    checkInit_eq_ok_iff.2 ⟨x, h.declared, hinit, rfl⟩
  unfold check
  rw [hsplit]
  show (checkInit init >>= fun scope =>
    checkCondition k.condition scope >>= fun _ => checkUpdate k.update scope) = _
  rw [hscope]
  show (checkCondition k.condition (scopeOf x) >>= fun _ =>
    checkUpdate k.update (scopeOf x)) = _
  rw [checkCondition_eq h.left h.right h.condition, checkUpdate_eq h.stepped h.update,
    bind_assoc]
  show _ = (Use.check x _ >>= fun _ => Use.check x _ >>= fun _ => Use.check x _ >>= pure)
  rw [bind_pure]

/-- Whatever is used has the shape of a variable or a whole number. -/
theorem word_of_mem_uses {u : Use} (hu : u ∈ k.uses) : Word (identifier ||| integer) u.word := by
  have hall : ∀ u ∈ k.uses, Word (identifier ||| integer) u.word := by
    unfold Clauses.uses
    simp only [List.forall_mem_cons]
    exact ⟨h.left, h.right, .first h.stepped, List.forall_mem_nil _⟩
  exact hall u hu

/-- A header is accepted if it uses the variable that it declares. -/
theorem check_eq_ok_iff_uses :
    check header = .ok () ↔ ∀ u ∈ k.uses, Word integer u.word ∨ u.word = x := by
  rw [h.check_eq, Header.forM_eq_ok_iff]
  exact forall₂_congr fun u _ => Use.check_eq_ok_iff_declared h.declared

/-- If not, the first other variable is to blame. -/
theorem check_eq_error_iff_uses {cause : Cause} :
    check header = .error cause
      ↔ ∃ u, IsFirst (fun u => Word identifier u.word ∧ u.word ≠ x) u k.uses
        ∧ cause = u.cause := by
  rw [h.check_eq, Header.forM_eq_error_iff]
  refine exists_congr fun u => ?_
  have hother : ∀ u ∈ k.uses,
      (u.check x ≠ .ok () ↔ Word identifier u.word ∧ u.word ≠ x) := by
    intro u hu
    rw [Ne, Use.check_eq_ok_iff_declared h.declared, not_or]
    refine and_congr_left fun _ => ⟨fun hnot => ?_, not_word_integer⟩
    exact (Pattern.word_or_iff.1 (h.word_of_mem_uses hu)).resolve_right hnot
  rw [Header.isFirst_congr hother]
  refine and_congr_right fun hfirst => ?_
  obtain ⟨hword, hne⟩ := hfirst.holds
  rw [Use.check_eq_error hword hne, Except.error.injEq]
  exact eq_comm

end IsHeader

/-- A header uses only the variable that it declares if all its uses are of
that or whole numbers. -/
theorem isHeader_text_iff {header x : Text} {k : Clauses} :
    IsHeader (.text x) header x k
      ↔ IsHeader identifier header x k ∧ ∀ u ∈ k.uses, Word integer u.word ∨ u.word = x := by
  unfold Clauses.uses
  simp only [List.forall_mem_cons]
  constructor
  · intro h
    have hswap : ∀ w, Word (.text x ||| integer) w → Word integer w ∨ w = x := by
      intro w hw
      rw [Pattern.word_or_iff, Pattern.word_text_iff] at hw
      exact hw.symm
    refine ⟨h.mono (Operand.identifier_of_name h.declared).of_text, ?_⟩
    exact ⟨hswap _ h.left, hswap _ h.right, .inr (Pattern.word_text_iff.1 h.stepped),
      List.forall_mem_nil _⟩
  · intro h
    obtain ⟨h, hleft, hright, hstepped, -⟩ := h
    have hswap : ∀ w, Word integer w ∨ w = x → Word (.text x ||| integer) w := by
      intro w hw
      rw [Pattern.word_or_iff, Pattern.word_text_iff]
      exact hw.symm
    -- what is stepped is a variable
    have hvariable := hstepped.resolve_left (not_word_integer h.stepped)
    exact { h with
      left := hswap _ hleft
      right := hswap _ hright
      stepped := Pattern.word_text_iff.2 hvariable }

/-- What is accepted is a header. -/
theorem exists_isHeader_of_check {header : Text} (h : check header = .ok ()) :
    ∃ x k, IsHeader identifier header x k := by
  have hquote : '"' ∉ header := fun hmem => isPlain_of_check h _ hmem (by decide)
  unfold check at h
  split at h
  · next init condition update hclauses =>
    obtain ⟨_, hinit, h⟩ := bind_eq_ok_iff.1 h
    obtain ⟨_, hcondition, hupdate⟩ := bind_eq_ok_iff.1 h
    have hmem : condition ∈ splitTrimmed ';' header := by
      rw [hclauses]
      exact .tail _ (.head _)
    have htrim := Text.trim_of_mem_splitTrimmed hmem
    obtain ⟨x, hx, hdeclaring, rfl⟩ := checkInit_eq_ok_iff.1 hinit
    obtain ⟨l, r, hl, hr, hcompared⟩ := exists_comparison_of_checkCondition hx htrim hcondition
    obtain ⟨s, hs, hstepped⟩ := exists_update_of_checkUpdate hupdate
    rw [splitTrimmed, Text.split_eq_splitOn hquote] at hclauses
    exact ⟨x, ⟨condition, update, l, r, s⟩, hx, ⟨init, hclauses, hdeclaring⟩, hl, hr, hs,
      hcompared, hstepped⟩
  · cases h

/-- A text is accepted in the parentheses of `para` if it is the header of a
loop that uses only the variable that it declares. If it uses others, the
first of them is to blame. -/
theorem check_scoped (header : Text) :
    (check header = .ok () ↔ ∃ x k, IsHeader (.text x) header x k)
      ∧ ∀ x k, IsHeader identifier header x k → ∀ cause, check header = .error cause
        ↔ ∃ u, IsFirst (fun u => Word identifier u.word ∧ u.word ≠ x) u k.uses
          ∧ cause = u.cause := by
  constructor
  · constructor
    · intro h
      obtain ⟨x, k, hheader⟩ := exists_isHeader_of_check h
      exact ⟨x, k, isHeader_text_iff.2 ⟨hheader, hheader.check_eq_ok_iff_uses.1 h⟩⟩
    · intro h
      obtain ⟨x, k, hheader⟩ := h
      obtain ⟨hheader, huses⟩ := isHeader_text_iff.1 hheader
      exact hheader.check_eq_ok_iff_uses.2 huses
  · intro x k hheader cause
    exact hheader.check_eq_error_iff_uses

/-- The reserved word is to blame here, and not the variable behind it. -/
theorem check_scoped_on_reserved_operand :
    IsHeader identifier "ent i = 0; i < Si; j++" "i"
        ⟨"i < Si", "j++", "i", "Si", "j"⟩
      ∧ check "ent i = 0; i < Si; j++" = .error (.reservedWord "Si" "i < Si") := by
  have hheader : IsHeader identifier "ent i = 0; i < Si; j++" "i"
      ⟨"i < Si", "j++", "i", "Si", "j"⟩ :=
    { declared := Operand.word_name_iff.2 (by decide)
      clauses := ⟨"ent i = 0", by decide, Rule.word_of_covers (by decide)⟩
      left := Rule.word_of_covers (by decide)
      right := Rule.word_of_covers (by decide)
      stepped := Rule.word_of_covers (by decide)
      condition := Rule.word_of_covers (by decide)
      update := Rule.word_of_covers (by decide) }
  refine ⟨hheader, ((check_scoped _).2 _ _ hheader _).2 ⟨⟨"Si", "i < Si"⟩, ?_, rfl⟩⟩
  have hother : Word identifier "Si" := Rule.word_of_covers (by decide)
  exact ⟨[⟨"i", "i < Si"⟩], [⟨"j", "j++"⟩], rfl, by simp, hother, by decide⟩

end Aula.Loop
