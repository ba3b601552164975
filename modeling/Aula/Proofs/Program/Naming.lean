/-
One notion of variable name.

A variable may be named in many places: a declaration names it behind its
keyword, an assignment and an input name it, conditions and outputs hold it,
and a loop does all of that on its own. Each place has a shape or a check of
its own, with other text around the name, and yet they all take the same words
for names, and refuse the same: those that are reserved, begin with a digit or
are empty.

What stands around a name does not blur where it begins and ends. In front of
it stands a word that is read whole (`Pattern.word_append_iff_right`), and
behind it something that no name goes on with (`Shape.word_name_append_iff`).
So if a run of name characters stands in the place of a name, the statement
has its shape exactly if the run is a name.
-/
import Aula.Proofs.Header.ConditionFault
import Aula.Proofs.Header.Output
import Aula.Proofs.Header.Statement
import Mathlib.Data.List.TFAE

namespace Aula

open Pattern (Word one many opt oneOrMore)
open CharClass (areApart)
open Text (Continues continues_cons)
open Shape (blanks gap name integer)

-- ========================================================== around a name

/-- Behind a word that is read whole, it is the rest that counts. -/
theorem Pattern.word_append_iff_right {p q : Pattern} {follow : List CharClass} {u t : Text}
    (hdet : p.isDeterministic follow = true) (hu : Word p u) (hq : q.first ⊆ follow)
    (ht : Continues follow t) : Word (p ++ q) (u ++ t) ↔ Word q t := by
  constructor
  · intro h
    obtain ⟨u', t', heq, hu', ht'⟩ := Pattern.word_append_iff.1 h
    obtain ⟨-, rfl⟩ := Word.append_inj hdet hu hu' ht (ht'.continues.mono hq) heq
    exact ht'
  · exact Word.seq hu

/-- A name goes on to the last name character. -/
theorem Shape.nameRest_of_name {w : Text} (h : Word name w) : Word (many (one .nameRest)) w := by
  refine Rule.word_many_one_iff.2 fun c hc => ?_
  have hnot := h.not_has (k := CharClass.nameRest.compl) (by decide) hc
  rwa [CharClass.has_compl, Bool.not_eq_false'] at hnot

/-- Names are not empty. -/
theorem Shape.not_word_name_nil : ¬ Word name [] := by
  intro h
  cases h.nullable

/-- In front of what no name goes on with, it is the name that counts. -/
theorem Shape.word_name_append_iff {w v : Text} (hw : Word (many (one .nameRest)) w)
    {after : Pattern} (hapart : areApart after.first [.nameRest] = true) (hv : Word after v) :
    Word (name ++ after) (w ++ v) ↔ Word name w := by
  constructor
  · intro h
    obtain ⟨w', v', heq, hw', hv'⟩ := Pattern.word_append_iff.1 h
    have hrun : (many (one .nameRest)).isDeterministic [CharClass.nameRest.compl] = true := by
      decide
    obtain ⟨rfl, -⟩ := Word.append_inj hrun hw (nameRest_of_name hw')
      (hv.continues.outside hapart) (hv'.continues.outside hapart) heq
    exact hw'
  · exact fun h => .seq h hv

-- ============================================================= statements

/-- A declaration without a first value, of any kind, has a name behind its
keyword. -/
theorem exists_rule_declaration {d : Text × Kind} (hd : d ∈ Keyword.declarations) :
    ∃ later, (∃ r ∈ Rule.table, r.kind = some d.2
        ∧ ∀ t, Word r.shape t ↔ Word (.text d.1 ++ gap ++ (name ++ later)) t)
      ∧ areApart later.first [.nameRest] = true ∧ Word later ";" := by
  have hrules : ∀ d ∈ Keyword.declarations, ∃ r ∈ Rule.table, r.kind = some d.2
      ∧ (d.1 = "list" ∧ r.shape = Shape.listDeclaration
        ∨ ∃ value ∈ [Shape.chain integer .arithmetic, Shape.chain Shape.number .arithmetic,
            Shape.chain Shape.string (.anyOf "+"), Shape.identifier ++ blanks, Shape.anyValue],
          r.shape = Shape.declaration (.text d.1) value) := by
    decide
  obtain ⟨r, hr, hkind, ⟨hlist, hshape⟩ | ⟨value, -, hshape⟩⟩ := hrules d hd
  · refine ⟨blanks ++ (opt ("[" ++ blanks ++ opt (Shape.digits ++ blanks) ++ "]" ++ blanks)
      ++ (opt ("=" ++ blanks ++ Shape.items ++ blanks) ++ ";")), ⟨r, hr, hkind, fun t => ?_⟩,
      by decide, Rule.word_of_covers (by decide)⟩
    rw [hshape, hlist]
    unfold Shape.listDeclaration
    simp only [Pattern.word_append_assoc]
  · refine ⟨blanks ++ (opt ("=" ++ blanks ++ value) ++ ";"), ⟨r, hr, hkind, fun t => ?_⟩, rfl,
      .seq .stop (.seq (.second (.text _)) (.text _))⟩
    rw [hshape]
    unfold Shape.declaration
    simp only [Pattern.word_append_assoc]

section Places

variable {w : Text} (hw : Word (many (one .nameRest)) w)
include hw

/-- A statement with a run of name characters in the place of its name is one
if the run is a name. -/
theorem isSingle_named_iff {kind : Kind} {before after : Pattern} {u v : Text}
    (hrule : ∃ r ∈ Rule.table, r.kind = some kind
      ∧ ∀ t, Word r.shape t ↔ Word (before ++ (name ++ after)) t)
    (hu : Word before u) (hv : Word after v)
    (hdet : before.isDeterministic [.nameStart, .nameRest, .anyOf (v.take 1)] = true)
    (hapart : areApart after.first [.nameRest] = true)
    (hfirst : u.head?.map isBlank = some false) (hlast : v.getLast?.map isBlank = some false) :
    IsSingle kind (u ++ (w ++ v)) ↔ Word name w := by
  obtain ⟨r, hr, hkind, hshape⟩ := hrule
  obtain ⟨c, hc, hcblank⟩ := Option.map_eq_some_iff.1 hfirst
  obtain ⟨d, hd, hdblank⟩ := Option.map_eq_some_iff.1 hlast
  have htrim : (u ++ (w ++ v)).trim = u ++ (w ++ v) := by
    apply Text.trim_eq_self
    · intro e he
      rw [List.head?_append, hc] at he
      rwa [← Option.some.inj he]
    · intro e he
      rw [List.getLast?_append, List.getLast?_append, hd] at he
      rwa [← Option.some.inj he]
  have hgoes : Continues [.nameStart, .nameRest, .anyOf (v.take 1)] (w ++ v) := by
    have hv' : Continues [.anyOf (v.take 1)] v := by
      cases v with
      | nil => exact Text.continues_nil _
      | cons e v =>
        exact continues_cons.2 ⟨_, List.mem_singleton_self _, CharClass.has_anyOf.2 (by simp)⟩
    exact (hw.continues_append hv').mono (List.subset_cons_self _ _)
  have hname : (name ++ after).first ⊆ [.nameStart, .nameRest, .anyOf (v.take 1)] := by
    show [CharClass.nameStart] ⊆ _
    exact List.cons_subset_cons _ (List.nil_subset _)
  rw [isSingle_iff hr hkind, htrim, hshape,
    Pattern.word_append_iff_right hdet hu hname hgoes,
    Shape.word_name_append_iff hw hapart hv]

/-- A declaration without a first value declares a name. -/
theorem isSingle_declaration_iff {d : Text × Kind} (hd : d ∈ Keyword.declarations) :
    IsSingle d.2 (d.1 ++ " " ++ (w ++ ";")) ↔ Word name w := by
  have hfirst : ∀ d ∈ Keyword.declarations,
      (d.1 ++ " ").head?.map isBlank = some false := by decide
  obtain ⟨later, hrule, hapart, hlater⟩ := exists_rule_declaration hd
  have hkeyword : Word (.text d.1 ++ gap) (d.1 ++ " ") :=
    .seq (.text _) (Rule.word_of_covers (by decide))
  exact isSingle_named_iff hw hrule hkeyword hlater rfl hapart (hfirst d hd) (by decide)

/-- An input reads a name. -/
theorem isSingle_input_iff : IsSingle .input ("kiara.entrada(" ++ (w ++ ");")) ↔ Word name w := by
  have hshape : ∃ r ∈ Rule.table, r.kind = some .input
      ∧ r.shape = "kiara.entrada" ++ blanks ++ "(" ++ blanks ++ name ++ blanks ++ ")"
        ++ blanks ++ ";" := by decide
  have hrule : ∃ r ∈ Rule.table, r.kind = some .input
      ∧ ∀ t, Word r.shape t ↔ Word ("kiara.entrada" ++ blanks ++ "(" ++ blanks
        ++ (name ++ (blanks ++ (")" ++ (blanks ++ ";"))))) t := by
    obtain ⟨r, hr, hkind, hshape⟩ := hshape
    refine ⟨r, hr, hkind, fun t => ?_⟩
    rw [hshape]
    simp only [Pattern.word_append_assoc]
  exact isSingle_named_iff hw hrule (Rule.word_of_covers (by decide))
    (Rule.word_of_covers (by decide)) (by decide) (by decide) (by decide) (by decide)

/-- An assignment assigns to a name. -/
theorem isSingle_assignment_iff : IsSingle .assignment (w ++ " = 0;") ↔ Word name w := by
  obtain ⟨r, hr, hkind, hshape⟩ := Rule.exists_assignment
  have hwords : ∀ t, Word r.shape t ↔ Word (name ++ (blanks ++ (opt (one .arithmetic)
      ++ ("=" ++ (blanks ++ (Shape.anyValue ++ ";")))))) t := by
    intro t
    rw [hshape]
    unfold Shape.assignment
    simp only [Pattern.word_append_assoc]
  rw [isSingle_iff hr hkind]
  by_cases hnil : w = []
  · -- without a name the blank in front is trimmed, and nothing begins so
    subst hnil
    have htrim : Text.trim (([] : Text) ++ " = 0;") = "= 0;" := by decide
    rw [htrim, hwords]
    refine iff_of_false (fun h => ?_) Shape.not_word_name_nil
    have hfirst := h.first_has
    revert hfirst
    decide
  · have htrim : (w ++ " = 0;").trim = w ++ " = 0;" := by
      apply Text.trim_eq_self
      · rw [List.head?_append_of_ne_nil _ hnil]
        exact hw.head?_not_has (by decide)
      · intro c hc
        rw [List.getLast?_append] at hc
        cases hc
        decide
    rw [htrim, hwords]
    exact Shape.word_name_append_iff hw (by decide) (Rule.word_of_covers (by decide))

-- =============================================================== headers

/-- A condition of name characters is a name. -/
theorem Condition.check_eq_ok_iff_name : Condition.check w = .ok () ↔ Word name w := by
  by_cases hnil : w = []
  · subst hnil
    have hparts : Condition.parts [] = [] :=
      Condition.parts_eq_nil_iff.2 (List.forall_mem_nil _)
    rw [Condition.check_of_nil hparts]
    exact iff_of_false (fun h => by cases h) Shape.not_word_name_nil
  · have hoperand : Condition.IsOperand (oneOrMore (one .nameRest)) :=
      { pass := fun _ hu => Operand.word_quotedOr_of_letters hu (by decide)
        first_not_equals := by decide
        nullable := by decide
        first_not_blank := by decide
        last_not_blank := by decide }
    have hword : Word (oneOrMore (one .nameRest)) w := by
      obtain ⟨c, w, rfl⟩ := List.exists_cons_of_ne_nil hnil
      obtain ⟨hc, hrest⟩ := List.forall_mem_cons.1 (Rule.word_many_one_iff.1 hw)
      exact .seq (.one hc) (Rule.word_many_one_iff.2 hrest)
    have hpadded : Word (Grammar.padded (oneOrMore (one .nameRest))) w :=
      Pattern.word_padded_append_iff.2 ⟨[], w, [], by simp, List.forall_mem_nil _, hword,
        List.forall_mem_nil _⟩
    obtain ⟨hparts, -, -⟩ := hoperand.parts_eq_alternate_iff.2
      ⟨w, [], (List.append_nil w).symm, hpadded, List.forall_mem_nil _,
        (hoperand.trim_eq hword).symm, rfl⟩
    rw [Condition.check_of_singleton hparts]
    exact Operand.checkIdentifier_eq_ok_iff_name

/-- An output of name characters is a name. -/
theorem Output.check_eq_ok_iff_name : Output.check w = .ok () ↔ Word name w := by
  have hquoted : ¬ Word Operand.quotedText w :=
    fun h => h.not_word (by decide) (by decide) hw
  have htrim : w.trim = w := hw.trim_eq (by decide) (by decide)
  have honly : ∀ separator, areApart [.nameRest] [.anyOf ['"', separator]] = true →
      Text.splitTrimmed separator w = [w] := by
    intro separator hapart
    rw [Text.splitTrimmed, Text.split_of_word (Operand.word_quotedOr_of_letters hw hapart),
      List.map_singleton, htrim]
  rw [Output.check_eq_ok_iff_segments, Output.word_segments_iff, honly ',' (by decide),
    List.forall_mem_singleton, Output.word_segment_iff, honly '+' (by decide),
    List.forall_mem_singleton, htrim]
  unfold Grammar.piece
  rw [Pattern.word_or_iff]
  simp [hquoted]

/-- The clauses of a loop over a run of name characters. -/
theorem Loop.clauses_named :
    (("ent " ++ w ++ " = 0; " ++ w ++ " < 1; " ++ w ++ "++").splitOn ';').map Text.trim
      = ["ent " ++ (w ++ " = 0"), Text.trim (w ++ " < 1"), w ++ "++"] := by
  have hheader : "ent " ++ w ++ " = 0; " ++ w ++ " < 1; " ++ w ++ "++" = [';'].intercalate
      ["ent " ++ (w ++ " = 0"), " " ++ (w ++ " < 1"), " " ++ (w ++ "++")] := by
    simp [List.intercalate]
  have hplain : ';' ∉ w := by
    have hnot : ∀ c ∈ w, c ∉ (";" : Text) := hw.not_mem (by decide)
    exact fun hmem => hnot ';' hmem (.head _)
  have hsplit : ([';'].intercalate
      ["ent " ++ (w ++ " = 0"), " " ++ (w ++ " < 1"), " " ++ (w ++ "++")]).splitOn ';'
      = ["ent " ++ (w ++ " = 0"), " " ++ (w ++ " < 1"), " " ++ (w ++ "++")] := by
    apply List.splitOn_intercalate
    · simp [hplain]
    · exact List.cons_ne_nil _ _
  have hblank : ∀ c ∈ (" " : Text), isBlank c = true := List.forall_mem_singleton.2 rfl
  have hinit : Word ("ent " ++ (many (one .nameRest) ++ " = 0")) ("ent " ++ (w ++ " = 0")) :=
    .seq (.text _) (.seq hw (.text _))
  have hupdate : Word (many (one .nameRest) ++ "++") (w ++ "++") := .seq hw (.text _)
  rw [hheader, hsplit, List.map_cons, List.map_cons, List.map_singleton,
    Text.trim_blank_append hblank, Text.trim_blank_append hblank,
    hinit.trim_eq (by decide) (by decide), hupdate.trim_eq (by decide) (by decide)]

/-- A loop declares, compares and steps a name. -/
theorem Loop.check_eq_ok_iff_name :
    Loop.check ("ent " ++ w ++ " = 0; " ++ w ++ " < 1; " ++ w ++ "++") = .ok ()
      ↔ Word name w := by
  have hclauses := Loop.clauses_named hw
  have hstep : Word (blanks ++ Grammar.step) "++" := Rule.word_of_covers (by decide)
  constructor
  · intro h
    obtain ⟨x, k, hheader⟩ := Loop.exists_isHeader_of_check h
    have hscoped := Loop.isHeader_text_iff.2 ⟨hheader, hheader.check_eq_ok_iff_uses.1 h⟩
    have hnamed := hscoped.mono hscoped.declared.of_text
    obtain ⟨init, hsplit, -⟩ := hnamed.clauses
    -- the third clause steps what is declared, so it is a name that stands there
    have hupdate : k.update = w ++ "++" := by
      simpa using congrArg List.getLast? (hsplit.symm.trans hclauses)
    have hword : Word (Grammar.update name) (w ++ "++") := by
      rw [← hupdate]
      exact hnamed.update.append_mono hnamed.stepped.of_text fun _ => id
    exact (Shape.word_name_append_iff hw (by decide) hstep).1 hword
  · intro h
    have hg : Word gap " " := Rule.word_of_covers (by decide)
    have hone : Word integer "1" := Rule.word_of_covers (by decide)
    have hvalue : Word Grammar.firstValue " = 0" := Rule.word_of_covers (by decide)
    have hless : Word (Grammar.padded Grammar.comparing) " < " := Rule.word_of_covers (by decide)
    have hcompared : ∀ {p q : Pattern}, Word p w → Word q "1" →
        Word (Grammar.comparison p q) (w ++ " < 1") := by
      intro p q hp hq
      have hword := Word.seq (.seq hp hless) hq
      rwa [List.append_assoc] at hword
    have htrim := (hcompared h hone).trim_eq (by decide) (by decide)
    have hscoped : Loop.IsHeader (.text w)
        ("ent " ++ w ++ " = 0; " ++ w ++ " < 1; " ++ w ++ "++") w
        ⟨w ++ " < 1", w ++ "++", w, "1", w⟩ :=
      { declared := h
        clauses := ⟨_, by rw [hclauses, htrim]; rfl,
          Loop.word_declaring_iff.2 ⟨_, _, rfl, hg, hvalue⟩⟩
        left := .first (.text w)
        right := .second hone
        stepped := .text w
        condition := hcompared (.text w) (.text "1")
        update := .seq (.text w) hstep }
    obtain ⟨hheader, huses⟩ := Loop.isHeader_text_iff.1 hscoped
    exact hheader.check_eq_ok_iff_uses.2 huses

end Places

-- ================================================================ one notion

/-- Whatever names a variable takes the same words for names. -/
theorem one_notion_of_name (w context : Text) (hw : ∀ c ∈ w, CharClass.nameRest.has c = true) :
    [Operand.checkIdentifier w context = .ok (),
      IsSingle .intDecl ("ent " ++ w ++ ";"),
      IsSingle .floatDecl ("flot " ++ w ++ ";"),
      IsSingle .stringDecl ("cad " ++ w ++ ";"),
      IsSingle .boolDecl ("sn " ++ w ++ ";"),
      IsSingle .genericDecl ("let " ++ w ++ ";"),
      IsSingle .listDecl ("list " ++ w ++ ";"),
      IsSingle .assignment (w ++ " = 0;"),
      IsSingle .input ("kiara.entrada(" ++ w ++ ");"),
      Condition.check w = .ok (),
      Output.check w = .ok (),
      Loop.check ("ent " ++ w ++ " = 0; " ++ w ++ " < 1; " ++ w ++ "++") = .ok ()].TFAE := by
  have hrun : Word (many (one .nameRest)) w := Rule.word_many_one_iff.2 hw
  have hdeclaration : ∀ d ∈ Keyword.declarations,
      (IsSingle d.2 (d.1 ++ " " ++ w ++ ";") ↔ Word name w) := by
    intro d hd
    rw [List.append_assoc]
    exact isSingle_declaration_iff hrun hd
  simp only [Keyword.declarations, List.forall_mem_cons] at hdeclaration
  obtain ⟨hent, hflot, hcad, hsn, hlet, hlist, -⟩ := hdeclaration
  have hinput := isSingle_input_iff hrun
  rw [← List.append_assoc] at hinput
  apply List.tfae_of_forall (Word name w)
  simp only [List.forall_mem_cons]
  exact ⟨Operand.checkIdentifier_eq_ok_iff_name, hent, hflot, hcad, hsn, hlet, hlist,
    isSingle_assignment_iff hrun, hinput, Condition.check_eq_ok_iff_name hrun,
    Output.check_eq_ok_iff_name hrun, Loop.check_eq_ok_iff_name hrun, List.forall_mem_nil _⟩

/-- A word that begins with a keyword is a name everywhere, and a reserved word
nowhere, though a text may go on behind it as if it were one. -/
theorem one_notion_of_keywords :
    (∀ c ∈ ("entero" : Text), CharClass.nameRest.has c = true)
      ∧ IsSingle .listDecl "list entero;"
      ∧ Loop.check "ent entero = 0; entero < 1; entero++" = .ok ()
      ∧ (∀ c ∈ ("No" : Text), CharClass.nameRest.has c = true)
      ∧ ¬ IsSingle .assignment "No = 0;" ∧ Output.check "No" ≠ .ok () := by
  have hlonger : ∀ c ∈ ("entero" : Text), CharClass.nameRest.has c = true :=
    List.all_eq_true.1 (by decide)
  have hreserved : ∀ c ∈ ("No" : Text), CharClass.nameRest.has c = true :=
    List.all_eq_true.1 (by decide)
  have haccepted : Operand.checkIdentifier "entero" "" = .ok () := by decide
  have hrefused : Operand.checkIdentifier "No" "" ≠ .ok () := by decide
  have hsame := one_notion_of_name "entero" "" hlonger
  have hother := one_notion_of_name "No" "" hreserved
  exact ⟨hlonger, (hsame.out 0 6).1 haccepted, (hsame.out 0 11).1 haccepted, hreserved,
    mt (hother.out 0 7).2 hrefused, mt (hother.out 0 10).2 hrefused⟩

end Aula
