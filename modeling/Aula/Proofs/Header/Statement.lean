/-
The clauses of a loop are statements.

A loop header has shapes of its own for its clauses, beside those of the
statements that they look like. They are narrower: with a semicolon behind it,
the first clause is a declaration of a whole number, and the third one is an
assignment, unless it steps by one. The second clause is a condition.

A first value and a step are a single operand. An operand on its own is a chain,
and that is all the two sides have in common (`Shape.word_chain_of_operand`);
what stands in front of it is the same in both, piece by piece.
-/
import Aula.Proofs.Header.Loop
import Aula.Proofs.Rule.Chain
import Aula.Proofs.Scan.Single

namespace Aula

open Pattern (Word)
open Text (splitTrimmed)
open Shape (integer number string identifier name blanks chain declaration)
open Grammar (firstValue declaring comparison step update)

-- ============================================================== operands

namespace Shape

/-- A first value of a loop is one of a declaration. -/
theorem word_declaration_of_firstValue {x g v : Text} {operators : CharClass}
    (hg : Word gap g) (hx : Word name x) (hv : Word firstValue v) :
    Word (declaration "ent" (chain integer operators)) ("ent" ++ (g ++ (x ++ v)) ++ ";") := by
  unfold firstValue at hv
  simp only [Pattern.word_append_assoc] at hv
  simp only [Pattern.word_append_iff] at hv
  obtain ⟨b, _, rfl, hb, e, _, rfl, he, a, n, rfl, ha, hn⟩ := hv
  have hvalue : Word (Pattern.opt ("=" ++ blanks ++ chain integer operators)) (e ++ a ++ n) :=
    .first (.seq (.seq he ha) (word_chain_of_operand (.first hn)))
  have hword : Word (declaration "ent" (chain integer operators))
      ("ent" ++ g ++ x ++ b ++ (e ++ a ++ n) ++ ";") :=
    .seq (.seq (.seq (.seq (.seq (.text _) hg) hx) hb) hvalue) (.text _)
  simpa using hword

/-- A step of a loop that is not by one is an assignment. -/
theorem word_assignment_of_step {x e : Text} (hx : Word name x) (he : Word (blanks ++ step) e)
    (hplus : ¬ "++" <:+ e) (hminus : ¬ "--" <:+ e) : Word assignment (x ++ e ++ ";") := by
  obtain ⟨b, f, rfl, hb, hf⟩ := Pattern.word_append_iff.1 he
  unfold step at hf
  rcases Pattern.word_or_iff.1 hf with hsign | hassign
  · -- a sign on its own steps by one
    rcases Pattern.word_or_iff.1 hsign with h | h
    · exact absurd ⟨b, by rw [Pattern.word_text_iff.1 h]⟩ hplus
    · exact absurd ⟨b, by rw [Pattern.word_text_iff.1 h]⟩ hminus
  · simp only [Pattern.word_append_assoc] at hassign
    simp only [Pattern.word_append_iff] at hassign
    obtain ⟨o, _, rfl, ho, s, _, rfl, hs, a, n, rfl, ha, hn⟩ := hassign
    have hvalue : Word anyValue n :=
      word_chain_of_operand (.first (.first (word_number_of_integer hn)))
    have hword : Word assignment (x ++ b ++ o ++ s ++ a ++ n ++ ";") :=
      .seq (.seq (.seq (.seq (.seq (.seq hx hb) (.first ho)) hs) ha) hvalue) (.text _)
    simpa using hword

end Shape

namespace Loop

-- =============================================================== clauses

/-- A comparison is a condition. -/
theorem check_of_comparison {clause left right : Text} (hl : Word (name ||| integer) left)
    (hr : Word (name ||| integer) right)
    (h : Word (comparison (.text left) (.text right)) clause) :
    Condition.check clause = .ok () := by
  have hshape : ∀ w, Word (name ||| integer) w → Word (identifier ||| integer) w :=
    fun _ hw => Pattern.word_or_iff.2
      ((Pattern.word_or_iff.1 hw).imp_left Operand.identifier_of_name)
  obtain ⟨o, -, hparts⟩ := exists_parts_of_comparison (hshape left hl) (hshape right hr) h
  exact Condition.check_of_operands hparts (List.cons_ne_nil _ _) (.first hl)
    (List.forall_mem_singleton.2 (.first hr))

/-- The clauses of a loop header that is accepted are read as statements on their
own: the first one declares a whole number, the second one is a condition, and
the third one is an assignment, unless it steps by one. -/
theorem clauses_read_as_statements (header : Text) (h : check header = .ok ()) :
    ∃ init condition update, splitTrimmed ';' header = [init, condition, update]
      ∧ tokenize (init ++ ";") = .ok (.single .intDecl (init ++ ";"))
      ∧ Condition.check condition = .ok ()
      ∧ (¬ "++" <:+ update → ¬ "--" <:+ update →
          tokenize (update ++ ";") = .ok (.single .assignment (update ++ ";"))) := by
  have hdeclaration : ∃ r ∈ Rule.table, r.kind = some .intDecl
      ∧ r.shape = declaration "ent" (chain integer .arithmetic) := by decide
  obtain ⟨x, k, hheader⟩ := exists_isHeader_of_check h
  obtain ⟨init, hsplit, hinit⟩ := hheader.splitTrimmed_eq
  have hscoped := isHeader_text_iff.2 ⟨hheader, hheader.check_eq_ok_iff_uses.1 h⟩
  have hx := hscoped.declared
  have hnamed : IsHeader name header x k := hscoped.mono hx.of_text
  refine ⟨init, k.condition, k.update, hsplit, ?_, ?_, fun hplus hminus => ?_⟩
  · obtain ⟨r, hr, hkind, hshape⟩ := hdeclaration
    obtain ⟨g, v, rfl, hg, hv⟩ := word_declaring_iff.1 hinit
    apply tokenize_of_word hr hkind
    rw [hshape]
    exact Shape.word_declaration_of_firstValue hg hx hv
  · exact check_of_comparison hnamed.left hnamed.right hnamed.condition
  · obtain ⟨r, hr, hkind, hshape⟩ := Rule.exists_assignment
    obtain ⟨s, e, heq, hs, he⟩ := Pattern.word_append_iff.1 hscoped.update
    obtain rfl := Pattern.word_text_iff.1 hs
    obtain rfl := Pattern.word_text_iff.1 hscoped.stepped
    rw [heq] at hplus hminus ⊢
    apply tokenize_of_word hr hkind
    rw [hshape]
    exact Shape.word_assignment_of_step hx he
      (mt (fun h => h.trans (List.suffix_append _ _)) hplus)
      (mt (fun h => h.trans (List.suffix_append _ _)) hminus)

/-- A header with blanks in its clauses, of several kinds or none, and a step by
more than one. -/
theorem clauses_read_as_statements_of_wide :
    check "ent\u3000i=-1;10>=i; i\t+= 2" = .ok ()
      ∧ tokenize "ent\u3000i=-1;" = .ok (.single .intDecl "ent\u3000i=-1;")
      ∧ Condition.check "10>=i" = .ok ()
      ∧ tokenize "i\t+= 2;" = .ok (.single .assignment "i\t+= 2;") := by
  have hheader : IsHeader (.text "i") "ent\u3000i=-1;10>=i; i\t+= 2" "i"
      ⟨"10>=i", "i\t+= 2", "10", "i", "i"⟩ :=
    { declared := Operand.word_name_iff.2 (by decide)
      clauses := ⟨"ent\u3000i=-1", by decide, Rule.word_of_covers (by decide)⟩
      left := Rule.word_of_covers (by decide)
      right := Rule.word_of_covers (by decide)
      stepped := .text _
      condition := Rule.word_of_covers (by decide)
      update := Rule.word_of_covers (by decide) }
  obtain ⟨hshape, huses⟩ := isHeader_text_iff.1 hheader
  have hcheck := hshape.check_eq_ok_iff_uses.2 huses
  obtain ⟨init, condition, update, hclauses, hinit, hcondition, hupdate⟩ :=
    clauses_read_as_statements _ hcheck
  have hthree : splitTrimmed ';' "ent\u3000i=-1;10>=i; i\t+= 2"
      = ["ent\u3000i=-1", "10>=i", "i\t+= 2"] := by decide
  obtain ⟨rfl, rfl, rfl⟩ : init = "ent\u3000i=-1" ∧ condition = "10>=i" ∧ update = "i\t+= 2" := by
    simpa using hclauses.symm.trans hthree
  exact ⟨hcheck, hinit, hcondition, hupdate (by decide) (by decide)⟩

end Loop

end Aula
