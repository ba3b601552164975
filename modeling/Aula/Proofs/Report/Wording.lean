/-
What is said of a fault is said on one line.

A message puts together words of its own, numbers, and texts of the program
between quotes, where a newline is written `\n`. Three texts stand in messages
and tips without quotes (`Cause.unquoted`): what was expected, a reserved word,
and the name of a variable. For the faults that checking finds, none of them
has a newline either (`Program.unquoted_isOneLine`): what was expected is the
checker's own wording, the reserved words are few, and a variable that is not
declared has been seen to be an identifier before it is looked up.
-/
import Aula.Proofs.Pattern.Letters
import Aula.Proofs.Program.Braces
import Aula.Proofs.Text.Line
import Aula.Report

namespace Aula

namespace Text.IsOneLine

-- ============================================================== the parts

theorem append {s t : Text} (hs : s.IsOneLine) (ht : t.IsOneLine) : (s ++ t).IsOneLine := by
  intro hmem
  rcases List.mem_append.1 hmem with hmem | hmem
  · exact hs hmem
  · exact ht hmem

/-- A literal is the list of its characters, and these are looked through. -/
theorem literal {cs : List Char} (h : '\n' ∉ cs) : IsOneLine (String.ofList cs).toList := by
  rw [String.toList_ofList]
  exact h

theorem digitChar {n : Nat} (h : n < 16) : IsOneLine [n.digitChar] := by
  have hall : ∀ k : Fin 16, '\n' ≠ Nat.digitChar k := by decide
  intro hmem
  exact hall ⟨n, h⟩ (List.mem_singleton.1 hmem)

theorem toDigits {base : Nat} (hbase : 1 < base) (hle : base ≤ 16) (n : Nat) :
    IsOneLine (Nat.toDigits base n) := by
  rw [Nat.toDigits_eq_if hbase]
  by_cases hlt : n < base
  · rw [if_pos hlt]
    exact digitChar (by omega)
  · rw [if_neg hlt]
    have hsmaller : n / base < n := Nat.div_lt_self (by omega) hbase
    have hdigit : n % base < base := Nat.mod_lt n (by omega)
    exact (toDigits hbase hle (n / base)).append (digitChar (by omega))

theorem decimal (n : Nat) : (Text.decimal n).IsOneLine := toDigits (by decide) (by decide) n

theorem codePoint (c : Char) : (Text.codePoint c).IsOneLine := by
  have hnumber : (Text.hexadecimal c.toNat).IsOneLine := toDigits (by decide) (by decide) _
  exact ((literal (by decide)).append hnumber).append (literal (by decide))

theorem escape (c : Char) : (Text.escape c).IsOneLine := by
  unfold Text.escape
  split
  any_goals exact literal (by decide)
  next _ _ hnewline _ _ _ =>
    by_cases hhidden : isHidden c = true
    · rw [if_pos hhidden]
      exact codePoint c
    · rw [if_neg hhidden]
      intro hmem
      exact hnewline (List.mem_singleton.1 hmem).symm

theorem quoted (s : Text) : (Text.quoted s).IsOneLine := by
  unfold Text.quoted
  refine ((literal (by decide)).append ?_).append (literal (by decide))
  intro hmem
  obtain ⟨c, -, hc⟩ := List.mem_flatMap.1 hmem
  exact escape c hc

end Text.IsOneLine

open Text (IsOneLine)

theorem Kind.name_isOneLine (k : Kind) : IsOneLine k.name := by
  cases k <;> exact .literal (by decide)

theorem Stage.name_isOneLine (s : Stage) : IsOneLine s.name := by
  cases s <;> exact .literal (by decide)

namespace Cause

open Text.IsOneLine (literal decimal quoted)

theorem name_isOneLine (c : Cause) : IsOneLine c.name := by
  cases c <;> exact .literal (by decide)

/-- A message is made up of literals, numbers and quoted texts, and of what it
shows unquoted. -/
theorem message_isOneLine {c : Cause} (h : c.unquoted.IsOneLine) : c.message.IsOneLine := by
  cases c with
  | unrecognisedInput offset snippet =>
    exact (((literal (by decide)).append (decimal _)).append (literal (by decide))).append
      (quoted _)
  | unexpectedToken expected found lexeme =>
    exact (((((literal (by decide)).append h).append (literal (by decide))).append
      found.name_isOneLine).append (literal (by decide))).append (quoted _)
  | unexpectedStatement kind lexeme =>
    exact (((literal (by decide)).append kind.name_isOneLine).append
      (literal (by decide))).append (quoted _)
  | unclosedBlock depth =>
    exact ((literal (by decide)).append (decimal _)).append (literal (by decide))
  | strayCloseBrace | emptyCondition => exact literal (by decide)
  | loopClauseCount found => exact (literal (by decide)).append (decimal _)
  | reservedWord | invalidOperand | invalidOperator =>
    exact (((literal (by decide)).append (quoted _)).append (literal (by decide))).append
      (quoted _)
  | stringNotAlone | undeclaredLoopVariable =>
    exact ((literal (by decide)).append (quoted _)).append (literal (by decide))
  | missingParentheses | danglingOperator | malformedOutput | invalidLoopInit
  | invalidLoopCondition | invalidLoopUpdate =>
    exact (literal (by decide)).append (quoted _)

theorem tip_isOneLine {c : Cause} (h : c.unquoted.IsOneLine) :
    ∀ tip ∈ c.tip?, tip.IsOneLine := by
  intro tip htip
  cases c with
  | missingParentheses => cases htip
  | unexpectedToken | reservedWord | undeclaredLoopVariable =>
    cases htip
    exact ((literal (by decide)).append h).append (literal (by decide))
  | unclosedBlock depth =>
    cases htip
    exact ((literal (by decide)).append (decimal _)).append (literal (by decide))
  | unrecognisedInput =>
    cases htip
    exact (literal (by decide)).append (literal (by decide))
  | _ =>
    cases htip
    exact literal (by decide)

end Cause

-- ========================================================== the unquoted

theorem Keyword.reserved_isOneLine : ∀ word ∈ reserved, IsOneLine word := by
  unfold IsOneLine
  decide

theorem Cause.unquoted_of_isOfBraces {c : Cause} (h : c.isOfBraces = true) :
    c.unquoted = [] := by
  cases c <;> first | rfl | cases h

theorem Header.Finds.unquoted_isOneLine {c : Cause} (h : Header.Finds c) :
    c.unquoted.IsOneLine := by
  cases h with
  | reserved hword => exact Keyword.reserved_isOneLine _ (List.contains_iff_mem.1 hword)
  | undeclared hname =>
    have hapart : CharClass.areApart Shape.identifier.letters [.anyOf "\n"] = true := by decide
    exact fun hmem => hname.not_mem hapart _ hmem (by decide)
  | quoted hheader hquoted =>
    rw [hquoted]
    exact List.not_mem_nil

theorem Walker.Refuses.unquoted_isOneLine {w : Walker} {g : Goal} {c : Cause}
    (h : w.Refuses g c) : c.unquoted.IsOneLine := by
  cases h with
  | block => exact .literal (by decide)
  | header _ hc _ hcheck => exact (Handler.finds_of_check hc hcheck).unquoted_isOneLine
  | unclosed | stray | statement | parentheses => exact List.not_mem_nil

/-- Whatever the fault of a source, what is shown of it without quotes has no
newline. -/
theorem Program.unquoted_isOneLine {source : Text} {f : Fault}
    (h : check source = .error f) : f.cause.unquoted.IsOneLine := by
  rcases check_eq_error_iff.1 h with hread | ⟨stream, -, hparse⟩
  · unfold tokenize Scan.stream at hread
    split at hread
    · cases hread
    · cases hread
      exact List.not_mem_nil
  · rcases parse_eq_error hparse with hbalance | ⟨-, hstops⟩
    · rw [Cause.unquoted_of_isOfBraces (Balance.isOfBraces_of_check hbalance)]
      exact List.not_mem_nil
    · cases hstops with
      | main _ _ hcause =>
        rw [hcause]
        exact .literal (by decide)
      | behind _ _ _ _ hcause =>
        rw [hcause]
        exact .literal (by decide)
      | block _ hpath hstep =>
        have hstands := hpath.stands (inside_stands stream)
        obtain ⟨-, hrefuses⟩ :=
          Walker.refuses_of_step hstands.table (hstands.waits _ (.head _)) hstep
        exact hrefuses.unquoted_isOneLine

end Aula
