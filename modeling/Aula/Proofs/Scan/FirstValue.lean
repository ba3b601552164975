/-
First values of declarations.

The keywords `ent`, `flot` and `cad` say what kind of value a variable holds,
and the first value has to fit. What its operands are is said without regard to
that kind: numbers, strings and identifiers, with operators between them
(`Gives`). They are determined by the text (`Gives.unique`).

# Reserved words

The name that is declared must not be reserved. The rules do not ask the same
of an operand: where a variable may stand they take any identifier, a truth
value or a keyword as well as a name. So each operand is a literal of the kind
that is declared or an identifier, and no more can be said, for whatever such
operands there are, a first value of them is read (`operands_fit`).
-/
import Aula.Proofs.Rule.Chain
import Aula.Proofs.Scan.Single

namespace Aula.FirstValue

open Pattern (Word)
open Text (Continues)
open Shape (blanks gap identifier name integer number string chain declaration operand Chained)

-- ========================================================== declarations

/-- The declaration has no first value. -/
def IsBare (keyword s : Text) : Prop := Word (.text keyword ++ gap ++ name ++ blanks ++ ";") s

/-- The declaration has a first value with the given operands. -/
def Gives (keyword s : Text) (ops : List Text) : Prop :=
  ∃ u v, s = u ++ (v ++ ";")
    ∧ Word (.text keyword ++ gap ++ name ++ blanks ++ ("=" ++ blanks)) u
    ∧ Chained operand .arithmetic v ops

/-- The operands of a first value are determined. -/
theorem Gives.unique {keyword s : Text} {ops ops' : List Text} (h : Gives keyword s ops)
    (h' : Gives keyword s ops') : ops = ops' := by
  obtain ⟨u, v, rfl, hu, hv⟩ := h
  obtain ⟨u', v', heq, hu', hv'⟩ := h'
  have hfront : (.text keyword ++ gap ++ name ++ blanks ++ ("=" ++ blanks) :
      Pattern).isDeterministic operand.first = true := rfl
  obtain ⟨-, heq⟩ :=
    Word.append_inj hfront hu hu' (hv.continues ";") (hv'.continues ";") heq
  obtain rfl := List.append_cancel_right heq
  exact hv.unique hv'

/-- Behind the name and its blanks comes the end or an equals sign. -/
theorem IsBare.not_gives {keyword s : Text} {ops : List Text} (h : IsBare keyword s) :
    ¬ Gives keyword s ops := by
  intro h'
  obtain ⟨u, v, rfl, hu, -⟩ := h'
  obtain ⟨front, e, heq, hfront, he⟩ := Pattern.word_append_iff.1 h
  obtain ⟨front', sign, rfl, hfront', hsign⟩ := Pattern.word_append_iff.1 hu
  have hdet : (.text keyword ++ gap ++ name ++ blanks : Pattern).isDeterministic
      [.anyOf "=", .anyOf ";"] = true := rfl
  have hsign' : Continues [.anyOf "="] (sign ++ (v ++ ";")) :=
    (hsign.continues_append (Text.continues_all _)).mono (by decide)
  rw [List.append_assoc] at heq
  obtain ⟨-, heq⟩ := Word.append_inj hdet hfront' hfront (hsign'.mono (by simp))
    (he.continues.mono (by decide)) heq
  rw [heq, Pattern.word_text_iff.1 he] at hsign'
  obtain ⟨k, hk, hhas⟩ := Text.continues_cons.1 hsign'
  revert k
  decide

/-- A declaration is bare, or has a value behind an equals sign. -/
theorem word_declaration_iff {keyword value : Pattern} {s : Text} :
    Word (declaration keyword value) s
      ↔ Word (keyword ++ gap ++ name ++ blanks ++ ";") s
        ∨ ∃ u v, s = u ++ (v ++ ";")
          ∧ Word (keyword ++ gap ++ name ++ blanks ++ ("=" ++ blanks)) u ∧ Word value v := by
  unfold declaration
  constructor
  · intro h
    obtain ⟨most, e, rfl, hmost, he⟩ := Pattern.word_append_iff.1 h
    obtain rfl := Pattern.word_text_iff.1 he
    obtain ⟨front, later, rfl, hfront, hlater⟩ := Pattern.word_append_iff.1 hmost
    rcases Pattern.word_or_iff.1 hlater with hvalue | hnone
    · obtain ⟨sign, v, rfl, hsign, hv⟩ := Pattern.word_append_iff.1 hvalue
      exact .inr ⟨front ++ sign, v, by simp, .seq hfront hsign, hv⟩
    · obtain rfl := Pattern.word_text_iff.1 hnone
      rw [List.append_nil]
      exact .inl (.seq hfront he)
  · intro h
    rcases h with hbare | ⟨u, v, rfl, hu, hv⟩
    · obtain ⟨front, e, rfl, hfront, he⟩ := Pattern.word_append_iff.1 hbare
      rw [← List.append_nil front]
      exact .seq (.seq hfront (.second (.text []))) he
    · obtain ⟨front, sign, rfl, hfront, hsign⟩ := Pattern.word_append_iff.1 hu
      rw [← List.append_assoc, List.append_assoc front]
      exact .seq (.seq hfront (.first (.seq hsign hv))) (.text _)

-- ========================================================= declared kinds

/-- A kind of declaration that says what its first value is made of. -/
structure Typed where
  keyword : Text
  kind : Kind
  /-- The literals of the kind. -/
  literal : Pattern
  /-- The operators that may join operands. -/
  operators : CharClass
deriving DecidableEq

/-- The declarations of whole numbers, numbers and strings. -/
def typed : List Typed :=
  [⟨"ent", .intDecl, integer, .arithmetic⟩, ⟨"flot", .floatDecl, number, .arithmetic⟩,
   ⟨"cad", .stringDecl, string, .anyOf "+"⟩]

namespace Typed

/-- The shape of such a declaration. -/
def shape (d : Typed) : Pattern := declaration (.text d.keyword) (chain d.literal d.operators)

/-- What the declaration takes for an operand: a literal of its kind, or any
identifier. -/
def Fits (d : Typed) (op : Text) : Prop := Word d.literal op ∨ Word identifier op

/-- The declaration of a variable, with a sum of operands for a first value. -/
def write (d : Typed) (x : Text) (ops : List Text) : Text :=
  d.keyword ++ " " ++ x ++ " " ++ "= " ++ ((" + " : Text).intercalate ops ++ ";")

variable {d : Typed} (hd : d ∈ typed)
include hd

/-- The rule that reads it. -/
theorem exists_rule : ∃ r ∈ Rule.table, r.kind = some d.kind ∧ r.shape = d.shape := by
  have hrules : ∀ d ∈ typed, ∃ r ∈ Rule.table, r.kind = some d.kind ∧ r.shape = d.shape := by
    decide
  exact hrules d hd

/-- What fits is an operand. -/
theorem operand_of_fits {op : Text} (h : Word (d.literal ||| identifier) op) :
    Word operand op := by
  have hliteral : ∀ d ∈ typed, ∀ w, Word d.literal w → Word (number ||| string) w := by
    simp only [typed, List.forall_mem_cons]
    exact ⟨fun _ hw => .first (Shape.word_number_of_integer hw), fun _ hw => .first hw,
      fun _ hw => .second hw, List.forall_mem_nil _⟩
  exact Pattern.word_or_iff.2 ((Pattern.word_or_iff.1 h).imp_left (hliteral d hd op))

/-- Operands are joined by arithmetic operators, by plus signs if not by
others. -/
theorem operators_has :
    d.operators.has '+' = true
      ∧ ∀ c, d.operators.has c = true → CharClass.arithmetic.has c = true := by
  have hplus : ∀ d ∈ typed, d.operators.has '+' = true := by decide
  have hall : ∀ d ∈ typed, ∀ c, d.operators.has c = true → CharClass.arithmetic.has c = true := by
    have honly : ∀ c, (CharClass.anyOf "+").has c = true → CharClass.arithmetic.has c = true := by
      intro c hc
      obtain rfl := List.mem_singleton.1 (CharClass.has_anyOf.1 hc)
      decide
    simp only [typed, List.forall_mem_cons]
    exact ⟨fun _ => id, fun _ => id, honly, List.forall_mem_nil _⟩
  exact ⟨hplus d hd, hall d hd⟩

-- ============================================================= what is read

/-- What has the shape is bare, or has a first value that fits. -/
theorem gives_of_word {s : Text} (h : Word d.shape s) :
    IsBare d.keyword s ∨ ∃ ops, Gives d.keyword s ops ∧ ∀ op ∈ ops, d.Fits op := by
  rcases word_declaration_iff.1 h with hbare | ⟨u, v, rfl, hu, hv⟩
  · exact .inl hbare
  · obtain ⟨ops, hops⟩ := Shape.word_chain_iff.1 hv
    obtain ⟨-, hoperators⟩ := operators_has hd
    refine .inr ⟨ops, ⟨u, v, rfl, hu, hops.mono (fun _ => operand_of_fits hd) hoperators⟩, ?_⟩
    exact fun op hop => Pattern.word_or_iff.1 (hops.forall_word op hop)

/-- A sum of operands that fit has the shape of a first value. -/
theorem word_write {x : Text} {ops : List Text} (hx : Word name x) (hne : ops ≠ [])
    (hops : ∀ op ∈ ops, d.Fits op) :
    Gives d.keyword (d.write x ops) ops ∧ Word d.shape (d.write x ops) := by
  obtain ⟨hplus, hoperators⟩ := operators_has hd
  have hfront : Word (.text d.keyword ++ gap ++ name ++ blanks ++ ("=" ++ blanks))
      (d.keyword ++ " " ++ x ++ " " ++ "= ") :=
    .seq (.seq (.seq (.seq (.text _) (Rule.word_of_covers (by decide))) hx)
      (Rule.word_of_covers (by decide))) (Rule.word_of_covers (by decide))
  have hchain : Chained (d.literal ||| identifier) d.operators
      ((" + " : Text).intercalate ops) ops :=
    .intercalate hplus hne fun op hop => Pattern.word_or_iff.2 (hops op hop)
  constructor
  · exact ⟨_, _, rfl, hfront, hchain.mono (fun _ => operand_of_fits hd) hoperators⟩
  · exact word_declaration_iff.2
      (.inr ⟨_, _, rfl, hfront, Shape.word_chain_iff.2 ⟨ops, hchain⟩⟩)

/-- A token of the kind has the shape. -/
theorem word_of_tokenize {source : Text} {stream : Stream} (hread : tokenize source = .ok stream)
    {t : Token} (ht : t ∈ stream.toList) (hkind : t.kind = d.kind) : Word d.shape t.lexeme := by
  obtain ⟨r, hr, hrule, hshape⟩ := exists_rule hd
  have hbody : t ∈ stream.body := by
    rcases List.mem_append.1 ht with ht | ht
    · exact ht
    · rw [← hkind, List.mem_singleton.1 ht, stream.final_kind] at hrule
      exact absurd hrule (Rule.table_not_endOfInput r hr)
  obtain ⟨r', hr', hrule', hword⟩ := exists_rule_of_tokenize hread hbody
  obtain rfl := Rule.table_kind_inj r' hr' r hr (by rw [hrule', hrule, hkind])
  rwa [← hshape]

end Typed

/-- A declaration that is read, of a whole number, a number or a string, has no
first value, or one whose operands are literals of that kind and identifiers.
These are any identifiers, reserved or not: whatever the operands are of which
that is true, a declaration with their sum for a first value is read. -/
theorem operands_fit (d : Typed) (hd : d ∈ typed) :
    (∀ source stream, tokenize source = .ok stream → ∀ t ∈ stream.toList, t.kind = d.kind →
        (IsBare d.keyword t.lexeme ∨ ∃ ops, Gives d.keyword t.lexeme ops)
          ∧ ∀ ops, Gives d.keyword t.lexeme ops → ∀ op ∈ ops, d.Fits op)
      ∧ ∀ x ops, Word name x → ops ≠ [] → (∀ op ∈ ops, d.Fits op) →
          Gives d.keyword (d.write x ops) ops
            ∧ tokenize (d.write x ops) = .ok (.single d.kind (d.write x ops)) := by
  constructor
  · intro source stream hread t ht hkind
    rcases Typed.gives_of_word hd (Typed.word_of_tokenize hd hread ht hkind) with
      hbare | ⟨ops, hgives, hfits⟩
    · exact ⟨.inl hbare, fun ops hgives => absurd hgives hbare.not_gives⟩
    · refine ⟨.inr ⟨ops, hgives⟩, fun ops' hgives' => ?_⟩
      rwa [hgives'.unique hgives]
  · intro x ops hx hne hops
    obtain ⟨r, hr, hrule, hshape⟩ := Typed.exists_rule hd
    obtain ⟨hgives, hword⟩ := Typed.word_write hd hx hne hops
    exact ⟨hgives, tokenize_of_word hr hrule (by rwa [hshape])⟩

/-- A literal, a name and two reserved words, added up. -/
theorem operands_fit_of_keywords :
    (⟨"flot", .floatDecl, number, .arithmetic⟩ : Typed) ∈ typed
      ∧ tokenize "flot x = 2.5 + y + True + para;"
        = .ok (.single .floatDecl "flot x = 2.5 + y + True + para;")
      ∧ Gives "flot" "flot x = 2.5 + y + True + para;" ["2.5", "y", "True", "para"]
      ∧ Typed.Fits ⟨"flot", .floatDecl, number, .arithmetic⟩ "True" := by
  have hd : (⟨"flot", .floatDecl, number, .arithmetic⟩ : Typed) ∈ typed := .tail _ (.head _)
  obtain ⟨hsound, hcomplete⟩ := operands_fit _ hd
  have hx : Word name "x" := Rule.word_of_covers (by decide)
  obtain ⟨hgives, hread⟩ := hcomplete "x" ["2.5", "y", "True", "para"] hx (List.cons_ne_nil _ _)
    (by
      simp only [List.forall_mem_cons]
      exact ⟨.inl (Rule.word_of_covers (by decide)), .inr (Rule.word_of_covers (by decide)),
        .inr (Rule.word_of_covers (by decide)), .inr (Rule.word_of_covers (by decide)),
        List.forall_mem_nil _⟩)
  obtain ⟨-, hfits⟩ := hsound _ _ hread _ (.head _) rfl
  exact ⟨hd, hread, hgives, hfits _ hgives "True" (by decide)⟩

/-- Not every operand of a first value is a literal of the declared kind or an
identifier that is not reserved. -/
theorem operand_reserved :
    tokenize "ent x = True;" = .ok (.single .intDecl "ent x = True;")
      ∧ Gives "ent" "ent x = True;" ["True"]
      ∧ ¬ (Word integer "True" ∨ Word identifier "True" ∧ ("True" : Text) ∉ Keyword.reserved) := by
  have hd : (⟨"ent", .intDecl, integer, .arithmetic⟩ : Typed) ∈ typed := .head _
  have htrue : Word identifier "True" := Rule.word_of_covers (by decide)
  obtain ⟨r, hr, hrule, hshape⟩ := Typed.exists_rule hd
  obtain ⟨hgives, hword⟩ := Typed.word_write hd (x := "x") (Rule.word_of_covers (by decide))
    (List.cons_ne_nil _ _) (List.forall_mem_singleton.2 (.inr htrue))
  rw [← hshape] at hword
  refine ⟨tokenize_of_word hr hrule hword, hgives, fun h => ?_⟩
  rcases h with hinteger | ⟨-, hout⟩
  · exact htrue.not_word (by decide) (by decide) hinteger
  · exact hout (by decide)

end Aula.FirstValue
