/-
What a check of a text in parentheses can find.

The causes fall in two: those about the text of a header, and those about
where a token stands. The checks of outputs, conditions and loops only
ever find causes of the first sort (`Handler.isOfHeader_of_check`), so a
fault about braces, or about parentheses that are missing, comes from the
walk and from nowhere else.

Two of them name a word without quoting it: the one that is reserved, and
the variable that is not declared. `Header.Finds` remembers what a check
knows of that word when it names it.
-/
import Aula.Proofs.Header.Cutting
import Aula.Proofs.Rule.Exclusion
import Aula.Proofs.Walker.Moves

namespace Aula

namespace Header

-- ======================================================= checks in a row

variable {ε α β : Type}

/-- Two checks in a row succeed if both do. -/
theorem bind_eq_ok_iff {x : Except ε α} {f : α → Except ε β} {b : β} :
    (x >>= f) = .ok b ↔ ∃ a, x = .ok a ∧ f a = .ok b := by
  cases x with
  | error e =>
    constructor
    · intro h
      cases h
    · rintro ⟨a, ⟨⟩, -⟩
  | ok a =>
    constructor
    · exact fun h => ⟨a, rfl, h⟩
    · rintro ⟨_, ⟨⟩, h⟩
      exact h

/-- Two checks in a row find what the first one finds or, if that finds
nothing, the second. -/
theorem bind_eq_error_iff {x : Except ε α} {f : α → Except ε β} {e : ε} :
    (x >>= f) = .error e ↔ x = .error e ∨ ∃ a, x = .ok a ∧ f a = .error e := by
  cases x with
  | error e' =>
    constructor
    · intro h
      cases h
      exact .inl rfl
    · rintro (h | ⟨a, ⟨⟩, -⟩)
      cases h
      rfl
  | ok a =>
    constructor
    · exact fun h => .inr ⟨a, rfl, h⟩
    · rintro (⟨⟨⟩⟩ | ⟨_, ⟨⟩, h⟩)
      exact h

/-- A check does not succeed exactly if it finds something. -/
theorem ne_ok_iff {x : Except ε Unit} : x ≠ .ok () ↔ ∃ e, x = .error e := by
  cases x with
  | ok => simp
  | error e => simp

/-- A check made of each member of a list succeeds if every one passes. -/
theorem forM_eq_ok_iff {check : α → Except ε Unit} {l : List α} :
    l.forM check = .ok () ↔ ∀ x ∈ l, check x = .ok () := by
  induction l with
  | nil => simp [List.forM, pure, Except.pure]
  | cons x l ih =>
    show (check x >>= fun _ => l.forM check) = _ ↔ _
    rw [bind_eq_ok_iff, List.forall_mem_cons]
    constructor
    · rintro ⟨_, hx, hl⟩
      exact ⟨hx, ih.1 hl⟩
    · rintro ⟨hx, hl⟩
      exact ⟨(), hx, ih.2 hl⟩

/-- The first member of a list for which something holds. -/
def IsFirst (holds : α → Prop) (x : α) (l : List α) : Prop :=
  ∃ before after, l = before ++ x :: after ∧ (∀ y ∈ before, ¬ holds y) ∧ holds x

theorem IsFirst.mem {holds : α → Prop} {x : α} {l : List α} (h : IsFirst holds x l) : x ∈ l := by
  obtain ⟨before, after, rfl, -, -⟩ := h
  exact List.mem_append_right before (.head after)

theorem IsFirst.holds {holds : α → Prop} {x : α} {l : List α} (h : IsFirst holds x l) :
    holds x := by
  obtain ⟨_, _, -, -, hx⟩ := h
  exact hx

/-- It does not matter how it is said what holds. -/
theorem isFirst_congr {holds holds' : α → Prop} {x : α} {l : List α}
    (h : ∀ y ∈ l, (holds y ↔ holds' y)) : IsFirst holds x l ↔ IsFirst holds' x l := by
  unfold IsFirst
  refine exists_congr fun before => exists_congr fun after => and_congr_right fun heq => ?_
  subst heq
  obtain ⟨hbefore, hx⟩ := List.forall_mem_append.1 h
  exact and_congr (forall₂_congr fun y hy => not_congr (hbefore y hy)) (hx x (.head after))

/-- The first member is the one in front, or else one behind it. -/
theorem isFirst_cons {holds : α → Prop} {x y : α} {l : List α} :
    IsFirst holds x (y :: l) ↔ (holds y ∧ x = y) ∨ (¬ holds y ∧ IsFirst holds x l) := by
  constructor
  · intro h
    obtain ⟨before, after, heq, hbefore, hx⟩ := h
    cases before with
    | nil =>
      obtain ⟨rfl, rfl⟩ := List.cons.inj heq
      exact .inl ⟨hx, rfl⟩
    | cons z before =>
      obtain ⟨rfl, rfl⟩ := List.cons.inj heq
      obtain ⟨hy, hbefore⟩ := List.forall_mem_cons.1 hbefore
      exact .inr ⟨hy, before, after, rfl, hbefore, hx⟩
  · intro h
    rcases h with ⟨hy, rfl⟩ | ⟨hy, before, after, rfl, hbefore, hx⟩
    · exact ⟨[], l, rfl, List.forall_mem_nil _, hy⟩
    · exact ⟨y :: before, after, rfl, List.forall_mem_cons.2 ⟨hy, hbefore⟩, hx⟩

/-- What it finds is wrong with the first member that does not pass. -/
theorem forM_eq_error_iff {check : α → Except ε Unit} {l : List α} {e : ε} :
    l.forM check = .error e
      ↔ ∃ x, IsFirst (fun y => check y ≠ .ok ()) x l ∧ check x = .error e := by
  induction l with
  | nil =>
    constructor
    · intro h
      cases h
    · intro h
      obtain ⟨x, hfirst, -⟩ := h
      cases hfirst.mem
  | cons y l ih =>
    show (check y >>= fun _ => l.forM check) = _ ↔ _
    rw [bind_eq_error_iff, ih]
    simp only [isFirst_cons]
    constructor
    · intro h
      rcases h with hy | ⟨_, hy, x, hfirst, hx⟩
      · exact ⟨y, .inl ⟨by rw [hy]; nofun, rfl⟩, hy⟩
      · exact ⟨x, .inr ⟨not_not_intro hy, hfirst⟩, hx⟩
    · intro h
      obtain ⟨x, ⟨hy, rfl⟩ | ⟨hy, hfirst⟩, hx⟩ := h
      · exact .inl hx
      · exact .inr ⟨(), not_not.1 hy, x, hfirst, hx⟩

theorem exists_of_forM_eq_error {check : α → Except ε Unit} {l : List α} {e : ε}
    (h : l.forM check = .error e) : ∃ x ∈ l, check x = .error e := by
  obtain ⟨x, hfirst, hx⟩ := forM_eq_error_iff.1 h
  exact ⟨x, hfirst.mem, hx⟩

end Header

open Header (bind_eq_error_iff exists_of_forM_eq_error)

-- ===================================================== causes of headers

/-- Whether the cause is about the text of a header. -/
def Cause.isOfHeader : Cause → Bool
  | .unrecognisedInput _ _ | .unexpectedToken _ _ _ | .unexpectedStatement _ _
  | .unclosedBlock _ | .strayCloseBrace | .missingParentheses _ => false
  | .reservedWord _ _ | .invalidOperand _ _ | .invalidOperator _ _ | .emptyCondition
  | .danglingOperator _ | .malformedOutput _ | .stringNotAlone _ | .loopClauseCount _
  | .invalidLoopInit _ | .invalidLoopCondition _ | .invalidLoopUpdate _
  | .undeclaredLoopVariable _ => true

/-- The text that a cause shows without quotes around it. -/
def Cause.unquoted : Cause → Text
  | .unexpectedToken expected _ _ => expected
  | .reservedWord word _ => word
  | .undeclaredLoopVariable name => name
  | _ => []

/-- What the check of a header may find. -/
inductive Header.Finds : Cause → Prop where
  | reserved {word context : Text} (h : Keyword.isReserved word = true) :
      Finds (.reservedWord word context)
  | undeclared {name : Text} (h : Pattern.Word Shape.identifier name) :
      Finds (.undeclaredLoopVariable name)
  | quoted {cause : Cause} (hheader : cause.isOfHeader = true) (hquoted : cause.unquoted = []) :
      Finds cause

open Header (Finds)

theorem Header.Finds.isOfHeader {cause : Cause} (h : Finds cause) : cause.isOfHeader = true := by
  cases h with
  | reserved => rfl
  | undeclared => rfl
  | quoted hheader => exact hheader

variable {cause : Cause}

namespace Operand

/-- What a check of a shape accepts has the shape. -/
theorem shape_of_checkShape {shape : Text → Bool} {word context : Text}
    (h : checkShape shape word context = .ok ()) : shape word = true := by
  unfold checkShape at h
  split at h
  · cases h
  · split at h
    · next hshape => exact hshape
    · cases h

theorem finds_of_checkShape {shape : Text → Bool} {word context : Text}
    (h : checkShape shape word context = .error cause) : Finds cause := by
  unfold checkShape at h
  split at h
  · next hreserved =>
    cases h
    exact .reserved hreserved
  · split at h
    · cases h
    · cases h
      exact .quoted rfl rfl

end Operand

namespace Condition

theorem finds_of_checkAlternation {condition : Text} {ps : List Part}
    (h : checkAlternation condition ps = .error cause) : Finds cause := by
  fun_induction checkAlternation condition ps with
  | case1 =>
    cases h
    exact .quoted rfl rfl
  | case2 p => exact Operand.finds_of_checkShape h
  | case3 p q ps e he =>
    cases h
    exact Operand.finds_of_checkShape he
  | case4 p ps _ s =>
    cases h
    exact .quoted rfl rfl
  | case5 p ps _ o ih => exact ih h

theorem finds_of_check {condition : Text} (h : check condition = .error cause) :
    Finds cause := by
  unfold check at h
  split at h
  · cases h
    exact .quoted rfl rfl
  · exact Operand.finds_of_checkShape h
  · exact finds_of_checkAlternation h

end Condition

namespace Output

theorem finds_of_checkVariable {word segment : Text}
    (h : checkVariable word segment = .error cause) : Finds cause := by
  unfold checkVariable at h
  split at h
  · next hreserved =>
    cases h
    exact .reserved hreserved
  · split at h
    · cases h
    · cases h
      exact .quoted rfl rfl

theorem finds_of_checkSegment {alone : Bool} {segment : Text}
    (h : checkSegment alone segment = .error cause) : Finds cause := by
  simp only [checkSegment] at h
  split at h
  · obtain ⟨piece, -, hpiece⟩ := exists_of_forM_eq_error h
    unfold checkPiece at hpiece
    split at hpiece
    · cases hpiece
    · exact finds_of_checkVariable hpiece
  · split at h
    · split at h
      · cases h
      · cases h
        exact .quoted rfl rfl
    · exact finds_of_checkVariable h

theorem finds_of_check {expression : Text} (h : check expression = .error cause) :
    Finds cause := by
  obtain ⟨segment, -, hsegment⟩ := exists_of_forM_eq_error h
  exact finds_of_checkSegment hsegment

end Output

namespace Loop

theorem Scope.finds_of_check {name : Text} (hname : Pattern.Word Shape.identifier name)
    {s : Scope} (h : s.check name = .error cause) : Finds cause := by
  unfold Scope.check at h
  split at h
  · cases h
  · cases h
    exact .undeclared hname

theorem finds_of_checkInit {clause : Text} (h : checkInit clause = .error cause) :
    Finds cause := by
  unfold checkInit at h
  split at h
  · split at h
    · split at h
      · next hreserved =>
        cases h
        exact .reserved hreserved
      · cases h
    · cases h
      exact .quoted rfl rfl
  · cases h
    exact .quoted rfl rfl

theorem finds_of_checkOperand {clause operand : Text} {scope : Scope}
    (h : checkOperand clause scope operand = .error cause) : Finds cause := by
  unfold checkOperand at h
  split at h
  · cases h
  · rcases bind_eq_error_iff.1 h with h | ⟨_, hshape, h⟩
    · exact Operand.finds_of_checkShape h
    · exact Scope.finds_of_check (Rule.word_of_covers (Operand.shape_of_checkShape hshape)) h

theorem finds_of_checkCondition {clause : Text} {scope : Scope}
    (h : checkCondition clause scope = .error cause) : Finds cause := by
  unfold checkCondition at h
  split at h
  · split at h
    · rcases bind_eq_error_iff.1 h with h | ⟨_, -, h⟩
      · exact finds_of_checkOperand h
      · exact finds_of_checkOperand h
    · cases h
      exact .quoted rfl rfl
  · cases h
    exact .quoted rfl rfl
  · cases h
    exact .quoted rfl rfl

theorem finds_of_checkUpdate {clause : Text} {scope : Scope}
    (h : checkUpdate clause scope = .error cause) : Finds cause := by
  unfold checkUpdate at h
  split at h
  · next name _ hcut =>
    split at h
    · next hreserved =>
      cases h
      exact .reserved hreserved
    · obtain ⟨-, hwords⟩ := Pattern.cut?_sound hcut
      cases hwords with
      | cons hname _ => exact Scope.finds_of_check hname h
  · cases h
    exact .quoted rfl rfl

theorem finds_of_check {header : Text} (h : check header = .error cause) :
    Finds cause := by
  unfold check at h
  split at h
  · rcases bind_eq_error_iff.1 h with h | ⟨scope, -, h⟩
    · exact finds_of_checkInit h
    · rcases bind_eq_error_iff.1 h with h | ⟨_, -, h⟩
      · exact finds_of_checkCondition h
      · exact finds_of_checkUpdate h
  · cases h
    exact .quoted rfl rfl

end Loop

theorem Handler.finds_of_check {h : Handler} {check : Text → Except Cause Unit}
    (hc : h.check? = some check) {text : Text} (hcheck : check text = .error cause) :
    Finds cause := by
  cases h with
  | single | comment | block => cases hc
  | output =>
    cases hc
    exact Output.finds_of_check hcheck
  | condition =>
    cases hc
    exact Condition.finds_of_check hcheck
  | loop =>
    cases hc
    exact Loop.finds_of_check hcheck

/-- The check that a handler makes only finds causes of headers. -/
theorem Handler.isOfHeader_of_check {h : Handler} {check : Text → Except Cause Unit}
    (hc : h.check? = some check) {text : Text} (hcheck : check text = .error cause) :
    cause.isOfHeader = true :=
  (finds_of_check hc hcheck).isOfHeader

end Aula
