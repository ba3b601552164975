/-
Where tokens stand does not matter to a walk over them.

An offset is carried from a token into faults and events, and nothing is
ever decided by it. So two walks over tokens of the same kinds and texts
take the same steps, whatever the offsets are, and where one fails the
other does, for the same cause.

This is said with a relation between the offsets of the two sides. If the
tokens of two streams are alike up to that relation, then so is all that
comes of them: each function of the walk takes alike to alike, one lemma
for each, up to the run. The relation is left open. With the one that holds
between the offsets of corresponding tokens, the faults of both sides are
found at corresponding tokens; with equality on the offsets of a stream, a
fault is found where a token stands.
-/
import Aula.Program
import Mathlib.Data.List.Forall2

namespace Aula

variable {R : Nat → Nat → Prop}

-- ========================================================== being alike

/-- Two tokens of one kind and text, at related offsets. -/
structure Token.Alike (R : Nat → Nat → Prop) (t u : Token) : Prop where
  kind : t.kind = u.kind
  lexeme : t.lexeme = u.lexeme
  offset : R t.offset u.offset

/-- Two streams whose tokens are alike, one by one. -/
structure Stream.Alike (R : Nat → Nat → Prop) (s u : Stream) : Prop where
  body : List.Forall₂ (Token.Alike R) s.body u.body
  final : s.final.Alike R u.final

/-- Two walks with alike tokens ahead, as many open blocks, and the same
table. -/
structure Walker.Alike (R : Nat → Nat → Prop) (w v : Walker) : Prop where
  ahead : w.ahead.Alike R v.ahead
  depth : w.depth = v.depth
  table : w.table = v.table

/-- Two faults of one cause, at related offsets. -/
structure Fault.Alike (R : Nat → Nat → Prop) (f g : Fault) : Prop where
  cause : f.cause = g.cause
  position : R f.position g.position

/-- Two results: values related by `A`, or alike faults. -/
inductive Fault.Related {α β : Type} (R : Nat → Nat → Prop) (A : α → β → Prop) :
    Except Fault α → Except Fault β → Prop where
  | ok {a : α} {b : β} (h : A a b) : Related R A (.ok a) (.ok b)
  | error {f g : Fault} (h : f.Alike R g) : Related R A (.error f) (.error g)

open Fault (Related)

theorem Token.forall₂_alike {ts us : List Token}
    (hkinds : us.map Token.kind = ts.map Token.kind)
    (hlexemes : us.map Token.lexeme = ts.map Token.lexeme)
    (hR : ∀ (i : Nat) (t u : Token), ts[i]? = some t → us[i]? = some u → R t.offset u.offset) :
    List.Forall₂ (Token.Alike R) ts us := by
  have hlength : us.length = ts.length := by simpa using congrArg List.length hkinds
  refine List.forall₂_iff_get.2 ⟨hlength.symm, fun i ht hu => ?_⟩
  have hkind := congrArg (·[i]?) hkinds
  have hlexeme := congrArg (·[i]?) hlexemes
  simp only [List.getElem?_map, List.getElem?_eq_getElem ht, List.getElem?_eq_getElem hu,
    Option.map_some, Option.some.injEq] at hkind hlexeme
  exact ⟨hkind.symm, hlexeme.symm,
    hR i _ _ (List.getElem?_eq_getElem ht) (List.getElem?_eq_getElem hu)⟩

theorem Fault.Related.bind {α β γ δ : Type} {A : α → β → Prop} {B : γ → δ → Prop}
    {x : Except Fault α} {y : Except Fault β} {k : α → Except Fault γ}
    {l : β → Except Fault δ} (h : Related R A x y)
    (hk : ∀ a b, A a b → Related R B (k a) (l b)) : Related R B (x >>= k) (y >>= l) := by
  cases h with
  | ok hab => exact hk _ _ hab
  | error hf => exact .error hf

-- ============================================================== streams

namespace Stream.Alike

variable {s u : Stream}

theorem toList (h : s.Alike R u) : List.Forall₂ (Token.Alike R) s.toList u.toList :=
  List.rel_append h.body (.cons h.final .nil)

theorem head (h : s.Alike R u) : s.head.Alike R u.head := by
  obtain ⟨body, final, _⟩ := s
  obtain ⟨body', final', _⟩ := u
  obtain ⟨hbody, hfinal⟩ := h
  cases hbody with
  | nil => exact hfinal
  | cons ht _ => exact ht

theorem advance (h : s.Alike R u) : s.advance.Alike R u.advance := by
  unfold Stream.advance
  rw [h.head.kind]
  by_cases hend : u.head.kind = .endOfInput
  · rw [if_pos hend, if_pos hend]
    exact h
  · rw [if_neg hend, if_neg hend]
    obtain ⟨body, final, _⟩ := s
    obtain ⟨body', final', _⟩ := u
    obtain ⟨hbody, hfinal⟩ := h
    cases hbody with
    | nil => exact ⟨.nil, hfinal⟩
    | cons _ hrest => exact ⟨hrest, hfinal⟩

end Stream.Alike

-- ================================================================ steps

namespace Walker

variable {w v : Walker}

/-- The goals that a step leaves are the same, and the walks behind it are
alike. -/
def SameGoals (R : Nat → Nat → Prop) (x y : List Goal × Walker) : Prop :=
  x.1 = y.1 ∧ x.2.Alike R y.2

namespace Alike

theorem current (h : w.Alike R v) : w.current.Alike R v.current := h.ahead.head

theorem advance (h : w.Alike R v) : w.advance.Alike R v.advance :=
  ⟨h.ahead.advance, h.depth, h.table⟩

theorem note (h : w.Alike R v) (e e' : Event) : (w.note e).Alike R (v.note e') :=
  ⟨h.ahead, h.depth, h.table⟩

theorem openBlock (h : w.Alike R v) : w.openBlock.Alike R v.openBlock :=
  ⟨h.ahead, congrArg (· + 1) h.depth, h.table⟩

theorem fault (h : w.Alike R v) (cause : Cause) :
    (w.fault cause).Alike R (v.fault cause) :=
  ⟨rfl, h.current.offset⟩

theorem unexpected (h : w.Alike R v) (expected : Text) :
    (w.unexpected expected).Alike R (v.unexpected expected) := by
  unfold Walker.unexpected
  rw [h.current.kind, h.current.lexeme]
  exact h.fault _

theorem closeBlock (h : w.Alike R v) {p q : Nat} (hpq : R p q) :
    Related R (Walker.Alike R) (w.closeBlock p) (v.closeBlock q) := by
  unfold Walker.closeBlock
  rw [h.depth]
  cases v.depth with
  | zero => exact .error ⟨rfl, hpq⟩
  | succ depth => exact .ok ⟨h.ahead, rfl, h.table⟩

theorem expectOr (h : w.Alike R v) (kind : Kind) {f g : Fault} (hf : f.Alike R g) :
    Related R (fun x y => x.1.Alike R y.1 ∧ x.2.Alike R y.2)
      (w.expectOr kind f) (v.expectOr kind g) := by
  unfold Walker.expectOr
  rw [h.current.kind]
  by_cases hk : v.current.kind = kind
  · rw [if_pos hk, if_pos hk]
    exact .ok ⟨h.current, h.advance⟩
  · rw [if_neg hk, if_neg hk]
    exact .error hf

theorem checkHeader (h : w.Alike R v) (check : Text → Except Cause Unit) :
    Related R Eq (w.checkHeader check) (v.checkHeader check) := by
  unfold Walker.checkHeader
  rw [h.current.lexeme]
  split
  · exact .error (h.fault _)
  · split
    · exact .error (h.fault _)
    · exact .ok rfl

/-- What comes of a header that is checked. -/
theorem bind_checkHeader (h : w.Alike R v) (check : Text → Except Cause Unit)
    (goals : List Goal) (event : Text → Event) :
    Related R (SameGoals R)
      (w.checkHeader check >>= fun text => pure (goals, w.advance.note (event text)))
      (v.checkHeader check >>= fun text => pure (goals, v.advance.note (event text))) := by
  refine (h.checkHeader check).bind fun text text' _ => ?_
  exact .ok ⟨rfl, h.advance.note _ _⟩

theorem handle (h : w.Alike R v) (handler : Handler) :
    Related R (SameGoals R) (w.handle handler) (v.handle handler) := by
  cases handler with
  | single => exact .ok ⟨rfl, h.advance.note _ _⟩
  | comment => exact .ok ⟨rfl, h.advance⟩
  | output => exact h.bind_checkHeader _ _ _
  | condition => exact h.bind_checkHeader _ _ _
  | loop => exact h.bind_checkHeader _ _ _
  | block =>
    refine (h.expectOr .openBrace (h.unexpected _)).bind fun x y hxy => ?_
    exact .ok ⟨rfl, hxy.2.openBlock.note _ _⟩

theorem dispatch (h : w.Alike R v) :
    Related R (SameGoals R) w.dispatch v.dispatch := by
  unfold Walker.dispatch
  rw [h.table, h.current.kind, h.current.lexeme]
  split
  · exact h.handle _
  · exact .error (h.fault _)

theorem leave (h : w.Alike R v) : Related R (Walker.Alike R) w.leave v.leave := by
  refine (h.closeBlock h.current.offset).bind fun x y hxy => ?_
  exact .ok (hxy.advance.note _ _)

theorem step (h : w.Alike R v) (g : Goal) :
    Related R (SameGoals R) (w.step g) (v.step g) := by
  cases g with
  | statement => exact h.dispatch
  | handle handler => exact h.handle handler
  | body =>
    simp only [Walker.step]
    rw [h.current.kind, h.depth]
    split
    · refine h.leave.bind fun x y hxy => ?_
      exact .ok ⟨rfl, hxy⟩
    · exact .error (h.fault _)
    · refine h.dispatch.bind fun x y hxy => ?_
      obtain ⟨hgoals, hnext⟩ := hxy
      exact .ok ⟨congrArg (· ++ [Goal.body]) hgoals, hnext⟩
  | otherwise =>
    simp only [Walker.step]
    rw [h.current.kind]
    by_cases hk : v.current.kind = .otherwise
    · rw [if_pos hk, if_pos hk]
      exact .ok ⟨rfl, h.advance⟩
    · rw [if_neg hk, if_neg hk]
      exact .ok ⟨rfl, h⟩

/-- Two walks over alike tokens come to the same end, at alike places. -/
theorem run (h : w.Alike R v) (goals : List Goal) :
    Related R Eq (w.run goals).1 (v.run goals).1
      ∧ (w.run goals).2.Alike R (v.run goals).2 := by
  fun_induction Walker.run w goals generalizing v with
  | case1 w =>
    rw [run_nil]
    exact ⟨.ok rfl, h⟩
  | case2 w g goals f hs =>
    have hstep := h.step g
    rw [hs] at hstep
    rw [run_cons]
    generalize v.step g = result at hstep
    cases hstep with
    | error hf => exact ⟨.error hf, h⟩
  | case3 w g goals more next hs ih =>
    have hstep := h.step g
    rw [hs] at hstep
    rw [run_cons]
    generalize v.step g = result at hstep
    cases hstep with
    | @ok _ result hsame =>
      obtain ⟨hgoals, hnext⟩ := hsame
      obtain ⟨more', next'⟩ := result
      obtain rfl : more = more' := hgoals
      exact ih hnext

end Alike

end Walker

-- ============================================================== programs

theorem Balance.openBlocks_alike {ts us : List Token} (h : List.Forall₂ (Token.Alike R) ts us)
    (depth : Nat) : Related R Eq (openBlocks depth ts) (openBlocks depth us) := by
  induction h generalizing depth with
  | nil => exact .ok rfl
  | @cons t u ts us htu _ ih =>
    simp only [openBlocks]
    rw [htu.kind]
    split
    · exact ih (depth + 1)
    · cases depth with
      | zero => exact .error ⟨rfl, htu.offset⟩
      | succ depth => exact ih depth
    · exact ih depth

theorem Balance.check_alike {s u : Stream} (h : s.Alike R u) :
    Related R Eq (check s) (check u) := by
  have hcount := openBlocks_alike h.toList 0
  unfold check
  generalize openBlocks 0 s.toList = x at hcount ⊢
  generalize openBlocks 0 u.toList = y at hcount ⊢
  cases hcount with
  | error hf => exact .error hf
  | @ok n m hnm =>
    subst hnm
    cases n with
    | zero => exact .ok rfl
    | succ n => exact .error ⟨rfl, h.final.offset⟩

namespace Program

theorem finish_alike {w v : Walker} (h : w.Alike R v) (s u : Stream) :
    Related R Eq (finish s w).1 (finish u v).1 := by
  have hahead : w.hasTokens = v.hasTokens := by
    unfold Walker.hasTokens
    rw [h.current.kind]
  unfold finish
  rw [hahead, h.depth]
  split
  · exact .error (h.unexpected _)
  · split
    · exact .error (h.fault _)
    · exact .ok rfl

/-- Streams whose tokens are alike are parsed alike: both are programs, or
neither is, for the same cause. -/
theorem parse_alike {s u : Stream} (h : s.Alike R u) : Related R Eq (parse s) (parse u) := by
  have hstart : Walker.Alike R { ahead := s, table := Table.language }
      { ahead := u, table := Table.language } := ⟨h, rfl, rfl⟩
  have hbalance := Balance.check_alike h
  have hmain := hstart.expectOr .main (hstart.unexpected "main()")
  simp only [parse, walk]
  generalize Balance.check s = x at hbalance ⊢
  generalize Balance.check u = y at hbalance ⊢
  cases hbalance with
  | error hf => exact .error hf
  | ok =>
    simp only
    generalize Walker.expectOr .main _ _ = x at hmain ⊢
    generalize Walker.expectOr .main _ _ = y at hmain ⊢
    cases hmain with
    | error hf => exact .error hf
    | @ok x y hxy =>
      obtain ⟨hresult, hstop⟩ := hxy.2.run [.handle .block]
      simp only
      generalize x.2.run [.handle .block] = x at hresult hstop ⊢
      generalize y.2.run [.handle .block] = y at hresult hstop ⊢
      obtain ⟨result, stop⟩ := x
      obtain ⟨result', stop'⟩ := y
      cases hresult with
      | error hf => exact .error hf
      | ok => exact finish_alike hstop s u

/-- A fault that parsing finds is where some token of the stream stands. -/
theorem exists_token_of_parse {s : Stream} {f : Fault} (h : parse s = .error f) :
    ∃ t ∈ s.toList, f.position = t.offset := by
  -- a stream is like itself, and the relation remembers its offsets
  let R : Nat → Nat → Prop := fun p _ => ∃ t ∈ s.toList, p = t.offset
  have hself : ∀ t ∈ s.toList, Token.Alike R t t := fun t ht => ⟨rfl, rfl, t, ht, rfl⟩
  have hbody : ∀ t ∈ s.body, Token.Alike R t t :=
    fun t ht => hself t (List.mem_append_left _ ht)
  have hfinal : s.final ∈ s.toList := List.mem_append_right _ (List.mem_singleton_self _)
  have halike := parse_alike (R := R) ⟨List.forall₂_same.2 hbody, hself _ hfinal⟩
  rw [h] at halike
  cases halike with
  | error hf => exact hf.position

end Program

end Aula
