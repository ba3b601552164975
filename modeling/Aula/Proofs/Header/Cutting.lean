/-
Cutting loses nothing: whatever a text is cut into makes it up again.

Headers are cut in three ways. The separators of a list are left out of
the pieces, so they have to be put back between them
(`Text.intercalate_splitFrom`). Operators are kept, each with the operand
behind it (`Condition.spell_cut`). A clause of a loop is cut into words,
and the words are all of it (`Pattern.cut?_sound`).
-/
import Aula.Condition
import Aula.Pattern.Language
import Aula.Text.Split
import Mathlib.Data.List.Forall2

namespace Aula

-- ============================================================ separators

namespace Text

variable {separator : Char}

theorem splitFrom_ne_nil (separator : Char) (quoted : Bool) (s : Text) :
    splitFrom separator quoted s ≠ [] := by
  fun_induction splitFrom separator quoted s with
  | case1 => exact List.cons_ne_nil _ _
  | case2 quoted s ih => simpa using ih
  | case3 quoted c s hc hsep ih => exact List.cons_ne_nil _ _
  | case4 quoted c s hc hsep ih => simpa using ih

/-- A character in front of the first piece is in front of them all. -/
theorem intercalate_modifyHead (c : Char) {pieces : List Text} (hne : pieces ≠ []) :
    [separator].intercalate (pieces.modifyHead (c :: ·))
      = c :: [separator].intercalate pieces := by
  rcases pieces with - | ⟨piece, - | ⟨next, pieces⟩⟩
  · exact absurd rfl hne
  · simp
  · simp

/-- The pieces of a text, with the separators between them, make it up. -/
theorem intercalate_splitFrom (quoted : Bool) (s : Text) :
    [separator].intercalate (splitFrom separator quoted s) = s := by
  fun_induction splitFrom separator quoted s with
  | case1 => rfl
  | case2 quoted s ih => rw [intercalate_modifyHead _ (splitFrom_ne_nil _ _ s), ih]
  | case3 quoted c s hc hsep ih =>
    -- the piece in front is empty, and the separator comes back behind it
    obtain ⟨next, pieces, hpieces⟩ :=
      List.exists_cons_of_ne_nil (splitFrom_ne_nil separator false s)
    rw [hpieces] at ih ⊢
    rw [List.intercalate_cons_cons, ih, hsep.1]
    rfl
  | case4 quoted c s hc hsep ih => rw [intercalate_modifyHead _ (splitFrom_ne_nil _ _ s), ih]

end Text

-- ============================================================= operators

/-- The operator that a text begins with stands in front of the rest. -/
theorem Operator.symbol_append_drop {c : Char} {s : Text} {o : Operator}
    (h : read? (c :: s) = some o) : o.symbol ++ s.drop (o.symbol.length - 1) = c :: s := by
  unfold read? at h
  have hprefix := List.find?_some h
  obtain ⟨rest, heq⟩ := List.isPrefixOf_iff_prefix.1 hprefix
  obtain ⟨d, symbol, hsymbol⟩ := List.exists_cons_of_length_pos o.symbol_length_pos
  rw [hsymbol] at heq ⊢
  obtain ⟨rfl, rfl⟩ := List.cons.inj heq
  simp

namespace Condition

/-- A condition that is cut, put together again. -/
def spell (pieces : Text × List (Operator × Text)) : Text :=
  pieces.1 ++ pieces.2.flatMap fun (o, s) => o.symbol ++ s

theorem spell_cut (quoted : Bool) (s : Text) : spell (cut quoted s) = s := by
  fun_induction cut quoted s with
  | case1 => rfl
  | case2 quoted s head tail h ih =>
    rw [h] at ih
    exact congrArg ('"' :: ·) ih
  | case3 c s hc head tail h ih =>
    rw [h] at ih
    exact congrArg (c :: ·) ih
  | case4 quoted c s hc hq hread head tail h ih =>
    rw [h] at ih
    exact congrArg (c :: ·) ih
  | case5 quoted c s hc hq o hread head tail h ih =>
    -- here cutting skips the operator, not one character
    rw [h] at ih
    rw [← Operator.symbol_append_drop hread, ← ih]
    simp [spell]

end Condition

-- ================================================================= words

namespace Pattern

/-- What is cut in words is the words, each of its shape. -/
theorem cut?_sound {ps : List Pattern} {s : Text} {ws : List Text}
    (h : cut? ps s = some ws) : ws.flatten = s ∧ List.Forall₂ Word ps ws := by
  fun_induction cut? ps s generalizing ws with
  | case1 =>
    cases h
    exact ⟨rfl, .nil⟩
  | case2 => cases h
  | case3 => cases h
  | case4 p ps s n hscan ih =>
    obtain ⟨words, hwords, rfl⟩ := Option.map_eq_some_iff.1 h
    obtain ⟨heq, hall⟩ := ih hwords
    refine ⟨?_, .cons (scan_sound hscan).2 hall⟩
    rw [List.flatten_cons, heq, List.take_append_drop]

variable {p : Pattern} {ps : List Pattern} {u : Text}

/-- A word that is read whole is cut off. -/
theorem cut?_append {s : Text} (h : p.scan (u ++ s) = some u.length) :
    cut? (p :: ps) (u ++ s) = (cut? ps s).map (u :: ·) := by
  rw [cut?, h]
  simp

theorem cut?_single (h : p.scan u = some u.length) : cut? [p] u = some [u] := by
  rw [cut?, h]
  simp [cut?]

end Pattern

end Aula
