/-
Classes of characters, given as ranges of code points. A class is data:
two classes can be compared, printed or tested for a common member,
which a bare predicate would not allow. The properties of the Unicode
standard that the checker depends on are tables of this type.
-/
import Aula.Text.Basic

namespace Aula

/-- The characters whose code point lies in one of `ranges` (both ends
belong to a range), or, when `inside` is off, in none of them. -/
structure CharClass where
  ranges : List (Nat × Nat)
  inside : Bool := true
deriving DecidableEq, Repr

namespace CharClass

/-- Membership in the class. -/
def has (k : CharClass) (c : Char) : Bool :=
  k.ranges.any (fun r => r.1 ≤ c.toNat && c.toNat ≤ r.2) == k.inside

/-- The characters of `cs`. -/
def anyOf (cs : Text) : CharClass :=
  { ranges := cs.map fun c => (c.toNat, c.toNat) }

/-- Every character but those of `cs`. -/
def noneOf (cs : Text) : CharClass :=
  { ranges := cs.map fun c => (c.toNat, c.toNat), inside := false }

/-- Membership in a class of listed characters. -/
theorem has_anyOf {cs : Text} {c : Char} :
    (anyOf cs).has c = true ↔ c ∈ cs := by
  simp only [has, anyOf, beq_true, List.any_map, List.any_eq_true,
    Function.comp_apply, Bool.and_eq_true, decide_eq_true_eq]
  constructor
  · rintro ⟨d, hd, hle, hge⟩
    have : d = c := Char.toNat_inj.1 (by omega)
    exact this ▸ hd
  · intro h
    exact ⟨c, h, Nat.le_refl _, Nat.le_refl _⟩

/-- Membership in a class that excludes listed characters. -/
theorem has_noneOf {cs : Text} {c : Char} :
    (noneOf cs).has c = true ↔ c ∉ cs := by
  rw [← has_anyOf]
  simp [has, noneOf, anyOf]

-- ======================================================== ASCII classes

/-- The decimal digits of ASCII. -/
def digit : CharClass := { ranges := [(0x30, 0x39)] }

/-- What a name may begin with: an ASCII letter or an underscore. -/
def nameStart : CharClass :=
  { ranges := [(0x41, 0x5A), (0x5F, 0x5F), (0x61, 0x7A)] }

/-- What a name may go on with: an ASCII letter, an underscore or a
digit. -/
def nameRest : CharClass :=
  { ranges := [(0x30, 0x39), (0x41, 0x5A), (0x5F, 0x5F), (0x61, 0x7A)] }

/-- The arithmetic operators. -/
def arithmetic : CharClass := anyOf "-+*/%"

end CharClass

end Aula
