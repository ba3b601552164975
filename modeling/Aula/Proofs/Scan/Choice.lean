/-
The choice of the rule does not matter. At every place of a source at
most one rule fits, so whoever picks a fitting rule picks the same: the
first of the table, the first of the table in another order, or the one
that reads most.

`Rule.IsChoice` says what any such policy has in common, and
`IsChoice.eq` that there is only one.
-/
import Aula.Proofs.Rule.Exclusion
import Aula.Scan

namespace Aula

namespace Rule

-- ============================================================= policies

/-- What the given rules read in front of a text, each that fits: the
kind it yields and the number of characters. -/
def fitting (rules : List Rule) (s : Text) : List (Option Kind × Nat) :=
  rules.filterMap fun r => (r.scan s).map (r.kind, ·)

/-- Of the given rules that fit the front of a text, the one that reads
most, and the first of those: the kind it yields and the number of
characters it reads. -/
def longest? (rules : List Rule) (s : Text) : Option (Option Kind × Nat) :=
  (fitting rules s).maxOn? Prod.snd

/-- The policy picks a rule of the table that fits, wherever one
does. -/
structure IsChoice (choose : Text → Option (Option Kind × Nat)) : Prop where
  fits : ∀ s x, choose s = some x → x ∈ fitting table s
  gives_up : ∀ s, choose s = none → fitting table s = []

theorem mem_fitting {rules : List Rule} {s : Text} {x : Option Kind × Nat} :
    x ∈ fitting rules s ↔ ∃ r ∈ rules, ∃ n, r.scan s = some n ∧ (r.kind, n) = x := by
  unfold fitting
  simp only [List.mem_filterMap, Option.map_eq_some_iff]

/-- The same rules fit, whatever their order. -/
theorem mem_fitting_perm {rules rules' : List Rule} (h : rules.Perm rules') {s : Text}
    {x : Option Kind × Nat} : x ∈ fitting rules s ↔ x ∈ fitting rules' s := by
  unfold fitting
  exact (h.filterMap _).mem_iff

/-- Rules of the table that fit one text read the same. -/
theorem fitting_unique {s : Text} {x y : Option Kind × Nat} (hx : x ∈ fitting table s)
    (hy : y ∈ fitting table s) : x = y := by
  obtain ⟨r, hr, n, hn, rfl⟩ := mem_fitting.1 hx
  obtain ⟨r', hr', n', hn', rfl⟩ := mem_fitting.1 hy
  obtain rfl := eq_of_scan hr hr' hn hn'
  rw [hn] at hn'
  cases hn'
  rfl

/-- There is one choice only. -/
theorem IsChoice.eq {choose choose' : Text → Option (Option Kind × Nat)}
    (h : IsChoice choose) (h' : IsChoice choose') : choose = choose' := by
  funext s
  cases hs : choose s with
  | none =>
    cases hs' : choose' s with
    | none => rfl
    | some x =>
      have hx := h'.fits s x hs'
      rw [h.gives_up s hs] at hx
      cases hx
  | some x =>
    have hx := h.fits s x hs
    cases hs' : choose' s with
    | none =>
      rw [h'.gives_up s hs'] at hx
      cases hx
    | some y => rw [fitting_unique hx (h'.fits s y hs')]

-- ============================================ first and longest of any order

/-- The first fitting rule is a choice, in any order of the table. -/
theorem isChoice_first? {rules : List Rule} (h : rules.Perm table) :
    IsChoice (first? rules) where
  fits := by
    intro s x hx
    obtain ⟨r, hr, hrx⟩ := List.exists_of_findSome?_eq_some hx
    obtain ⟨n, hn, rfl⟩ := Option.map_eq_some_iff.1 hrx
    exact mem_fitting.2 ⟨r, h.mem_iff.1 hr, n, hn, rfl⟩
  gives_up := by
    intro s hs
    refine List.eq_nil_iff_forall_not_mem.2 fun x hx => ?_
    obtain ⟨r, hr, n, hn, -⟩ := mem_fitting.1 hx
    have hnone := List.findSome?_eq_none_iff.1 hs r (h.mem_iff.2 hr)
    rw [hn] at hnone
    cases hnone

/-- The longest fitting rule is a choice, in any order of the table. -/
theorem isChoice_longest? {rules : List Rule} (h : rules.Perm table) :
    IsChoice (longest? rules) where
  fits := by
    intro s x hx
    exact (mem_fitting_perm h).1 (List.maxOn?_mem hx)
  gives_up := by
    intro s hs
    refine List.eq_nil_iff_forall_not_mem.2 fun x hx => ?_
    have hsome := List.isSome_maxOn?_of_mem (f := Prod.snd) ((mem_fitting_perm h).2 hx)
    unfold longest? at hs
    rw [hs] at hsome
    cases hsome

/-- No rule stands in the table twice. -/
theorem table_nodup : table.Nodup := by decide

/-- At most one entry of the table fits a text. -/
theorem length_filter_table_le_one (s : Text) :
    (table.filter fun r => (r.matchSize? s).isSome).length ≤ 1 := by
  have hnodup := table_nodup.filter fun r => (r.matchSize? s).isSome
  have hscan : ∀ r ∈ table.filter (fun r => (r.matchSize? s).isSome),
      r ∈ table ∧ ∃ n, r.scan s = some n := by
    intro r hr
    obtain ⟨hmem, hsome⟩ := List.mem_filter.1 hr
    unfold matchSize? at hsome
    rw [Option.isSome_map] at hsome
    exact ⟨hmem, Option.isSome_iff_exists.1 hsome⟩
  -- two entries that fit would be one rule, entered twice
  generalize table.filter (fun r => (r.matchSize? s).isSome) = fits at hnodup hscan ⊢
  rcases fits with _ | ⟨r, _ | ⟨r', rest⟩⟩
  · exact Nat.zero_le 1
  · exact Nat.le_refl 1
  · obtain ⟨hr, n, hn⟩ := hscan r (by simp)
    obtain ⟨hr', n', hn'⟩ := hscan r' (by simp)
    rw [eq_of_scan hr hr' hn hn'] at hnodup
    simp at hnodup

end Rule

-- =============================================== the order is not seen

/-- At most one rule fits a text. So the tokens of a source, or the fault
that is found, are the same whatever the order of the rules, and also if
the longest fitting rule is taken instead of the first. -/
theorem Scan.stream_of_any_order :
    (∀ s, (Rule.table.filter fun r => (r.matchSize? s).isSome).length ≤ 1)
      ∧ (∀ rules, rules.Perm Rule.table → ∀ source,
          (Scan.byRules rules source).stream = tokenize source)
      ∧ ∀ rules, rules.Perm Rule.table → ∀ source,
          (Scan.read (Rule.longest? rules) 0 source).stream = tokenize source := by
  have hfirst : Rule.IsChoice (Rule.first? Rule.table) := Rule.isChoice_first? (.refl _)
  refine ⟨Rule.length_filter_table_le_one, fun rules hperm source => ?_,
    fun rules hperm source => ?_⟩
  · unfold tokenize Scan.ofSource Scan.byRules
    rw [(Rule.isChoice_first? hperm).eq hfirst]
  · unfold tokenize Scan.ofSource Scan.byRules
    rw [(Rule.isChoice_longest? hperm).eq hfirst]

/-- The table from back to front reads a declaration, a `No` and a brace
as the table does, by the first rule and by the longest. -/
theorem Scan.stream_of_reversed_table :
    Rule.table.reverse.Perm Rule.table
      ∧ (Scan.byRules Rule.table.reverse "ent No1; No \x7b").stream
          = tokenize "ent No1; No \x7b"
      ∧ (Scan.read (Rule.longest? Rule.table.reverse) 0 "ent No1; No \x7b").stream
          = tokenize "ent No1; No \x7b" := by
  have hperm : Rule.table.reverse.Perm Rule.table := List.reverse_perm _
  exact ⟨hperm, Scan.stream_of_any_order.2.1 _ hperm _,
    Scan.stream_of_any_order.2.2 _ hperm _⟩

end Aula
