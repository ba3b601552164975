/-
Each rule decides the language of its expression: it reads a word if one
is there, and what it reads is what matching the expression would find.

# Why going back changes nothing

A matcher that goes back could find another word than a reader that does
not, or the same word captured in another way. Neither happens, because
there is only one way to match an expression in front of a text
(`Expression.eq_of_mem_cuts`):

- What stands in front of the identifier ends where the identifier
  begins, and the identifier ends where what is behind it begins. One
  character tells, so the first two groups can match in one way only.
- The last group is where an expression leaves things open: the blanks
  between two parts that are left out can be taken by either. But only
  its whole match counts, and that belongs to a word of the rule, whose
  shape is deterministic. So the words are compared with some free name
  in the place of the identifier, also where the captured one is
  reserved.

The expression for blanks has many matches in front of a text. Of those
the preferred one is the longest (`Rule.head?_readings_gap`).
-/
import Aula.Proofs.Rule.Expression

namespace Aula

open CharClass (areApart)
open Pattern (Word cuts)
open Shape (identifier name)
open Text (Continues)

/-- Texts that begin one text and take the same room are the same. -/
theorem Text.append_inj_of_byteSize_eq {w w' s s' : Text} (heq : w ++ s = w' ++ s')
    (hsize : byteSize w = byteSize w') : w = w' ∧ s = s' := by
  have hrest : s = s' := by
    have hdrop := fromByte?_byteSize_append w s
    rw [heq, hsize, fromByte?_byteSize_append] at hdrop
    exact (Option.some.inj hdrop).symm
  subst hrest
  exact ⟨List.append_cancel_right heq, rfl⟩

namespace Rule

-- ============================================================= reading

/-- What has to stand behind a word of the rule for it to be read: where
blanks are skipped, anything but one more blank. -/
def behind (r : Rule) : List CharClass :=
  if r.kind = none then [CharClass.blank.compl] else [.all]

/-- One character decides every choice in the shape of a rule. -/
theorem table_isDeterministic_behind :
    ∀ r ∈ table, r.shape.isDeterministic r.behind = true := by
  decide

/-- Only blanks are asked not to go on. -/
theorem continues_behind_iff {r : Rule} {rest : Text} :
    Continues r.behind rest ↔ (r.kind = none → ∀ c ∈ rest.head?, isBlank c = false) := by
  unfold behind
  split
  · next hkind =>
    simp [Continues, hkind, CharClass.has_compl, isBlank]
  · next hkind =>
    exact iff_of_true (Text.continues_all rest) fun h => absurd h hkind

/-- The rule for blanks leaves none behind. -/
theorem continues_drop_of_scan {r : Rule} (hr : r ∈ table) {t : Text} {m : Nat}
    (h : r.scan t = some m) : Continues r.behind (t.drop m) := by
  by_cases hkind : r.kind = none
  · obtain ⟨hshape, -⟩ := table_blank r hr hkind
    obtain ⟨-, hreads⟩ := reads_of_scan h
    have hword := hreads.word
    rw [hshape, word_gap_iff] at hword
    have hblank : t.takeWhile isBlank ≠ [] := by
      cases t with
      | nil => simp at hword
      | cons c t =>
        cases m with
        | zero => simp at hword
        | succ m => simp [hword.2 c (List.mem_cons_self ..)]
    have hm : (t.takeWhile isBlank).length = m :=
      Option.some.inj ((scan_blank hr hkind hblank).symm.trans h)
    have hdrop : t.drop m = t.dropWhile isBlank := by
      have hsplit : t.takeWhile isBlank ++ t.dropWhile isBlank = t :=
        List.takeWhile_append_dropWhile
      rw [← hm]
      nth_rewrite 2 [← hsplit]
      exact List.drop_left
    rw [behind, if_pos hkind, hdrop]
    exact continues_dropWhile t
  · exact continues_behind_iff.2 fun h => absurd h hkind

/-- A rule reads exactly its words, where they may end. -/
theorem scan_eq_some_iff {r : Rule} (hr : r ∈ table) {t : Text} {m : Nat} :
    r.scan t = some m
      ↔ ∃ w rest, t = w ++ rest ∧ w.length = m ∧ r.Reads w rest ∧ Continues r.behind rest := by
  constructor
  · intro h
    obtain ⟨hle, hreads⟩ := reads_of_scan h
    exact ⟨t.take m, t.drop m, (List.take_append_drop m t).symm, List.length_take_of_le hle,
      hreads, continues_drop_of_scan hr h⟩
  · rintro ⟨w, rest, rfl, rfl, hreads, hrest⟩
    exact hreads.scan_of_shape
      (Pattern.scan_append (table_isDeterministic_behind r hr) hreads.word hrest)

/-- All the blanks are preferred to some of them. -/
theorem head?_readings_gap (t : Text) : (Shape.gap.readings t).head? = Shape.gap.scan t :=
  Pattern.head?_readings_append (Pattern.head?_readings_one .blank)
    (Pattern.head?_readings_many (Pattern.head?_readings_one .blank))
    (fun _ => Option.some_ne_none _) t

end Rule

namespace Expression

-- ========================================================== the groups

/-- The identifier that an expression captures ends where what is behind
it begins, whatever that is. -/
theorem table_back : ∀ e ∈ table, ∀ back ∈ e.back,
    e.front.isDeterministic identifier.first = true ∧ back.nullable = false
      ∧ areApart back.first [.nameRest] = true := by
  decide

/-- Only `No` has to end at a boundary. -/
theorem table_wholeWord : ∀ e ∈ table, e.wholeWord = true →
    e.back = none ∧ e.front = "No" := by
  decide

/-- It always has to. -/
theorem table_wholeWord_iff :
    ∀ e ∈ table, e.wholeWord = true ↔ e.kind = some .otherwise := by
  decide

variable {e : Expression}

/-- Where nothing is captured there is one match. -/
theorem forall₂_groups_of_none (hback : e.back = none) {ws : List Text} :
    List.Forall₂ Word e.groups ws ↔ ∃ w, ws = [w] ∧ Word e.front w := by
  rw [groups, hback]
  constructor
  · rintro (_ | ⟨hw, _ | _⟩)
    exact ⟨_, rfl, hw⟩
  · rintro ⟨w, rfl, hw⟩
    exact .cons hw .nil

/-- Else there are three. -/
theorem forall₂_groups_of_some {back : Pattern} (hback : e.back = some back) {ws : List Text} :
    List.Forall₂ Word e.groups ws
      ↔ ∃ u x v, ws = [u, x, v] ∧ Word e.front u ∧ Word identifier x ∧ Word back v := by
  rw [groups, hback]
  constructor
  · rintro (_ | ⟨hu, _ | ⟨hx, _ | ⟨hv, _ | _⟩⟩⟩)
    exact ⟨_, _, _, rfl, hu, hx, hv⟩
  · rintro ⟨u, x, v, rfl, hu, hx, hv⟩
    exact .cons hu (.cons hx (.cons hv .nil))

/-- Whether the second of three matches is reserved. -/
theorem any_isReserved_iff {u x v : Text} :
    ([u, x, v] : List Text)[1]?.any Keyword.isReserved = false ↔ x ∉ Keyword.reserved := by
  show Keyword.isReserved x = false ↔ _
  simp [Keyword.isReserved]

variable (he : e ∈ table)
include he

/-- What stands behind the identifier does not go on as a name. -/
theorem continues_back {back : Pattern} (hback : e.back = some back) {v : Text}
    (hv : Word back v) (rest : Text) : Continues [CharClass.nameRest.compl] (v ++ rest) := by
  obtain ⟨-, hnull, hapart⟩ := table_back e he back hback
  have hbegins := hv.continues_append (Text.continues_all rest)
  rw [Pattern.before, hnull] at hbegins
  refine Continues.outside (hbegins.mono ?_) hapart
  simp

/-- So a captured identifier is all of the identifier that stands
there. -/
theorem Spells.of_words {back : Pattern} (hback : e.back = some back) {u x v : Text}
    (hu : Word e.front u) (hx : Word identifier x) (hfree : x ∉ Keyword.reserved)
    (hv : Word back v) : e.Spells (u ++ (x ++ v)) := by
  have hmax := continues_back he hback hv []
  rw [List.append_nil] at hmax
  exact .named hback hu hx hfree hmax hv

/-- A word of an expression is a match of its groups that captures no
reserved word. -/
theorem spells_iff_groups {w : Text} :
    e.Spells w ↔ ∃ ws, List.Forall₂ Word e.groups ws ∧ ws.flatten = w
      ∧ ws[1]?.any Keyword.isReserved = false := by
  constructor
  · intro h
    cases h with
    | plain hback hw =>
      exact ⟨[w], (forall₂_groups_of_none hback).2 ⟨w, rfl, hw⟩, List.flatten_singleton, rfl⟩
    | @named back u x v hback hu hx hfree hmax hv =>
      exact ⟨[u, x, v], (forall₂_groups_of_some hback).2 ⟨u, x, v, rfl, hu, hx, hv⟩, by simp,
        any_isReserved_iff.2 hfree⟩
  · rintro ⟨ws, hws, rfl, hfree⟩
    cases hback : e.back with
    | none =>
      obtain ⟨w, rfl, hw⟩ := (forall₂_groups_of_none hback).1 hws
      rw [List.flatten_singleton]
      exact .plain hback hw
    | some back =>
      obtain ⟨u, x, v, rfl, hu, hx, hv⟩ := (forall₂_groups_of_some hback).1 hws
      simpa using Spells.of_words he hback hu hx (any_isReserved_iff.1 hfree) hv

/-- The words make up the language. -/
theorem mem_language_iff {w : Text} : w ∈ e.language ↔ e.Spells w := by
  cases hback : e.back with
  | none =>
    rw [language, hback]
    refine ⟨Spells.plain hback, fun h => ?_⟩
    cases h with
    | plain _ hw => exact hw
    | named hback' => simp [hback] at hback'
  | some back =>
    simp only [language, hback, Language.mem_mul]
    constructor
    · rintro ⟨u, hu, _, ⟨x, hx, v, hv, rfl⟩, rfl⟩
      cases hx with
      | except hx hfree => exact .of_words he hback hu hx hfree hv
    · intro h
      cases h with
      | plain hback' => simp [hback] at hback'
      | @named _ u x v hback' hu hx hfree hmax hv =>
        rw [hback, Option.some.injEq] at hback'
        subst hback'
        exact ⟨u, hu, x ++ v, ⟨x, .except hx hfree, v, hv, rfl⟩, rfl⟩

/-- A rule stands for the expression of its kind. -/
theorem matches_of_kind_eq {r : Rule} (hr : r ∈ Rule.table) (hkind : r.kind = e.kind) :
    Matches r e := by
  obtain ⟨i, hi, rfl⟩ := List.mem_iff_getElem.1 he
  have hi' : i < Rule.table.length := by rwa [table_matches.length_eq]
  have hmatches : Matches Rule.table[i] table[i] := table_matches.get hi' hi
  rwa [Rule.table_kind_inj r hr _ (List.getElem_mem hi') (hkind.trans hmatches.kind.symm)]

/-- The words of a rule are those of the expression. -/
theorem word_shape_iff {r : Rule} (hr : r ∈ Rule.table) (hkind : r.kind = e.kind) {w : Text} :
    Word r.shape w ↔ e.Spells w := by
  rw [← mem_language_iff he, ← (matches_of_kind_eq he hr hkind).language]
  rfl

/-- Each expression has a rule. -/
theorem exists_rule : ∃ r ∈ Rule.table, r.kind = e.kind := by
  have hkinds : Rule.table.map Rule.kind = table.map kind := rfl
  have hmem := List.mem_map_of_mem (f := kind) he
  rw [← hkinds] at hmem
  exact List.mem_map.1 hmem

-- ==================================================== one way to match

/-- At most one word of an expression stands in front of a text, if it
does not skip blanks. -/
theorem Spells.append_inj (hkind : e.kind ≠ none) {w w' rest rest' : Text} (h : e.Spells w)
    (h' : e.Spells w') (heq : w ++ rest = w' ++ rest') : w = w' := by
  obtain ⟨r, hr, hr'⟩ := exists_rule he
  have hdet := Rule.table_isDeterministic r hr (hr' ▸ hkind)
  exact (Word.append_inj hdet ((word_shape_iff he hr hr').2 h) ((word_shape_iff he hr hr').2 h')
    (Text.continues_all rest) (Text.continues_all rest') heq).1

/-- There is one way to match the groups of an expression in front of a
text, if it does not skip blanks. -/
theorem eq_of_mem_cuts (hkind : e.kind ≠ none) {t : Text} {ws ws' : List Text}
    (h : ws ∈ cuts e.groups t) (h' : ws' ∈ cuts e.groups t) : ws = ws' := by
  obtain ⟨hws, rest, rfl⟩ := Pattern.mem_cuts_iff.1 h
  obtain ⟨hws', rest', heq⟩ := Pattern.mem_cuts_iff.1 h'
  cases hback : e.back with
  | none =>
    obtain ⟨w, rfl, hw⟩ := (forall₂_groups_of_none hback).1 hws
    obtain ⟨w', rfl, hw'⟩ := (forall₂_groups_of_none hback).1 hws'
    simp only [List.flatten_singleton] at heq
    rw [Spells.append_inj he hkind (.plain hback hw') (.plain hback hw) heq]
  | some back =>
    obtain ⟨u, x, v, rfl, hu, hx, hv⟩ := (forall₂_groups_of_some hback).1 hws
    obtain ⟨u', x', v', rfl, hu', hx', hv'⟩ := (forall₂_groups_of_some hback).1 hws'
    have hsplit : u ++ (x ++ (v ++ rest)) = u' ++ (x' ++ (v' ++ rest')) := by
      simpa using heq.symm
    have hname {x : Text} (s : Text) (hx : Word identifier x) :
        Continues identifier.first (x ++ s) :=
      (hx.continues_append (Text.continues_all s)).mono (by decide)
    obtain ⟨rfl, hnamed⟩ := Word.append_inj (table_back e he back hback).1 hu hu'
      (hname _ hx) (hname _ hx') hsplit
    have hidentifier : identifier.isDeterministic [CharClass.nameRest.compl] = true := by
      decide
    obtain ⟨rfl, hbehind⟩ :=
      Word.append_inj hidentifier hx hx' (continues_back he hback hv rest)
        (continues_back he hback hv' rest') hnamed
    -- any name will do to compare what is behind it, and one is not reserved
    have hspells {v : Text} (hv : Word back v) : e.Spells (u ++ ("x" ++ v)) :=
      .of_words he hback hu (Rule.word_of_covers (by decide)) (by decide) hv
    have hsame : u ++ ("x" ++ v) ++ rest = u ++ ("x" ++ v') ++ rest' := by simp [hbehind]
    have hwhole : u ++ ("x" ++ v) = u ++ ("x" ++ v') :=
      Spells.append_inj he hkind (hspells hv) (hspells hv') hsame
    rw [List.append_cancel_left (List.append_cancel_left hwhole)]

-- ===================================================== what is matched

/-- Behind `No` there is a boundary where no word character follows. -/
theorem isBoundary_eq (hwhole : e.wholeWord = true) {ws : List Text}
    (hws : List.Forall₂ Word e.groups ws) (rest : Text) :
    Text.isBoundary ws.flatten rest = !rest.continuesWord := by
  obtain ⟨hback, hfront⟩ := table_wholeWord e he hwhole
  obtain ⟨w, rfl, hw⟩ := (forall₂_groups_of_none hback).1 hws
  rw [hfront, Pattern.word_text_iff] at hw
  subst hw
  have hlast : CharClass.wordCharacter.has 'o' = true := by decide +kernel
  cases rest <;> simp [Text.isBoundary, Text.continuesWord, hlast]

/-- What is captured is the only way to match the groups, with no word
character behind `No`. -/
theorem captures?_eq_some_iff (hkind : e.kind ≠ none) {t : Text} {ws : List Text} :
    e.captures? t = some ws
      ↔ ∃ rest, t = ws.flatten ++ rest ∧ List.Forall₂ Word e.groups ws
        ∧ (e.wholeWord = true → rest.continuesWord = false) := by
  constructor
  · intro h
    obtain ⟨hws, rest, rfl⟩ := Pattern.mem_cuts_iff.1 (List.mem_of_find?_eq_some h)
    refine ⟨rest, rfl, hws, fun hwhole => ?_⟩
    have hends := List.find?_some h
    rwa [hwhole, List.drop_left, isBoundary_eq he hwhole hws, Bool.not_true, Bool.false_or,
      Bool.not_eq_true'] at hends
  · rintro ⟨rest, rfl, hws, hends⟩
    have hmem : ws ∈ cuts e.groups (ws.flatten ++ rest) :=
      Pattern.mem_cuts_iff.2 ⟨hws, List.prefix_append _ _⟩
    have hok : (!e.wholeWord || Text.isBoundary ws.flatten
        ((ws.flatten ++ rest).drop ws.flatten.length)) = true := by
      cases hwhole : e.wholeWord with
      | false => rfl
      | true => rw [List.drop_left, isBoundary_eq he hwhole hws, hends hwhole]; rfl
    cases hfind : e.captures? (ws.flatten ++ rest) with
    | none => exact absurd hok (List.find?_eq_none.1 hfind ws hmem)
    | some ws' => rw [eq_of_mem_cuts he hkind (List.mem_of_find?_eq_some hfind) hmem]

/-- An expression matches exactly its words, as far as no blanks are
skipped. -/
theorem matchSize?_eq_some_iff (hkind : e.kind ≠ none) {t : Text} {n : Nat} :
    e.matchSize? t = some n
      ↔ ∃ w rest, t = w ++ rest ∧ Text.byteSize w = n ∧ e.Spells w
        ∧ (e.wholeWord = true → rest.continuesWord = false) := by
  simp only [matchSize?, Option.map_eq_some_iff, Option.filter_eq_some_iff,
    captures?_eq_some_iff he hkind, Bool.not_eq_true']
  constructor
  · rintro ⟨ws, ⟨⟨rest, rfl, hws, hends⟩, hfree⟩, rfl⟩
    exact ⟨ws.flatten, rest, rfl, rfl, (spells_iff_groups he).2 ⟨ws, hws, rfl, hfree⟩, hends⟩
  · rintro ⟨w, rest, rfl, rfl, hspells, hends⟩
    obtain ⟨ws, hws, rfl, hfree⟩ := (spells_iff_groups he).1 hspells
    exact ⟨ws, ⟨⟨rest, rfl, hws, hends⟩, hfree⟩, rfl⟩

end Expression

namespace Rule

variable {r : Rule} {e : Expression} (hr : r ∈ table) (he : e ∈ Expression.table)
  (hkind : r.kind = e.kind)
include hr he hkind

/-- What a rule reads is what its expression spells, where it may end. -/
theorem reads_iff_spells {w rest : Text} :
    r.Reads w rest ∧ Continues r.behind rest
      ↔ e.Spells w ∧ (e.kind = some .otherwise → rest.continuesWord = false)
        ∧ (e.kind = none → ∀ c ∈ rest.head?, isBlank c = false) := by
  have hwhole : r.wholeWord = true ↔ e.kind = some .otherwise := by
    rw [(Expression.matches_of_kind_eq he hr hkind).wholeWord, Expression.table_wholeWord_iff e he]
  rw [continues_behind_iff, hkind, ← Expression.word_shape_iff he hr hkind, ← hwhole]
  exact ⟨fun ⟨hreads, hrest⟩ => ⟨hreads.word, hreads.ends, hrest⟩,
    fun ⟨hword, hends, hrest⟩ => ⟨⟨hword, hends⟩, hrest⟩⟩

/-- A rule decides the words of its expression. -/
theorem matchSize?_eq_some_iff_spells {t : Text} {n : Nat} :
    r.matchSize? t = some n
      ↔ ∃ w rest, t = w ++ rest ∧ Text.byteSize w = n ∧ e.Spells w
        ∧ (e.kind = some .otherwise → rest.continuesWord = false)
        ∧ (e.kind = none → ∀ c ∈ rest.head?, isBlank c = false) := by
  simp only [matchSize?, Option.map_eq_some_iff, scan_eq_some_iff hr,
    reads_iff_spells hr he hkind]
  constructor
  · rintro ⟨_, ⟨w, rest, rfl, rfl, hreads⟩, rfl⟩
    exact ⟨w, rest, rfl, by rw [List.take_left], hreads⟩
  · rintro ⟨w, rest, rfl, rfl, hreads⟩
    exact ⟨w.length, ⟨w, rest, rfl, rfl, hreads⟩, by rw [List.take_left]⟩

/-- An expression matches what its rule reads: a run of blanks because it
is matched greedily, and anything else because there is one way to match
it. -/
theorem matchSize?_eq (t : Text) : e.matchSize? t = r.matchSize? t := by
  by_cases hnone : e.kind = none
  · have htable : ∀ e ∈ Expression.table, e.kind = none →
        e.groups = [Shape.gap] ∧ e.wholeWord = false := by decide
    obtain ⟨hgroups, hwhole⟩ := htable e he hnone
    obtain ⟨hshape, hwhole'⟩ := table_blank r hr (hkind.trans hnone)
    have hcuts : (cuts [Shape.gap] t).head? = (Shape.gap.scan t).map fun n => [t.take n] := by
      rw [← head?_readings_gap, ← List.head?_map, List.map_eq_flatMap]
      rfl
    have hcaptures : e.captures? t = (Shape.gap.scan t).map fun n => [t.take n] := by
      rw [Expression.captures?, hgroups, hwhole, ← hcuts]
      cases cuts [Shape.gap] t <;> rfl
    have hscan : r.scan t = Shape.gap.scan t := by
      rw [scan, hshape, hwhole']
      cases Shape.gap.scan t <;> rfl
    rw [matchSize?, hscan, Expression.matchSize?, hcaptures]
    cases Shape.gap.scan t <;> simp
  · refine Option.ext fun n => ?_
    rw [Expression.matchSize?_eq_some_iff he hnone, Expression.table_wholeWord_iff e he,
      matchSize?_eq_some_iff_spells hr he hkind]
    simp [hnone]

omit hr he hkind

/-- A rule decides the language of an expression. -/
structure Decides (r : Rule) (e : Expression) : Prop where
  /-- It reads so many bytes exactly if they are a word of the expression,
  where no word character follows `No` and no blank follows blanks. -/
  reads (t : Text) (n : Nat) :
    r.matchSize? t = some n
      ↔ ∃ w rest, t = w ++ rest ∧ Text.byteSize w = n ∧ e.Spells w
        ∧ (e.kind = some .otherwise → rest.continuesWord = false)
        ∧ (e.kind = none → ∀ c ∈ rest.head?, isBlank c = false)
  /-- Unless blanks are skipped, a text begins with one word at most. -/
  unique (hkind : e.kind ≠ none) {t w w' : Text} (hw : w <+: t) (hw' : w' <+: t)
    (h : e.Spells w) (h' : e.Spells w') : w = w'
  /-- So what follows the word does not matter. -/
  stable (hkind : e.kind ≠ none) {w rest rest' : Text}
    (h : r.matchSize? (w ++ rest) = some (Text.byteSize w))
    (hrest : e.kind = some .otherwise → rest'.continuesWord = false) :
    r.matchSize? (w ++ rest') = some (Text.byteSize w)
  /-- The leftmost-first match of the expression is what is read. -/
  leftmostFirst (t : Text) : e.matchSize? t = r.matchSize? t

/-- Each rule of the table decides the expression at its place. -/
theorem table_decides :
    table.map kind = Expression.table.map Expression.kind
      ∧ ∀ r ∈ table, ∀ e ∈ Expression.table, r.kind = e.kind → r.Decides e := by
  refine ⟨rfl, fun r hr e he hkind => ?_⟩
  have hreads := @matchSize?_eq_some_iff_spells r e hr he hkind
  refine
    { reads := fun t n => hreads
      unique := ?unique
      stable := ?stable
      leftmostFirst := matchSize?_eq hr he hkind }
  case unique =>
    rintro hnone t w w' ⟨rest, rfl⟩ ⟨rest', heq⟩ h h'
    exact Expression.Spells.append_inj he hnone h h' heq.symm
  case stable =>
    intro hnone w rest rest' h hrest
    obtain ⟨w', behind, heq, hsize, hspells, -, -⟩ := hreads.1 h
    obtain ⟨rfl, -⟩ := Text.append_inj_of_byteSize_eq heq hsize.symm
    exact hreads.2 ⟨w, rest', rfl, rfl, hspells, hrest, fun h => absurd h hnone⟩

/-- A declaration whose value begins with a minus sign and goes on with
one: its word in front of `No`, and in front of a brace. -/
theorem table_decides_declaration :
    table[3].kind = Expression.table[3].kind
      ∧ Expression.table[3].Spells ("ent x = -1 - y ;" : Text)
      ∧ table[3].matchSize? ("ent x = -1 - y ;" ++ "No" : Text) = some 16
      ∧ table[3].matchSize? ("ent x = -1 - y ;" ++ "\x7d" : Text) = some 16
      ∧ Expression.table[3].matchSize? ("ent x = -1 - y ;" ++ "\x7d" : Text) = some 16 := by
  have hdecides := table_decides.2 table[3] (by decide) Expression.table[3]
    (List.getElem_mem _) rfl
  have hspells : Expression.table[3].Spells ("ent " ++ ("x" ++ " = -1 - y ;") : Text) :=
    .named rfl (word_of_covers (by decide)) (word_of_covers (by decide)) (by decide)
      (Text.continues_cons.2 (by decide)) (word_of_covers (by decide))
  have hreads : table[3].matchSize? ("ent x = -1 - y ;" ++ "No" : Text) = some 16 :=
    (hdecides.reads _ 16).2 ⟨_, _, rfl, rfl, hspells, by decide, by decide⟩
  have hstable : table[3].matchSize? ("ent x = -1 - y ;" ++ "\x7d" : Text) = some 16 :=
    hdecides.stable (by decide) hreads (by decide)
  exact ⟨rfl, hspells, hreads, hstable, (hdecides.leftmostFirst _).trans hstable⟩

end Rule

end Aula
