/-
A block passes its own braces and no other.

No walk ever looks for the brace that matches the one a block begins with.
It stops there all the same, because two accounts agree: in the language a
brace is passed only to enter or to leave a block, so the depth changes as
the braces passed do (`Trail.braces`); and while the goal of a block is
left, the depth is above the one where the block began (`Trail.inside`).
So as long as the block goes on, more braces are opened than closed, and
the brace that ends it is the first to make them even.

This holds from any depth, and over a stream whose braces do not pair up.
-/
import Aula.Proofs.Program.Braces
import Aula.Proofs.Walker.Driving
import Aula.Proofs.Walker.Trail

namespace Aula

namespace Balance

@[simp]
theorem opens_append (ts us : List Token) : opens (ts ++ us) = opens ts + opens us :=
  List.countP_append

@[simp]
theorem closes_append (ts us : List Token) : closes (ts ++ us) = closes ts + closes us :=
  List.countP_append

/-- The tokens are an opening brace, the brace that matches it, and what is
between them. -/
structure Encloses (ts : List Token) : Prop where
  first : ∃ o rest, ts = o :: rest ∧ o.kind = .openBrace
  last : ∃ front c, ts = front ++ [c] ∧ c.kind = .closeBrace
  total : opens ts = closes ts
  /-- No closing brace before the last is the one that matches. -/
  inner : ∀ pre, pre <+: ts → pre ≠ [] → pre ≠ ts → closes pre < opens pre

/-- The last token is a closing brace if it is the one that makes the braces
even. -/
theorem Encloses.of_inner {o : Token} {rest : List Token} (ho : o.kind = .openBrace)
    (total : opens (o :: rest) = closes (o :: rest))
    (inner : ∀ pre, pre <+: rest → pre ≠ rest → closes (o :: pre) < opens (o :: pre)) :
    Encloses (o :: rest) := by
  refine ⟨⟨o, rest, rfl, ho⟩, ?_, total, fun pre hpre hne hproper => ?_⟩
  · rcases List.eq_nil_or_concat rest with rfl | ⟨front, c, rfl⟩
    · rw [(counts_open ho []).1, (counts_open ho []).2] at total
      cases total
    · rw [List.concat_eq_append] at total inner ⊢
      have hlt := inner front (List.prefix_append front [c]) (by simp)
      refine ⟨o :: front, c, rfl, ?_⟩
      by_contra hclose
      rw [← List.cons_append, opens_append, closes_append] at total
      have hnone : closes [c] = 0 := by simp [closes, hclose]
      omega
  · rcases List.prefix_cons_iff.1 hpre with rfl | ⟨pre', rfl, hpre'⟩
    · exact absurd rfl hne
    · exact inner pre' hpre' fun heq => hproper (by rw [heq])

end Balance

namespace Walker

open Balance (opens closes)

variable {w w' next : Walker} {g : Goal} {goals goals' more : List Goal}
  {passed seen : List Token}

-- ============================================================= one step

/-- The table is that of the language, and every goal leaves it to the table
how a token is handled. -/
structure Ordinary (w : Walker) (goals : List Goal) : Prop where
  table : w.table = Table.language
  goals : ∀ g ∈ goals, g ∈ Goal.statement :: waiting

/-- In the language, beginning a statement passes a token that is neither a
brace nor an end of input. -/
theorem Goes.statement_of_language (h : Goes w .statement more next)
    (htable : w.table = Table.language) :
    (∀ g ∈ more, g ∈ waiting) ∧ next.ahead = w.ahead.advance ∧ next.depth = w.depth
      ∧ w.current.kind ≠ .openBrace ∧ w.current.kind ≠ .closeBrace
      ∧ w.current.kind ≠ .endOfInput := by
  cases h with
  | @dispatch handler _ _ hk hs =>
    rw [htable] at hk
    obtain ⟨hne, hclose, hend⟩ := language_some _ _ hk
    cases hs with
    | enter => exact absurd rfl hne
    | handle _ _ =>
      exact ⟨(goals_waiting _ hne).2, note?_ahead _ _, note?_depth _ _,
        (Path.language_not_brace _ _ hk).1, hclose, hend⟩

/-- A step leads from ordinary goals to ordinary ones. -/
theorem Goes.ordinary (h : Goes w g more next) (hw : w.Ordinary (g :: goals)) :
    next.Ordinary (more ++ goals) := by
  obtain ⟨htable, hgoals⟩ := hw
  obtain ⟨hg, hrest⟩ := List.forall_mem_cons.1 hgoals
  refine ⟨h.table_eq.trans htable, List.forall_mem_append.2 ⟨?_, hrest⟩⟩
  cases h with
  | handle hne _ => exact fun g' hg' => .tail _ ((goals_waiting _ hne).2 g' hg')
  | enter => decide
  | dispatch hk hs =>
    exact fun g' hg' => .tail _ (((Goes.dispatch hk hs).statement_of_language htable).1 g' hg')
  | leave => exact List.forall_mem_nil _
  | body _ _ hs =>
    refine List.forall_mem_append.2 ⟨fun g' hg' => ?_, by decide⟩
    exact .tail _ ((hs.statement_of_language htable).1 g' hg')
  | otherwise => decide
  | skip => exact List.forall_mem_nil _

/-- In the language, a step passes the token in front, and the depth changes
by what brace that is; or there is no other block, and it passes none. -/
theorem Goes.braces (h : Goes w g more next) (hw : w.Ordinary (g :: goals))
    (hpassed : w.ahead.toList = passed ++ next.ahead.toList) :
    (passed = [w.current] ∧ w.current.kind ≠ .endOfInput
        ∧ next.depth + closes [w.current] = w.depth + opens [w.current])
      ∨ passed = [] ∧ g = .otherwise ∧ next.depth = w.depth := by
  have htable := hw.table
  -- what is passed is the token in front wherever the step moves past that
  have htoken : w.current.kind ≠ .endOfInput → next.ahead = w.ahead.advance →
      passed = [w.current] := by
    intro hend hahead
    rw [hahead, Stream.toList_eq_cons hend, ← List.singleton_append] at hpassed
    exact (List.append_cancel_right hpassed).symm
  have hother : w.current.kind ≠ .openBrace → w.current.kind ≠ .closeBrace →
      opens [w.current] = 0 ∧ closes [w.current] = 0 := fun ho hc =>
    Balance.counts_other ho hc []
  cases h with
  | handle hne _ =>
    have hg := hw.goals _ (.head _)
    simp only [waiting, List.mem_cons, Goal.handle.injEq, reduceCtorEq, List.not_mem_nil,
      or_false, false_or] at hg
    exact absurd hg hne
  | enter hk =>
    have hend : w.current.kind ≠ .endOfInput := by simp [hk]
    obtain ⟨ho, hc⟩ := Balance.counts_open hk []
    refine .inl ⟨htoken hend rfl, hend, ?_⟩
    rw [ho, hc]
    rfl
  | dispatch hk hs =>
    obtain ⟨-, hahead, hdepth, hopen, hclose, hend⟩ :=
      (Goes.dispatch hk hs).statement_of_language htable
    obtain ⟨ho, hc⟩ := hother hopen hclose
    exact .inl ⟨htoken hend hahead, hend, by rw [ho, hc, hdepth]⟩
  | leave hk hd =>
    have hend : w.current.kind ≠ .endOfInput := by simp [hk]
    obtain ⟨ho, hc⟩ := Balance.counts_close hk []
    refine .inl ⟨htoken hend rfl, hend, ?_⟩
    rw [ho, hc, hd]
    rfl
  | body _ _ hs =>
    obtain ⟨-, hahead, hdepth, hopen, hclose, hend⟩ := hs.statement_of_language htable
    obtain ⟨ho, hc⟩ := hother hopen hclose
    exact .inl ⟨htoken hend hahead, hend, by rw [ho, hc, hdepth]⟩
  | otherwise hk =>
    have hend : w.current.kind ≠ .endOfInput := by simp [hk]
    obtain ⟨ho, hc⟩ := hother (by simp [hk]) (by simp [hk])
    exact .inl ⟨htoken hend rfl, hend, by rw [ho, hc]; rfl⟩
  | skip =>
    exact .inr ⟨List.self_eq_append_left.1 hpassed, rfl, rfl⟩

-- ============================================================ all steps

namespace Trail

/-- In the language, no end of input is passed, and the depth changes as the
braces passed do. -/
theorem braces (h : Trail w goals seen w' goals') (hw : w.Ordinary goals) :
    (∀ t ∈ seen, t.kind ≠ .endOfInput) ∧ w'.depth + closes seen = w.depth + opens seen := by
  induction h with
  | stay => exact ⟨List.forall_mem_nil _, rfl⟩
  | @step w next w' g goals more goals' passed seen hgoes hpassed _ ih =>
    obtain ⟨hseen, hcount⟩ := ih (hgoes.ordinary hw)
    rcases hgoes.braces hw hpassed with ⟨rfl, hend, hdepth⟩ | ⟨rfl, -, hdepth⟩
    · refine ⟨List.forall_mem_cons.2 ⟨hend, hseen⟩, ?_⟩
      rw [Balance.opens_append, Balance.closes_append]
      omega
    · exact ⟨hseen, by rw [List.nil_append, hcount, hdepth]⟩

/-- No goal, no step. -/
theorem seen_eq_nil (h : Trail w [] seen w' goals') : seen = [] := by
  cases h
  rfl

/-- Until the last goal that waits for a closing brace is reached, the depth
is above the one that it leads back to. -/
theorem inside (front : List Goal) (base : Nat)
    (h : Trail w (front ++ [.body]) seen w' []) (hw : w.Ordinary (front ++ [.body]))
    (hdepth : w.depth = base + (front ++ [Goal.body]).count Goal.body) :
    ∀ pre, pre <+: seen → pre ≠ seen → base + closes pre < w.depth + opens pre := by
  generalize hgoals : front ++ [Goal.body] = goals at h hw hdepth
  generalize hleft : ([] : List Goal) = left at h
  induction h generalizing front with
  | stay =>
    rw [← hleft] at hgoals
    exact absurd hgoals (by simp)
  | @step w next w' g goals more goals' passed seen hgoes hpassed htrail ih =>
    intro pre hpre hproper
    have hopen : 0 < (g :: goals).count .body := by
      rw [← hgoals, List.count_append]
      exact Nat.lt_add_left _ (by decide)
    have hnext : next.depth = base + (more ++ goals).count .body := by
      have hstep := hgoes.depth_eq
      rw [Goal.count_body_cons] at hdepth
      rw [List.count_append]
      omega
    -- the last goal is reached now, or it is still the last behind the step
    have hlast : (more ++ goals = [] ∧ seen = [])
        ∨ ∃ front', front' ++ [.body] = more ++ goals := by
      cases front with
      | nil =>
        obtain ⟨rfl, rfl⟩ := List.cons.inj hgoals
        cases hgoes with
        | leave => exact .inl ⟨rfl, htrail.seen_eq_nil⟩
        | @body more' => exact .inr ⟨more', (List.append_nil _).symm⟩
      | cons g' front =>
        obtain ⟨rfl, rfl⟩ := List.cons.inj hgoals
        exact .inr ⟨more ++ front, List.append_assoc ..⟩
    have hrest : ∀ pre', pre' <+: seen → pre' ≠ seen →
        base + closes pre' < next.depth + opens pre' := by
      intro pre' hpre' hproper'
      rcases hlast with ⟨-, rfl⟩ | ⟨front', hfront⟩
      · exact absurd (List.prefix_nil.1 hpre') hproper'
      · exact ih front' hfront (hgoes.ordinary hw) hnext hleft pre' hpre' hproper'
    rcases hgoes.braces hw hpassed with ⟨rfl, -, hbrace⟩ | ⟨rfl, -, hsame⟩
    · rcases List.prefix_cons_iff.1 hpre with rfl | ⟨pre', rfl, hpre'⟩
      · rw [Balance.closes_nil, Balance.opens_nil]
        omega
      · have hlt := hrest pre' hpre' fun heq => hproper (by rw [heq]; rfl)
        rw [← List.singleton_append, Balance.opens_append, Balance.closes_append]
        omega
    · rw [List.nil_append] at hpre hproper
      rw [← hsame]
      exact hrest pre hpre hproper

/-- A block that is left has passed the brace it began with, the brace that
matches that, and what is between them. -/
theorem encloses (h : Trail w [.handle .block] seen w' []) (hw : w.Ordinary [.handle .block]) :
    Balance.Encloses seen := by
  have hdepth := h.depth_eq
  obtain ⟨-, hcount⟩ := h.braces hw
  have htotal : opens seen = closes seen := by
    rw [Goal.count_body (by decide), List.count_nil] at hdepth
    omega
  cases h with
  | step hgoes hpassed htrail =>
    have hordinary := hgoes.ordinary hw
    rcases hgoes.braces hw hpassed with ⟨rfl, -, -⟩ | ⟨-, hg, -⟩
    · cases hgoes with
      | handle hne => exact absurd rfl hne
      | enter hk =>
        refine .of_inner hk htotal fun pre hpre hproper => ?_
        have hlt := inside [] w.depth htrail hordinary rfl pre hpre hproper
        change w.depth + closes pre < w.depth + 1 + opens pre at hlt
        rw [(Balance.counts_open hk pre).1, (Balance.counts_open hk pre).2]
        omega
    · cases hg

end Trail

-- =========================================================== the result

/-- With the table of the language, from any depth and over any stream, a
block that is left has passed the brace it began with, the brace that
matches that, and what is between them, but no end of input. A block or a
statement, whether it succeeds or fails, changes the depth as the braces do
that it has passed. -/
theorem block_passes_its_braces (ahead : Stream) (depth : Nat) (log : Array Event) :
    let w : Walker := { ahead, depth, table := Table.language, log }
    (∀ next, w.run [.handle .block] = (.ok (), next) →
        ∃ slice, ahead.toList = slice ++ next.ahead.toList
          ∧ Balance.Encloses slice ∧ ∀ t ∈ slice, t.kind ≠ .endOfInput)
      ∧ ∀ g ∈ [Goal.handle .block, .statement], ∀ result stop, w.run [g] = (result, stop) →
          ∃ slice, ahead.toList = slice ++ stop.ahead.toList
            ∧ stop.depth + closes slice = depth + opens slice := by
  intro w
  refine ⟨fun next h => ?_, fun g hg result stop h => ?_⟩
  · have hw : w.Ordinary [.handle .block] := ⟨rfl, by decide⟩
    obtain ⟨seen, left, htrail, ⟨-, rfl⟩ | ⟨f, g, later, ⟨⟩, -⟩⟩ := exists_trail h
    exact ⟨seen, htrail.toList_eq, htrail.encloses hw, (htrail.braces hw).1⟩
  · have hmem : ∀ g ∈ [Goal.handle .block, .statement], g ∈ Goal.statement :: waiting := by
      decide
    have hw : w.Ordinary [g] := ⟨rfl, List.forall_mem_singleton.2 (hmem g hg)⟩
    obtain ⟨seen, left, htrail, -⟩ := exists_trail h
    exact ⟨seen, htrail.toList_eq, (htrail.braces hw).2⟩

/-- A condition with its block inside a block, five blocks deep; behind it
stands a brace that closes one more. -/
theorem block_passes_its_braces_of_nested :
    let ahead : Stream := ⟨[.reading .openBrace "\x7b" 0, .reading .condition "Si (a)" 1,
      .reading .openBrace "\x7b" 7, .reading .closeBrace "\x7d" 8,
      .reading .closeBrace "\x7d" 9, .reading .closeBrace "\x7d" 10], .endOfInput 11, rfl⟩
    ∃ next, Walker.run { ahead, depth := 5, table := Table.language } [.handle .block]
        = (.ok (), next)
      ∧ next.current = .reading .closeBrace "\x7d" 10
      ∧ ∃ slice, ahead.toList = slice ++ next.ahead.toList ∧ Balance.Encloses slice
        ∧ next.depth + closes slice = 5 + opens slice := by
  intro ahead
  let inside : Walker :=
    { ahead := ahead.drop 1, depth := 6, table := Table.language, log := #[.entered 0 6] }
  let guarded : Walker :=
    { ahead := ahead.drop 2, depth := 6, table := Table.language
      log := #[.entered 0 6, .conditionChecked "a"] }
  let next : Walker :=
    { ahead := ahead.drop 5, depth := 5, table := Table.language
      log := #[.entered 0 6, .conditionChecked "a", .entered 7 7, .left 8 6, .left 9 5] }
  have hcheck : Condition.check ['a'] = .ok () := by
    have hread : Operator.read? ['a'] = none := by decide
    have hcut : Condition.cut false ['a'] = (['a'], []) := by simp [Condition.cut, hread]
    unfold Condition.check Condition.parts
    rw [hcut]
    decide
  have hadmits : Handler.Admits .condition inside.current := ⟨['a'], by decide, hcheck⟩
  have hstatement : inside.step .body
      = .ok ([.handle .block, .otherwise, .body], guarded) :=
    (step_eq_ok_iff rfl (by decide)).2 (.statement rfl hadmits)
  have hrun : Walker.run { ahead, depth := 5, table := Table.language } [.handle .block]
      = (.ok (), next) := by
    rw [run_cons]
    show inside.run [.body] = _
    rw [run_cons, hstatement]
    show run _ [.handle .block, .otherwise, .body] = _
    rw [run_cons]
    show run _ [.body, .otherwise, .body] = _
    rw [run_cons]
    show run _ [.otherwise, .body] = _
    rw [run_cons]
    show run _ [.body] = _
    rw [run_cons]
    show run _ [] = _
    rw [run_nil]
    rfl
  obtain ⟨hblock, hdepth⟩ := block_passes_its_braces ahead 5 #[]
  obtain ⟨slice, hslice, hencloses, -⟩ := hblock next hrun
  obtain ⟨slice', hslice', hcount⟩ := hdepth _ (.head _) _ _ hrun
  obtain rfl : slice' = slice := List.append_cancel_right (hslice'.symm.trans hslice)
  exact ⟨next, hrun, rfl, _, hslice, hencloses, hcount⟩

end Walker

end Aula
