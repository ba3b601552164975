/-
What the goals of a walk still demand of the tokens ahead, and why a
walk succeeds exactly where they get it.

A stack of goals is the rest of a derivation turned inside out:
`Demand goals ts` says that `ts` is one piece for each goal, in order.
Only three goals ever wait on the stack of a program: a block, the
statements up to a closing brace, and the block after a `No`.

# One step, then the whole walk

`step_demand` is the whole argument: with the table of the language, a
step towards a goal succeeds if and only if the tokens ahead meet the
demand, and then the goals that are left demand what is left of the
tokens. It needs the number of open blocks to be the number of goals
that wait for a closing brace (`Walker.Stands`), since a closing brace
is only accepted inside a block; the same step keeps that number
(`step_stands`). Both are carried along a run by induction on the run,
in `run_demand`.

Where the tokens may go on with a `No`, the walk takes it and never
looks back. That loses nothing: a demand that leaves the `No` to a later
goal can always be rearranged, as no other goal begins with one
(`demand_otherwise_cons`).
-/
import Aula.Proofs.Walker.Moves

namespace Aula

-- ============================================================ the stream

namespace Stream

/-- The tokens before the first end of input. -/
def upcoming (s : Stream) : List Token := s.toList.takeWhile (·.kind ≠ .endOfInput)

/-- The token in front of a stream is upcoming unless it is an end of
input. -/
theorem upcoming_of_ne {s : Stream} (h : s.head.kind ≠ .endOfInput) :
    s.upcoming = s.head :: s.advance.upcoming := by
  unfold upcoming toList advance
  rw [if_neg h]
  cases hbody : s.body with
  | nil => exact absurd (head_of_body_nil hbody) h
  | cons t ts =>
    have hhead : s.head = t := by rw [head, hbody]; rfl
    rw [hhead] at h ⊢
    simp [h]

/-- Nothing is upcoming before an end of input. -/
theorem upcoming_of_eq {s : Stream} (h : s.head.kind = .endOfInput) :
    s.upcoming = [] := by
  unfold upcoming toList
  cases hbody : s.body with
  | nil => simp [s.final_kind]
  | cons t ts =>
    have hhead : s.head = t := by rw [head, hbody]; rfl
    rw [hhead] at h
    simp [h]

/-- What is upcoming begins with the token in front, and goes on with what
is upcoming behind it. -/
theorem upcoming_eq_cons {s : Stream} {t : Token} {ts : List Token}
    (h : s.upcoming = t :: ts) :
    s.head = t ∧ t.kind ≠ .endOfInput ∧ s.advance.upcoming = ts := by
  by_cases hend : s.head.kind = .endOfInput
  · rw [upcoming_of_eq hend] at h
    cases h
  · rw [upcoming_of_ne hend] at h
    obtain ⟨rfl, rfl⟩ := List.cons.inj h
    exact ⟨rfl, hend, rfl⟩

/-- Where no end of input stands among the tokens, all of them are
upcoming. -/
theorem upcoming_of_forall {s : Stream}
    (h : ∀ t ∈ s.body, t.kind ≠ .endOfInput) : s.upcoming = s.body := by
  unfold upcoming toList
  rw [List.takeWhile_append_of_pos (by simpa using h)]
  simp [s.final_kind]

end Stream

-- ============================================================ the demand

/-- The tokens are what a goal asks for. -/
inductive Goal.Meets : Goal → List Token → Prop where
  | block {b : List Token} (hb : Derives .block b) : Meets (.handle .block) b
  | body {ss : List Token} {c : Token} (hs : Derives .statements ss)
      (hc : c.kind = .closeBrace) : Meets .body (ss ++ [c])
  | skip : Meets .otherwise []
  | otherwise {o : Token} {b : List Token} (ho : o.kind = .otherwise)
      (hb : Derives .block b) : Meets .otherwise (o :: b)

/-- The tokens are what the goals ask for, one after the other. -/
inductive Demand : List Goal → List Token → Prop where
  | nil : Demand [] []
  | cons {g : Goal} {goals : List Goal} {ts us : List Token} (hg : g.Meets ts)
      (h : Demand goals us) : Demand (g :: goals) (ts ++ us)

namespace Demand

/-- The demand of two stacks is met piece by piece. -/
theorem append_iff {goals later : List Goal} {ts : List Token} :
    Demand (goals ++ later) ts
      ↔ ∃ us vs, ts = us ++ vs ∧ Demand goals us ∧ Demand later vs := by
  constructor
  · intro h
    induction goals generalizing ts with
    | nil => exact ⟨[], ts, rfl, .nil, h⟩
    | cons g goals ih =>
      cases h with
      | cons hg h =>
        obtain ⟨us, vs, rfl, hus, hvs⟩ := ih h
        exact ⟨_, vs, (List.append_assoc ..).symm, .cons hg hus, hvs⟩
  · intro h
    obtain ⟨us, vs, rfl, hus, hvs⟩ := h
    induction hus with
    | nil => exact hvs
    | cons hg _ ih =>
      rw [List.append_assoc]
      exact .cons hg ih

/-- What one goal asks for, as a stack. -/
theorem singleton_iff {g : Goal} {ts : List Token} : Demand [g] ts ↔ g.Meets ts := by
  constructor
  · intro h
    cases h with
    | cons hg h =>
      cases h
      rwa [List.append_nil]
  · intro h
    have := Demand.cons h .nil
    rwa [List.append_nil] at this

end Demand

-- ==================================================== goals and phrases

/-- A statement is a token that the table has a handler for, and what
that handler leaves to do. -/
theorem derives_statement_iff {t : Token} {ts : List Token} :
    Derives .statement (t :: ts)
      ↔ ∃ h, Table.language t.kind = some h ∧ h.Admits t ∧ Demand h.goals ts := by
  constructor
  · intro h
    cases h with
    | plain ht =>
      have hplain : ∀ k ∈ Kind.plain, Table.language k = some .single
          ∨ Table.language k = some .comment := by decide
      rcases hplain t.kind ht with hk | hk
      · exact ⟨.single, hk, trivial, .nil⟩
      · exact ⟨.comment, hk, trivial, .nil⟩
    | output ht ha => exact ⟨.output, by rw [ht]; rfl, ha, .nil⟩
    | condition ht ha hb =>
      refine ⟨.condition, by rw [ht]; rfl, ha, ?_⟩
      have hdemand := Demand.cons (.block hb) (Demand.singleton_iff.2 .skip)
      rwa [List.append_nil] at hdemand
    | conditionOtherwise ht ha hb ho hd =>
      refine ⟨.condition, by rw [ht]; rfl, ha, ?_⟩
      exact .cons (.block hb) (Demand.singleton_iff.2 (.otherwise ho hd))
    | loop ht ha hb =>
      exact ⟨.loop, by rw [ht]; rfl, ha, Demand.singleton_iff.2 (.block hb)⟩
  · intro h
    obtain ⟨h, hk, hadmits, hdemand⟩ := h
    have hkind : ∀ k : Kind, ∀ h, Table.language k = some h →
        (h = .single ∨ h = .comment) ∧ k ∈ Kind.plain
          ∨ h = .output ∧ k = .output
          ∨ h = .condition ∧ k = .condition
          ∨ h = .loop ∧ k = .loop := by
      intro k h hk
      cases k <;> cases hk <;> decide
    rcases hkind _ h hk with ⟨rfl | rfl, ht⟩ | ⟨rfl, ht⟩ | ⟨rfl, ht⟩ | ⟨rfl, ht⟩
    · cases hdemand
      exact .plain ht
    · cases hdemand
      exact .plain ht
    · cases hdemand
      exact .output ht hadmits
    · cases hdemand with
      | cons hg hdemand =>
        cases hg with
        | block hb =>
          cases Demand.singleton_iff.1 hdemand with
          | skip =>
            rw [List.append_nil]
            exact .condition ht hadmits hb
          | otherwise ho hd => exact .conditionOtherwise ht hadmits hb ho hd
    · cases Demand.singleton_iff.1 hdemand with
      | block hb => exact .loop ht hadmits hb

/-- A statement has a first token. -/
theorem derives_statement_ne_nil {s : List Token} (h : Derives .statement s) : s ≠ [] := by
  cases h <;> exact List.cons_ne_nil _ _

/-- What a goal asks for is nothing, or begins with a `No`, only if it is
the goal that waits for one. -/
theorem Goal.Meets.eq_otherwise {g : Goal} {ts : List Token} (h : g.Meets ts)
    (hhead : ∀ o ∈ ts.head?, o.kind = .otherwise) : g = .otherwise := by
  cases h with
  | block hb =>
    obtain ⟨o, rest, rfl, ho⟩ := hb.block_ne_nil
    have hkind := hhead o rfl
    rw [ho] at hkind
    cases hkind
  | body hs hc =>
    cases hs with
    | none =>
      have hkind := hhead _ rfl
      rw [hc] at hkind
      cases hkind
    | @more s ss hs hss =>
      cases s with
      | nil => exact absurd rfl (derives_statement_ne_nil hs)
      | cons t s =>
        obtain ⟨_, hk, -⟩ := derives_statement_iff.1 hs
        rw [hhead t rfl] at hk
        cases hk
  | skip => rfl
  | otherwise => rfl

/-- Where the tokens go on with a `No`, the goal that waits for it may
take it: whichever goal does is of the same sort. -/
theorem demand_otherwise_cons {goals : List Goal} {o : Token} {ts : List Token}
    (ho : o.kind = .otherwise) (h : Demand (.otherwise :: goals) (o :: ts)) :
    ∃ b us, ts = b ++ us ∧ Derives .block b ∧ Demand goals us := by
  induction goals with
  | nil =>
    cases Demand.singleton_iff.1 h with
    | otherwise _ hb => exact ⟨ts, [], (List.append_nil ts).symm, hb, .nil⟩
  | cons g goals ih =>
    generalize hall : o :: ts = all at h
    cases h with
    | cons hg h =>
      cases hg with
      | otherwise _ hb =>
        obtain ⟨rfl, rfl⟩ := List.cons.inj hall
        exact ⟨_, _, rfl, hb, h⟩
      | skip =>
        -- the next goal begins with the same `No`, or lets it pass as well
        have hnext : g = .otherwise := by
          generalize hus : [] ++ _ = us at hall
          cases h with
          | cons hg h =>
            refine hg.eq_otherwise fun p hp => ?_
            rw [List.nil_append] at hus
            have hhead := congrArg List.head? (hall.trans hus.symm)
            rw [List.head?_append, Option.mem_def.1 hp] at hhead
            cases hhead
            exact ho
        subst hnext
        rw [List.nil_append] at hall
        subst hall
        obtain ⟨b, us, rfl, hb, hus⟩ := ih h
        exact ⟨b, us, rfl, hb, .cons .skip hus⟩

-- =============================================================== one step

namespace Walker

/-- The walk stands where the goals wait: they are of the waiting sort,
the table is that of the language, and each goal that waits for a
closing brace is an open block. -/
structure Stands (w : Walker) (goals : List Goal) : Prop where
  table : w.table = Table.language
  depth : w.depth = goals.count .body
  waits : ∀ g ∈ goals, g ∈ waiting

/-- The goals of a handler are of the waiting sort, and open no block. -/
theorem goals_waiting : ∀ h : Handler, h ≠ .block →
    h.goals.count .body = 0 ∧ ∀ g ∈ h.goals, g ∈ waiting := by
  intro h hne
  cases h <;> first | decide | exact absurd rfl hne

/-- The walk stands where the goals wait that a step leaves. -/
theorem step_stands {w next : Walker} {g : Goal} {goals more : List Goal}
    (hw : w.Stands (g :: goals)) (hs : w.step g = .ok (more, next)) :
    next.Stands (more ++ goals) := by
  obtain ⟨htable, hdepth, hwaits⟩ := hw
  obtain ⟨hg, hgoals⟩ := List.forall_mem_cons.1 hwaits
  cases (step_eq_ok_iff htable hg).1 hs with
  | enter hk =>
    refine ⟨htable, ?_, List.forall_mem_cons.2 ⟨by decide, hgoals⟩⟩
    show w.depth + 1 = _
    rw [hdepth]
    simp
  | @leave depth hk hd =>
    refine ⟨htable, ?_, hgoals⟩
    show depth = _
    rw [hd] at hdepth
    simpa using hdepth
  | @statement h hk ha =>
    rw [htable] at hk
    obtain ⟨hcount, hall⟩ := goals_waiting h (language_some _ _ hk).1
    refine ⟨?_, ?_, ?_⟩
    · rw [note?_table]
      exact htable
    · rw [note?_depth]
      show w.depth = _
      rw [hdepth, List.count_append, List.count_append, hcount]
      simp [Nat.add_comm]
    · intro g' hg'
      simp only [List.mem_append, List.mem_singleton] at hg'
      rcases hg' with (hg' | rfl) | hg'
      · exact hall g' hg'
      · exact hg
      · exact hgoals g' hg'
  | otherwise hk =>
    refine ⟨htable, ?_, List.forall_mem_cons.2 ⟨by decide, hgoals⟩⟩
    show w.depth = _
    rw [hdepth]
    simp
  | skip hk =>
    refine ⟨htable, ?_, hgoals⟩
    rw [hdepth]
    simp

/-- The token in front is the first that is upcoming. -/
theorem upcoming_of_current {w : Walker} (h : w.current.kind ≠ .endOfInput) :
    w.ahead.upcoming = w.current :: w.advance.ahead.upcoming :=
  Stream.upcoming_of_ne h

/-- The first token that is upcoming is the one in front, and the others
are upcoming behind it. -/
theorem current_of_upcoming {w : Walker} {t : Token} {ts : List Token}
    (h : w.ahead.upcoming = t :: ts) :
    w.current = t ∧ w.advance.ahead.upcoming = ts := by
  obtain ⟨hhead, hne, hrest⟩ := Stream.upcoming_eq_cons h
  exact ⟨hhead, hrest⟩

/-- A move past a token takes a piece of what the goals demand: the token
and what is demanded behind it were demanded before. -/
theorem demand_cons_of_moves {w next : Walker} {g : Goal} {goals more : List Goal}
    (htable : w.table = Table.language) (hm : Moves w g more next)
    (hpass : g = .otherwise → w.current.kind = .otherwise) {ts : List Token}
    (h : Demand (more ++ goals) ts) : Demand (g :: goals) (w.current :: ts) := by
  cases hm with
  | enter hk =>
    obtain ⟨us, vs, rfl, hbody, hvs⟩ := Demand.append_iff.1 h
    cases Demand.singleton_iff.1 hbody with
    | body hs hc => exact .cons (.block (.block hk hs hc)) hvs
  | leave hk hd => exact .cons (.body .none hk) h
  | @statement h' hk ha =>
    rw [htable] at hk
    rw [List.append_assoc] at h
    obtain ⟨us, rest, rfl, hstatement, hrest⟩ := Demand.append_iff.1 h
    have hs := derives_statement_iff.2 ⟨h', hk, ha, hstatement⟩
    -- the statements of the same block go on behind it
    cases hrest with
    | cons hbody hvs =>
      cases hbody with
      | @body ss c hss hc =>
        have hmeets := Goal.Meets.body (.more hs hss) hc
        have hdemand := Demand.cons hmeets hvs
        rwa [List.append_assoc, List.append_assoc, ← List.append_assoc ss] at hdemand
  | otherwise hk =>
    obtain ⟨us, vs, rfl, hblock, hvs⟩ := Demand.append_iff.1 h
    cases Demand.singleton_iff.1 hblock with
    | block hb => exact .cons (.otherwise hk hb) hvs
  | skip hk => exact absurd (hpass rfl) hk

/-- A move towards a goal takes a piece of what the goals demand. -/
theorem demand_of_moves {w next : Walker} {g : Goal} {goals more : List Goal}
    (htable : w.table = Table.language) (hm : Moves w g more next)
    (h : Demand (more ++ goals) next.ahead.upcoming) :
    Demand (g :: goals) w.ahead.upcoming := by
  rcases hm.pass_or_skip htable with ⟨hne, hahead, hpass⟩ | ⟨rfl, rfl, rfl, -⟩
  · rw [upcoming_of_current hne]
    refine demand_cons_of_moves htable hm hpass ?_
    rwa [hahead] at h
  · exact .cons .skip h

/-- Where the tokens ahead meet the demand, there is a move, and it leaves
what the goals that are left demand. -/
theorem moves_of_demand {w : Walker} {g : Goal} {goals : List Goal}
    (hw : w.Stands (g :: goals)) (h : Demand (g :: goals) w.ahead.upcoming) :
    ∃ more next, Moves w g more next ∧ Demand (more ++ goals) next.ahead.upcoming := by
  by_cases hno : g = .otherwise ∧ w.current.kind = .otherwise
  · -- the walk takes the `No`, even where the demand leaves it to a later goal
    obtain ⟨rfl, hk⟩ := hno
    rw [upcoming_of_current (by simp [hk])] at h
    obtain ⟨b, us, hus, hb, hrest⟩ := demand_otherwise_cons hk h
    refine ⟨_, _, .otherwise hk, ?_⟩
    rw [hus]
    exact .cons (.block hb) hrest
  · -- elsewhere the first goal is met as the move says
    generalize hts : w.ahead.upcoming = ts at h
    cases h with
    | @cons _ _ _ us hg h =>
      cases hg with
      | block hb =>
        cases hb with
        | block ho hs hc =>
          obtain ⟨hcurrent, hrest⟩ := current_of_upcoming hts
          rw [← hcurrent] at ho
          refine ⟨_, _, .enter ho, ?_⟩
          show Demand _ w.advance.ahead.upcoming
          rw [hrest]
          exact .cons (.body hs hc) h
      | @body _ c hs hc =>
        cases hs with
        | none =>
          obtain ⟨hcurrent, hrest⟩ := current_of_upcoming hts
          rw [← hcurrent] at hc
          obtain ⟨depth, hd⟩ : ∃ depth, w.depth = depth + 1 := by
            rw [hw.depth, List.count_cons_self]
            exact ⟨_, rfl⟩
          refine ⟨_, _, .leave hc hd, ?_⟩
          show Demand _ w.advance.ahead.upcoming
          rw [hrest]
          exact h
        | @more s ss hs hss =>
          cases s with
          | nil => exact absurd rfl (derives_statement_ne_nil hs)
          | cons t s =>
            obtain ⟨h', hk, ha, hstatement⟩ := derives_statement_iff.1 hs
            obtain ⟨hcurrent, hrest⟩ := current_of_upcoming hts
            rw [← hcurrent] at hk ha
            rw [← hw.table] at hk
            have hrest : w.advance.ahead.upcoming = s ++ (ss ++ [c] ++ us) := by
              rw [hrest]
              show s ++ ss ++ [c] ++ us = _
              simp only [List.append_assoc]
            refine ⟨_, _, .statement hk ha, ?_⟩
            rw [note?_ahead, List.append_assoc]
            exact Demand.append_iff.2
              ⟨s, _, hrest, hstatement, .cons (.body hss hc) h⟩
      | skip =>
        have hk : w.current.kind ≠ .otherwise := fun hk => hno ⟨rfl, hk⟩
        refine ⟨_, _, .skip hk, ?_⟩
        rw [hts]
        exact h
      | otherwise ho hb =>
        rw [← (current_of_upcoming hts).1] at ho
        exact absurd ⟨rfl, ho⟩ hno

/-- A step towards a goal succeeds, and what is left demands what is left
of the tokens, exactly where the tokens ahead meet the demand. -/
theorem step_demand {w : Walker} {g : Goal} {goals : List Goal}
    (hw : w.Stands (g :: goals)) :
    Demand (g :: goals) w.ahead.upcoming
      ↔ ∃ more next, w.step g = .ok (more, next)
          ∧ Demand (more ++ goals) next.ahead.upcoming := by
  have hg : g ∈ waiting := hw.waits g (.head _)
  constructor
  · intro h
    obtain ⟨more, next, hm, hrest⟩ := moves_of_demand hw h
    exact ⟨more, next, (step_eq_ok_iff hw.table hg).2 hm, hrest⟩
  · intro h
    obtain ⟨more, next, hs, hrest⟩ := h
    exact demand_of_moves hw.table ((step_eq_ok_iff hw.table hg).1 hs) hrest

-- ======================================================= the whole walk

/-- A walk that succeeds is left with no open block: it stands where no
goal waits. -/
theorem run_stands {w next : Walker} {goals : List Goal} (hw : w.Stands goals)
    (h : w.run goals = (.ok (), next)) : next.Stands [] := by
  fun_induction run w goals with
  | case1 w =>
    cases h
    exact hw
  | case2 w g goals f hs => cases h
  | case3 w g goals more w' hs ih => exact ih (step_stands hw hs) h

/-- A walk succeeds and uses up the tokens ahead exactly where they meet
the demand of its goals. -/
theorem run_demand {w : Walker} {goals : List Goal} (hw : w.Stands goals) :
    (∃ next, w.run goals = (.ok (), next) ∧ next.ahead.upcoming = [])
      ↔ Demand goals w.ahead.upcoming := by
  fun_induction run w goals with
  | case1 w =>
    constructor
    · intro h
      obtain ⟨_, ⟨⟩, hend⟩ := h
      rw [hend]
      exact .nil
    · intro h
      generalize hts : w.ahead.upcoming = ts at h
      cases h
      exact ⟨w, rfl, hts⟩
  | case2 w g goals f hs =>
    rw [step_demand hw, hs]
    simp
  | case3 w g goals more next hs ih =>
    rw [ih (step_stands hw hs), step_demand hw, hs]
    constructor
    · intro h
      exact ⟨more, next, rfl, h⟩
    · intro h
      obtain ⟨_, _, ⟨⟩, h⟩ := h
      exact h

end Walker

end Aula
