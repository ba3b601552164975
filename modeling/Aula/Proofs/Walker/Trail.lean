/-
What a call leaves behind, whatever the table: a statement, a block, or a
handler run on the token in front.

A trail (`Walker.Trail`) is a walk cut off at any place, like a path, but
with any table: the tokens it has passed, and the goals that are left
there. Every run is a trail to where it stops (`exists_trail`).

# The blocks that are open

A goal that waits for a closing brace is a block that has been entered and
not left. So the goals that are left where a call stops are its open
blocks, and the depth there counts them, over the depth where the call
began (`Trail.depth_eq`). The log tells the same from outside: it has one
event for each block that is entered, and one for each that is left
(`Trail.exists_events`).

This answers both ways a call can end. If it succeeds, no goal is left, and
the depth is as it was. If it fails, the depth tells how deep inside the
call that was; and since a goal that waits for a closing brace means that a
block is open, no such brace is ever found to be stray.
-/
import Aula.Proofs.Walker.Path
import Aula.Proofs.Walker.Steps

namespace Aula

/-- The tokens of a stream are the one in front and those behind it, unless
an end of input is in front. -/
theorem Stream.toList_eq_cons {s : Stream} (h : s.head.kind ≠ .endOfInput) :
    s.toList = s.head :: s.advance.toList := by
  obtain ⟨hbody, hfinal⟩ := body_eq_cons h
  unfold toList
  rw [hbody, hfinal]
  rfl

/-- Any other goal does not wait for a closing brace. -/
theorem Goal.count_body {g : Goal} (hg : g ≠ .body) : [g].count .body = 0 :=
  List.count_eq_zero.2 fun h => hg (List.mem_singleton.1 h).symm

/-- Goals wait for a closing brace one by one. -/
theorem Goal.count_body_cons (g : Goal) (goals : List Goal) :
    (g :: goals).count .body = [g].count .body + goals.count .body := by
  rw [← List.count_append]
  rfl

namespace Walker

-- =============================================================== trails

/-- The walk gets from one place to another by steps that succeed: from what
is ahead and the goals, past some tokens, to what is ahead and the goals
there. -/
inductive Trail :
    Walker → List Goal → (seen : List Token) → Walker → List Goal → Prop where
  | stay {w : Walker} {goals : List Goal} : Trail w goals [] w goals
  | step {w next w' : Walker} {g : Goal} {goals more goals' : List Goal}
      {passed seen : List Token} (hgoes : Goes w g more next)
      (hpassed : w.ahead.toList = passed ++ next.ahead.toList)
      (h : Trail next (more ++ goals) seen w' goals') :
      Trail w (g :: goals) (passed ++ seen) w' goals'

variable {w w' next stop : Walker} {g : Goal} {goals goals' more : List Goal}
  {seen : List Token}

/-- A step passes the token in front, or none. -/
theorem exists_passed (hs : w.step g = .ok (more, next)) :
    ∃ passed, w.ahead.toList = passed ++ next.ahead.toList := by
  rcases (goes_of_step hs).ahead with hstay | hmove
  · exact ⟨[], by rw [hstay]; rfl⟩
  · by_cases hend : w.current.kind = .endOfInput
    · have hstay : w.ahead.advance = w.ahead := if_pos hend
      exact ⟨[], by rw [hmove, hstay]; rfl⟩
    · exact ⟨[w.current], by rw [hmove]; exact Stream.toList_eq_cons hend⟩

/-- Every run is a trail to where it stops: no goal is left there, or the
step towards the first one fails. -/
theorem exists_trail {result : Except Fault Unit} (h : w.run goals = (result, stop)) :
    ∃ seen left, Trail w goals seen stop left
      ∧ (result = .ok () ∧ left = []
          ∨ ∃ f g later, result = .error f ∧ left = g :: later ∧ stop.step g = .error f) := by
  fun_induction run w goals with
  | case1 w =>
    cases h
    exact ⟨[], [], .stay, .inl ⟨rfl, rfl⟩⟩
  | case2 w g goals f hs =>
    cases h
    exact ⟨[], g :: goals, .stay, .inr ⟨f, g, goals, rfl, rfl, hs⟩⟩
  | case3 w g goals more next hs ih =>
    obtain ⟨seen, left, htrail, hends⟩ := ih h
    obtain ⟨passed, hpassed⟩ := exists_passed hs
    exact ⟨passed ++ seen, left, .step (goes_of_step hs) hpassed htrail, hends⟩

namespace Trail

/-- The tokens passed are those in front of where the trail began. -/
theorem toList_eq (h : Trail w goals seen w' goals') :
    w.ahead.toList = seen ++ w'.ahead.toList := by
  induction h with
  | stay => rfl
  | step _ hpassed _ ih => rw [hpassed, ih, List.append_assoc]

/-- The depth changes as the number of goals that wait for a closing brace
does. -/
theorem depth_eq (h : Trail w goals seen w' goals') :
    w'.depth + goals.count .body = w.depth + goals'.count .body := by
  induction h with
  | stay => rfl
  | @step w next w' g goals more goals' passed seen hgoes _ _ ih =>
    have hstep := hgoes.depth_eq
    rw [List.count_append] at ih
    rw [Goal.count_body_cons]
    omega

/-- What is noted along a trail about blocks is what becomes of the goals
that wait for a closing brace. -/
theorem exists_events (h : Trail w goals seen w' goals') :
    ∃ events, w'.log.toList = w.log.toList ++ events
      ∧ Event.enters events + goals.count .body
        = Event.leaves events + goals'.count .body := by
  induction h with
  | stay => exact ⟨[], (List.append_nil _).symm, rfl⟩
  | @step w next w' g goals more goals' passed seen hgoes _ _ ih =>
    obtain ⟨events, hlog, hcount⟩ := hgoes.exists_events
    obtain ⟨later, hlater, hrest⟩ := ih
    refine ⟨events ++ later, by rw [hlater, hlog, List.append_assoc], ?_⟩
    rw [List.count_append] at hrest
    rw [Event.enters_append, Event.leaves_append, Goal.count_body_cons]
    omega

/-- Inside a call, a goal that waits for a closing brace means that a block
is open. -/
theorem depth_ne_zero (hg : g ≠ .body) {later : List Goal}
    (h : Trail w [g] seen w' (.body :: later)) : w'.depth ≠ 0 := by
  have hdepth := h.depth_eq
  rw [Goal.count_body hg, List.count_cons_self] at hdepth
  omega

end Trail

-- ============================================================== the call

/-- How a call ends, whatever the table, the tokens ahead and the depth. If
it succeeds, the depth is as it was. If it fails, the walk is in front of
the token at fault, inside the blocks that the call has entered and not
left: the goals that wait there for a closing brace, as many as the log
tells. In either case every closing brace that a block of the call meets
closes it. -/
theorem outcome_of_call (w : Walker) (g : Goal) (hg : g ≠ .body) :
    (∀ next, w.run [g] = (.ok (), next) → next.depth = w.depth)
      ∧ (∀ f stop, w.run [g] = (.error f, stop) →
          f.position = stop.position ∧ f.cause ≠ .strayCloseBrace
            ∧ ∃ seen g' later events, Trail w [g] seen stop (g' :: later)
              ∧ stop.step g' = .error f
              ∧ stop.log.toList = w.log.toList ++ events
              ∧ Event.enters events = Event.leaves events + (g' :: later).count .body
              ∧ stop.depth = w.depth + (g' :: later).count .body)
      ∧ ∀ seen stop later, Trail w [g] seen stop (.body :: later) →
          ∀ offset, ∃ outside, stop.closeBlock offset = .ok outside := by
  have hnone := Goal.count_body hg
  refine ⟨fun next h => ?_, fun f stop h => ?_, fun seen stop later h offset => ?_⟩
  · obtain ⟨seen, left, htrail, ⟨-, rfl⟩ | ⟨f, g', later, ⟨⟩, -⟩⟩ := exists_trail h
    have hdepth := htrail.depth_eq
    rw [hnone] at hdepth
    exact hdepth
  · obtain ⟨seen, left, htrail, ⟨⟨⟩, -⟩ | ⟨_, g', later, ⟨⟩, rfl, hstep⟩⟩ := exists_trail h
    obtain ⟨hposition, hfails⟩ := fails_of_step hstep
    obtain ⟨events, hlog, hcount⟩ := htrail.exists_events
    have hdepth := htrail.depth_eq
    rw [hnone] at hdepth hcount
    refine ⟨hposition, fun hcause => ?_, seen, g', later, events, htrail, hstep, hlog, hcount,
      hdepth⟩
    -- a stray brace would have been met by a block of the call
    obtain ⟨rfl, hzero⟩ := hfails.depth_eq_zero hcause
    exact htrail.depth_ne_zero hg hzero
  · have hopen := h.depth_ne_zero hg
    unfold closeBlock
    cases hd : stop.depth with
    | zero => exact absurd hd hopen
    | succ depth => exact ⟨_, rfl⟩

/-- A table that takes an opening brace for a statement, and a block three
blocks deep. Another block is entered in it and left, and then the token in
front begins no statement. -/
theorem outcome_of_nested_call :
    let w : Walker :=
      { ahead := ⟨[.reading .openBrace "\x7b" 0, .reading .openBrace "\x7b" 1,
          .reading .closeBrace "\x7d" 2, .reading .main "main()" 3], .endOfInput 9, rfl⟩
        depth := 3
        table := Table.register .openBrace .block Table.language }
    ∃ f stop, w.run [.handle .block] = (.error f, stop) ∧ f.position = stop.position
      ∧ stop.position = 3 ∧ stop.depth = w.depth + 1
      ∧ ∃ seen g later, Trail w [.handle .block] seen stop (g :: later)
        ∧ (g :: later).count .body = 1 := by
  intro w
  let stop : Walker :=
    { ahead := ⟨[.reading .main "main()" 3], .endOfInput 9, rfl⟩
      depth := 4
      table := w.table
      log := #[.entered 0 4, .entered 1 5, .left 2 4] }
  have hrun : w.run [.handle .block]
      = (.error ⟨.unexpectedStatement .main "main()", 3⟩, stop) := by
    rw [run_cons]
    show run _ [.body] = _
    rw [run_cons]
    show run _ [.body, .body] = _
    rw [run_cons]
    show run _ [.body] = _
    rw [run_cons]
    rfl
  obtain ⟨hposition, -, seen, g, later, -, htrail, -, -, -, hdepth⟩ :=
    (outcome_of_call w (.handle .block) (by decide)).2.1 _ _ hrun
  refine ⟨_, stop, hrun, hposition, rfl, rfl, seen, g, later, htrail, ?_⟩
  have hcount : 4 = 3 + (g :: later).count .body := hdepth
  omega

end Walker

end Aula
