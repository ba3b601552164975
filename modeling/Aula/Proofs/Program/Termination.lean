/-
Every walk ends, whatever the table and the tokens, and within a number of
steps that the tokens up to the first end of input bound.

# The measure

A step passes one token or none. A token is worth three: behind it two more
goals may be left than in front of it, those of a condition, and each of
them weighs one. A step that passes none takes a goal for lighter ones
(`Goal.weight`). So the effort that is left, three for each token up to the
first end of input and the load of the goals, is less behind every step
(`effort_lt`), and a run that may take only that many steps takes all it
needs (`runWithin_eq`).

# The recursion

The effort counts goals too, and it has to: a table may take an end of input
for a condition, and the block that has to follow is then looked for where
the condition was found. But it is not there, and the walk ends. Where a
block is entered a brace has been passed, so whatever the table makes of
that brace, its statements have fewer tokens ahead of them than the block
had, or the statement that it belongs to; and each of them has fewer than the
one before it (`ReachesBody.firstEnd_lt`). So the recursion into blocks, and
the loop over the statements of one, are well founded on the number of tokens
alone (`reachesBody_wellFounded`).
-/
import Aula.Proofs.Walker.Driving
import Aula.Proofs.Walker.Trail
import Aula.Program

namespace Aula

-- ================================================= the first end of input

namespace Stream

/-- Passing a token brings the first end of input closer by one. -/
theorem firstEnd_advance {s : Stream} (h : s.head.kind ≠ .endOfInput) :
    s.advance.firstEnd + 1 = s.firstEnd := by
  unfold firstEnd
  rw [toList_eq_cons h, List.findIdx_cons, decide_eq_false h]
  rfl

theorem firstEnd_advance_le (s : Stream) : s.advance.firstEnd ≤ s.firstEnd := by
  by_cases hend : s.head.kind = .endOfInput
  · have hstay : s.advance = s := if_pos hend
    exact Nat.le_of_eq (congrArg firstEnd hstay)
  · have hcloser := firstEnd_advance hend
    omega

theorem firstEnd_drop {s : Stream} {n : Nat} (h : n ≤ s.firstEnd) :
    (s.drop n).firstEnd + n = s.firstEnd := by
  induction n with
  | zero => rfl
  | succ n ih =>
    have hle : n ≤ s.firstEnd := Nat.le_of_succ_le h
    have hne : (s.drop n).head.kind ≠ .endOfInput := mt (head_drop_iff hle).1 (by omega)
    have hcloser := firstEnd_advance hne
    rw [advance_drop hle, Nat.min_eq_left h] at hcloser
    have hrest := ih hle
    omega

end Stream

theorem Goal.weight_pos (g : Goal) : 0 < g.weight := by
  cases g with
  | handle h => cases h <;> decide
  | _ => decide

namespace Walker

variable {w w' next : Walker} {g : Goal} {goals goals' more : List Goal} {seen : List Token}

-- ========================================================== the recursion

namespace Goes

theorem firstEnd_le (h : Goes w g more next) : next.ahead.firstEnd ≤ w.ahead.firstEnd := by
  rcases h.ahead with hstay | hmove
  · exact Nat.le_of_eq (congrArg Stream.firstEnd hstay)
  · rw [hmove]
    exact w.ahead.firstEnd_advance_le

/-- A step from a block's goal that waits for its closing brace, or to one,
passes a token. -/
theorem firstEnd_lt (h : Goes w g more next) (hbody : .body ∈ g :: more) :
    next.ahead.firstEnd < w.ahead.firstEnd := by
  have hpasses : w.current.kind ≠ .endOfInput ∧ g ≠ .otherwise := by
    induction h with
    | @handle h hne _ =>
      have hnone := List.count_eq_zero.1 (h.goals_count hne)
      exact absurd ((List.mem_cons.1 hbody).resolve_left Goal.noConfusion) hnone
    | enter hk => exact ⟨hk ▸ Kind.noConfusion, Goal.noConfusion⟩
    | dispatch _ _ ih =>
      have hmore := (List.mem_cons.1 hbody).resolve_left Goal.noConfusion
      exact ⟨(ih (List.mem_cons_of_mem _ hmore)).1, Goal.noConfusion⟩
    | leave hk _ => exact ⟨hk ▸ Kind.noConfusion, Goal.noConfusion⟩
    | body _ hend _ _ => exact ⟨hend, Goal.noConfusion⟩
    | otherwise | skip => simp at hbody
  rw [h.advances hpasses.2]
  exact Nat.lt_of_succ_le (Nat.le_of_eq (Stream.firstEnd_advance hpasses.1))

end Goes

namespace Trail

theorem firstEnd_le (h : Trail w goals seen w' goals') :
    w'.ahead.firstEnd ≤ w.ahead.firstEnd := by
  induction h with
  | stay => exact Nat.le_refl _
  | step hgoes _ _ ih => exact Nat.le_trans ih hgoes.firstEnd_le

/-- Where a block waits for its closing brace that was not entered before,
fewer tokens are left. -/
theorem firstEnd_lt (h : Trail w goals seen w' goals') (hgoals : .body ∉ goals)
    (hbody : .body ∈ goals') : w'.ahead.firstEnd < w.ahead.firstEnd := by
  induction h with
  | stay => exact absurd hbody hgoals
  | @step w next w' g goals more goals' passed seen hgoes _ htrail ih =>
    by_cases hmore : .body ∈ more
    · exact Nat.lt_of_le_of_lt htrail.firstEnd_le (hgoes.firstEnd_lt (.tail _ hmore))
    · have hnone : .body ∉ more ++ goals := by
        intro hmem
        rcases List.mem_append.1 hmem with hmem | hmem
        · exact hmore hmem
        · exact hgoals (List.mem_cons_of_mem _ hmem)
      exact Nat.lt_of_lt_of_le (ih hnone hbody) hgoes.firstEnd_le

end Trail

/-- From a call at `w`, or from where a block stands that goes on there, the
walk gets to `place`, where a block goes on or is left: the same block behind
its next statement, or another. -/
def ReachesBody (w place : Walker) : Prop :=
  ∃ g seen later, (g = .body → seen ≠ []) ∧ Trail w [g] seen place (.body :: later)

theorem ReachesBody.firstEnd_lt {place : Walker} (h : w.ReachesBody place) :
    place.ahead.firstEnd < w.ahead.firstEnd := by
  obtain ⟨g, seen, later, hseen, htrail⟩ := h
  by_cases hg : g = .body
  · cases htrail with
    | stay => exact absurd rfl (hseen hg)
    | step hgoes _ hrest =>
      have hpassed := hgoes.firstEnd_lt (List.mem_cons.2 (.inl hg.symm))
      exact Nat.lt_of_le_of_lt hrest.firstEnd_le hpassed
  · exact htrail.firstEnd_lt (mt List.mem_singleton.1 (Ne.symm hg)) (List.mem_cons_self ..)

/-- Neither the recursion into blocks nor the loop over the statements of one
goes on without end. -/
theorem reachesBody_wellFounded : WellFounded fun place w : Walker => w.ReachesBody place :=
  Subrelation.wf (fun h => h.firstEnd_lt) (measure fun w : Walker => w.ahead.firstEnd).wf

-- =============================================================== the calls

theorem run_statement (w : Walker) :
    w.run [.statement]
      = match w.dispatch with
        | .error f => (.error f, w)
        | .ok (more, next) => next.run more := by
  have hstep : w.step .statement = w.dispatch := rfl
  rw [run_cons, hstep]
  cases w.dispatch with
  | error f => rfl
  | ok result => exact congrArg result.2.run (List.append_nil result.1)

/-- A statement that succeeds passes a token at least, unless an end of
input is in front. -/
theorem passes_of_statement (hk : w.current.kind ≠ .endOfInput)
    (h : w.run [.statement] = (.ok (), next)) :
    ∃ k, next.ahead = w.ahead.drop (k + 1)
      ∧ next.ahead.firstEnd + (k + 1) = w.ahead.firstEnd := by
  rw [run_statement] at h
  cases hdispatch : w.dispatch with
  | error f => rw [hdispatch] at h; cases h
  | ok result =>
    obtain ⟨more, behind⟩ := result
    have hrun : behind.run more = (.ok (), next) := by
      rw [hdispatch] at h
      exact h
    obtain ⟨n, hn⟩ := behind.run_ahead more
    have hcloser := Stream.firstEnd_advance hk
    obtain ⟨k, hk⟩ : ∃ k, min (n + 1) w.ahead.firstEnd = k + 1 :=
      ⟨min (n + 1) w.ahead.firstEnd - 1, by omega⟩
    rw [hrun, (goes_of_dispatch hdispatch).advances Goal.noConfusion,
      ← Function.iterate_succ_apply, Stream.advance_iterate, hk] at hn
    refine ⟨k, hn, ?_⟩
    rw [hn]
    exact Stream.firstEnd_drop (by omega)

/-- A block fails at once where no brace is in front. -/
theorem run_block_of_no_brace (hk : w.current.kind ≠ .openBrace) (later : List Goal) :
    w.run (.handle .block :: later) = (.error (w.unexpected "`\x7b`"), w) := by
  rw [run_cons]
  unfold step handle expectOr
  rw [if_neg hk]
  rfl

/-- A block passes the brace in front, and only then turns to its
statements. -/
theorem run_block_of_brace (hk : w.current.kind = .openBrace) (later : List Goal) :
    ∃ inside : Walker, inside.ahead = w.ahead.advance
      ∧ w.run (.handle .block :: later) = inside.run (.body :: later) := by
  refine ⟨w.advance.openBlock.note (.entered w.position (w.depth + 1)), rfl, ?_⟩
  rw [run_cons, (Goes.enter hk).step]
  rfl

/-- A block goes on with one statement, and then with what is behind it. -/
theorem run_body_of_statement (hclose : w.current.kind ≠ .closeBrace)
    (hend : w.current.kind ≠ .endOfInput) (later : List Goal) :
    w.run (.body :: later)
      = match w.run [.statement] with
        | (.error f, stop) => (.error f, stop)
        | (.ok (), next) => next.run (.body :: later) := by
  have hstep : w.step .body
      = w.dispatch >>= fun result => pure (result.1 ++ [.body], result.2) := by
    simp only [step]
  rw [run_cons, hstep, run_statement]
  cases w.dispatch with
  | error f => rfl
  | ok result =>
    obtain ⟨more, next⟩ := result
    show next.run (more ++ [.body] ++ later) = _
    rw [List.append_assoc, run_append]
    rfl

-- ============================================================== the effort

/-- What is left to do, at most: the steps that a run can still take. -/
def effort (w : Walker) (goals : List Goal) : Nat :=
  3 * w.ahead.firstEnd + Goal.load goals

/-- What a step leaves weighs two more than nothing at most, beside the block
that goes on behind it. -/
theorem Goes.load_le (h : Goes w g more next) : Goal.load more ≤ [g].count .body + 2 := by
  induction h with
  | @handle h _ _ => cases h <;> decide
  | enter | leave | otherwise | skip => decide
  | dispatch _ _ ih => exact ih
  | @body more next _ _ _ ih =>
    have hstatement : [Goal.statement].count .body = 0 := rfl
    have hbody : [Goal.body].count .body = 1 := rfl
    have hload : Goal.load [.body] = 1 := rfl
    rw [Goal.load_append]
    omega

/-- Every step leaves less to do. -/
theorem effort_lt (hs : w.step g = .ok (more, next)) (goals : List Goal) :
    next.effort (more ++ goals) < w.effort (g :: goals) := by
  have hgoes := goes_of_step hs
  have hload : Goal.load (g :: goals) = g.weight + Goal.load goals := rfl
  unfold effort
  rw [Goal.load_append, hload]
  by_cases hahead : next.ahead = w.ahead
  · rcases step_progress hs with hlt | ⟨-, hlighter⟩
    · unfold remaining at hlt
      rw [hahead] at hlt
      exact absurd hlt (Nat.lt_irrefl _)
    · rw [hahead]
      omega
  · have hmove := hgoes.ahead.resolve_left hahead
    have hend : w.ahead.head.kind ≠ .endOfInput := fun hend => hahead (hmove.trans (if_pos hend))
    have hcloser := Stream.firstEnd_advance hend
    have hadds := hgoes.load_le
    have hcount : [g].count .body ≤ 1 := List.count_le_length
    have hweight := g.weight_pos
    rw [hmove]
    omega

/-- A run that may only take so many steps, if they are enough. -/
def runWithin : Nat → Walker → List Goal → Option (Except Fault Unit × Walker)
  | _, w, [] => some (.ok (), w)
  | 0, _, _ :: _ => none
  | steps + 1, w, g :: goals =>
    match w.step g with
    | .error f => some (.error f, w)
    | .ok (more, next) => runWithin steps next (more ++ goals)

/-- A run needs no more steps than the effort says. -/
theorem runWithin_eq {steps : Nat} (h : w.effort goals ≤ steps) :
    runWithin steps w goals = some (w.run goals) := by
  induction steps generalizing w goals with
  | zero =>
    cases goals with
    | nil => rw [run_nil]; rfl
    | cons g goals =>
      have hpos : 0 < w.effort (g :: goals) :=
        Nat.lt_of_lt_of_le g.weight_pos (by unfold effort Goal.load; omega)
      exact absurd h (Nat.not_le_of_gt hpos)
  | succ steps ih =>
    cases goals with
    | nil => rw [run_nil]; rfl
    | cons g goals =>
      rw [run_cons]
      unfold runWithin
      cases hs : w.step g with
      | error f => rfl
      | ok result =>
        obtain ⟨more, next⟩ := result
        have hless := effort_lt hs goals
        exact ih (by omega)

end Walker

namespace Program

/-- The walk over a program that may only take so many steps in its
block. -/
def walkWithin (steps : Nat) (tokens : Stream) : Option (Except Fault Unit × Walker) :=
  let start : Walker := { ahead := tokens, table := Table.language }
  match Balance.check tokens with
  | .error f => some (.error f, start)
  | .ok () =>
    match start.expectOr .main (start.unexpected "main()") with
    | .error f => some (.error f, start)
    | .ok (_, w) =>
      match w.runWithin steps [.handle .block] with
      | none => none
      | some (.error f, w) => some (.error f, w)
      | some (.ok (), w) => some (finish tokens w)

/-- Three steps for each token up to the first end of input are enough. -/
theorem walkWithin_eq {tokens : Stream} {steps : Nat} (h : 3 * tokens.firstEnd ≤ steps) :
    walkWithin steps tokens = some (walk tokens) := by
  unfold walkWithin walk
  simp only
  cases Balance.check tokens with
  | error f => rfl
  | ok _ =>
    unfold Walker.expectOr
    by_cases hk : tokens.head.kind = .main
    · have hcloser := Stream.firstEnd_advance (s := tokens) (hk ▸ Kind.noConfusion)
      let inside : Walker := Walker.advance { ahead := tokens, table := Table.language }
      have heffort : inside.effort [.handle .block] ≤ steps := by
        show 3 * tokens.advance.firstEnd + 1 ≤ steps
        omega
      simp only [Walker.current, hk, if_true, Walker.runWithin_eq heffort, inside]
      rcases Walker.run _ _ with ⟨_ | _, stop⟩ <;> rfl
    · simp only [Walker.current, hk, if_false]

/-- Every walk ends. A statement that succeeds passes a token at least, unless
an end of input is in front. A block fails at once, or passes the brace in
front before it turns to its statements; then it takes them one by one. So
wherever the walk gets to in a block, fewer tokens are ahead, up to the first
end of input, than where the block or what it is in was called for, or where
the statement before began. A run takes three steps at most for each of those
tokens, and as many more as its goals weigh; parsing comes to an answer
within as many, for every stream. -/
theorem terminates :
    (∀ w next : Walker, w.current.kind ≠ .endOfInput →
        w.run [.statement] = (.ok (), next) →
          ∃ k, next.ahead = w.ahead.drop (k + 1)
            ∧ next.ahead.firstEnd + (k + 1) = w.ahead.firstEnd)
      ∧ (∀ (w : Walker) (later : List Goal), w.current.kind ≠ .openBrace →
          w.run (.handle .block :: later) = (.error (w.unexpected "`\x7b`"), w))
      ∧ (∀ (w : Walker) (later : List Goal), w.current.kind = .openBrace →
          ∃ inside : Walker, w.ahead.toList = w.current :: inside.ahead.toList
            ∧ w.run (.handle .block :: later) = inside.run (.body :: later))
      ∧ (∀ (w : Walker) (later : List Goal), w.current.kind ≠ .closeBrace →
          w.current.kind ≠ .endOfInput →
            w.run (.body :: later)
              = match w.run [.statement] with
                | (.error f, stop) => (.error f, stop)
                | (.ok (), next) => next.run (.body :: later))
      ∧ (∀ w place : Walker, w.ReachesBody place → place.ahead.firstEnd < w.ahead.firstEnd)
      ∧ WellFounded (fun place w : Walker => w.ReachesBody place)
      ∧ (∀ (w : Walker) (goals : List Goal) (steps : Nat),
          3 * w.ahead.firstEnd + Goal.load goals ≤ steps →
            w.runWithin steps goals = some (w.run goals))
      ∧ ∀ (tokens : Stream) (steps : Nat), 3 * tokens.firstEnd ≤ steps →
          (walkWithin steps tokens).map Prod.fst = some (parse tokens) := by
  refine ⟨fun _ _ => Walker.passes_of_statement,
    fun _ later hk => Walker.run_block_of_no_brace hk later, fun w later hk => ?_,
    fun _ later hclose hend => Walker.run_body_of_statement hclose hend later,
    fun _ _ => Walker.ReachesBody.firstEnd_lt, Walker.reachesBody_wellFounded,
    fun _ _ _ => Walker.runWithin_eq, fun tokens steps h => ?_⟩
  · obtain ⟨inside, hinside, hrun⟩ := Walker.run_block_of_brace hk later
    refine ⟨inside, ?_, hrun⟩
    rw [hinside]
    exact Stream.toList_eq_cons (hk ▸ Kind.noConfusion)
  · rw [walkWithin_eq h]
    rfl

/-- A table that takes an opening brace for a statement and knows no other,
over a block in a block with an end of input behind them, and `main()` behind
that. The statement in front is walked in four steps; no block is behind
it. -/
theorem terminates_for_block_as_statement :
    let w : Walker :=
      { ahead := ⟨[.reading .openBrace "\x7b" 0, .reading .openBrace "\x7b" 1,
          .reading .closeBrace "\x7d" 2, .reading .closeBrace "\x7d" 3, .endOfInput 4,
          .reading .main "main()" 5], .endOfInput 11, rfl⟩
        table := Table.register .openBrace .block Table.empty }
    let place : Walker :=
      { w with ahead := w.ahead.drop 1, depth := 1, log := #[.entered 0 1] }
    ∃ next, w.run [.statement] = (.ok (), next) ∧ next.current = .endOfInput 4
      ∧ (∃ k, next.ahead = w.ahead.drop (k + 1)
          ∧ next.ahead.firstEnd + (k + 1) = w.ahead.firstEnd)
      ∧ next.run [.handle .block] = (.error (next.unexpected "`\x7b`"), next)
      ∧ (∃ inside : Walker, w.ahead.toList = w.current :: inside.ahead.toList
          ∧ w.run [.handle .block] = inside.run [.body])
      ∧ (∃ behind, place.run [.statement] = (.ok (), behind)
          ∧ place.run [.body] = behind.run [.body])
      ∧ w.ReachesBody place ∧ place.ahead.firstEnd < w.ahead.firstEnd
      ∧ w.runWithin 15 [.statement] = some (.ok (), next)
      ∧ (walkWithin 12 w.ahead).map Prod.fst = some (parse w.ahead) := by
  intro w place
  let next : Walker :=
    { w with
      ahead := w.ahead.drop 4
      log := #[.entered 0 1, .entered 1 2, .left 2 1, .left 3 0] }
  let behind : Walker :=
    { place with
      ahead := w.ahead.drop 3
      log := #[.entered 0 1, .entered 1 2, .left 2 1] }
  have hbehind : place.run [.statement] = (.ok (), behind) := by
    rw [Walker.run_cons]
    show Walker.run _ [.body] = _
    rw [Walker.run_cons]
    show Walker.run _ [] = _
    rw [Walker.run_nil]
    rfl
  obtain ⟨hstatement, hfails, henters, hround, hfewer, -, hrun, hwalk⟩ := terminates
  have hbody := hround place [] (by decide) (by decide)
  rw [hbehind] at hbody
  have hnext : w.run [.statement] = (.ok (), next) := by
    rw [Walker.run_cons]
    show place.run [.body] = _
    rw [hbody]
    show behind.run [.body] = _
    rw [Walker.run_cons]
    show Walker.run _ [] = _
    rw [Walker.run_nil]
    rfl
  have hplace : w.ReachesBody place :=
    ⟨.statement, [w.current] ++ [], [], Goal.noConfusion,
      .step (.dispatch (h := .block) rfl (.enter rfl)) rfl .stay⟩
  refine ⟨next, hnext, rfl, hstatement w next (by decide) hnext, hfails next [] (by decide),
    henters w [] rfl, ⟨behind, hbehind, hbody⟩, hplace, hfewer w place hplace, ?_,
    hwalk w.ahead 12 (by decide)⟩
  rw [hrun w [.statement] 15 (by decide), hnext]

end Program

end Aula
