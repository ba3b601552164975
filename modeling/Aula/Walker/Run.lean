/-
Running a walk: steps are taken, the first goal first, until no goal is
left or a step fails. The walk is returned in either case, since a
failed walk still tells where it stopped, how deep, and what it noted.

# Why it ends

Every step either moves past a token or leaves less to do at the token
it stands at. The second happens only where the walk cannot move, at an
end of input: there a statement still turns into the block that has to
follow it, and a block then fails. `Goal.weight` prices this: what a
step leaves without moving weighs less than what it took. So the pair
of the tokens that remain and the weight of the goals decreases, for
every stream and every table of handlers.
-/
import Aula.Walker.Handler

namespace Aula

-- ========================================================== the measure

/-- How much is left to do for a goal, as long as the walk stands
still. -/
def Goal.weight : Goal → Nat
  | .statement => 3
  | .handle .condition => 3
  | .handle .loop => 2
  | _ => 1

/-- How much is left to do for all goals, as long as the walk stands
still. -/
def Goal.load : List Goal → Nat
  | [] => 0
  | g :: goals => g.weight + load goals

theorem Goal.load_append (goals later : List Goal) :
    load (goals ++ later) = load goals + load later := by
  induction goals with
  | nil => simp [load]
  | cons g goals ih => simp [load, ih, Nat.add_assoc]

namespace Walker

@[simp]
theorem remaining_note (e : Event) (w : Walker) :
    (w.note e).remaining = w.remaining := rfl

@[simp]
theorem remaining_openBlock (w : Walker) :
    w.openBlock.remaining = w.remaining := rfl

/-- Handling a statement moves past the token in front, except at an end
of input, where it leaves less to do. -/
theorem handle_progress {w next : Walker} {h : Handler} {goals : List Goal}
    (hs : w.handle h = .ok (goals, next)) :
    (w.current.kind ≠ .endOfInput → next.remaining < w.remaining)
      ∧ next.remaining ≤ w.remaining
      ∧ (next.remaining = w.remaining → Goal.load goals < Goal.weight (.handle h)) := by
  have hlt := w.remaining_advance
  have hle := w.remaining_advance_le
  cases h <;> simp only [handle, bind, Except.bind, pure, Except.pure] at hs
  case single => cases hs; exact ⟨hlt, hle, fun _ => by decide⟩
  case comment => cases hs; exact ⟨hlt, hle, fun _ => by decide⟩
  case output =>
    split at hs
    · cases hs
    · cases hs; exact ⟨hlt, hle, fun _ => by decide⟩
  case condition =>
    split at hs
    · cases hs
    · cases hs; exact ⟨hlt, hle, fun _ => by decide⟩
  case loop =>
    split at hs
    · cases hs
    · cases hs; exact ⟨hlt, hle, fun _ => by decide⟩
  case block =>
    simp only [expectOr] at hs
    split at hs
    · cases hs
    · next hb =>
      split at hb
      · next hk =>
        cases hb
        cases hs
        have hne : w.current.kind ≠ .endOfInput := by simp [hk]
        refine ⟨hlt, hle, fun he => ?_⟩
        have := hlt hne
        simp only [remaining_note, remaining_openBlock] at he
        omega
      · cases hb

/-- A dispatched statement moves past the token in front, except at an
end of input, where it leaves less to do. -/
theorem dispatch_progress {w next : Walker} {goals : List Goal}
    (hs : w.dispatch = .ok (goals, next)) :
    (w.current.kind ≠ .endOfInput → next.remaining < w.remaining)
      ∧ next.remaining ≤ w.remaining
      ∧ (next.remaining = w.remaining → Goal.load goals < Goal.weight .statement) := by
  simp only [dispatch] at hs
  split at hs
  · next h _ =>
    obtain ⟨hlt, hle, heq⟩ := handle_progress hs
    refine ⟨hlt, hle, fun he => Nat.lt_of_lt_of_le (heq he) ?_⟩
    cases h <;> decide
  · cases hs

/-- Leaving a block moves past its closing brace. -/
theorem leave_progress {w next : Walker} (hk : w.current.kind = .closeBrace)
    (hs : w.leave = .ok next) : next.remaining < w.remaining := by
  simp only [leave, bind, Except.bind, pure, Except.pure] at hs
  split at hs
  · cases hs
  · next hc =>
    cases hs
    simp only [closeBlock] at hc
    split at hc
    · cases hc
    · cases hc
      have := w.remaining_advance (by simp [hk])
      exact this

/-- A step moves past a token or leaves less to do. -/
theorem step_progress {w next : Walker} {g : Goal} {goals : List Goal}
    (hs : w.step g = .ok (goals, next)) :
    next.remaining < w.remaining
      ∨ next.remaining = w.remaining ∧ Goal.load goals < g.weight := by
  cases g with
  | statement =>
    obtain ⟨-, hle, heq⟩ := dispatch_progress hs
    exact (Nat.lt_or_eq_of_le hle).imp_right fun he => ⟨he, heq he⟩
  | handle h =>
    obtain ⟨-, hle, heq⟩ := handle_progress hs
    exact (Nat.lt_or_eq_of_le hle).imp_right fun he => ⟨he, heq he⟩
  | body =>
    left
    simp only [step] at hs
    split at hs
    · next hk =>
      simp only [bind, Except.bind, pure, Except.pure] at hs
      split at hs
      · cases hs
      · next hl => cases hs; exact leave_progress hk hl
    · cases hs
    · next hk =>
      simp only [bind, Except.bind, pure, Except.pure] at hs
      split at hs
      · cases hs
      · next hd => cases hs; exact (dispatch_progress hd).1 hk
  | otherwise =>
    simp only [step] at hs
    split at hs
    · next hk => cases hs; exact .inl (w.remaining_advance (by simp [hk]))
    · cases hs; exact .inr ⟨rfl, by decide⟩

-- ============================================================= the walk

/-- Takes steps until no goal is left or one fails. -/
def run (w : Walker) (goals : List Goal) : Except Fault Unit × Walker :=
  match goals with
  | [] => (.ok (), w)
  | g :: goals =>
    match _ : w.step g with
    | .error f => (.error f, w)
    | .ok (more, next) => next.run (more ++ goals)
termination_by (w.remaining, Goal.load goals)
decreasing_by
  obtain h | ⟨he, h⟩ := step_progress ‹_›
  · exact Prod.Lex.left _ _ h
  · rw [he]
    refine Prod.Lex.right _ ?_
    rw [Goal.load_append, Goal.load]
    omega

@[simp]
theorem run_nil (w : Walker) : w.run [] = (.ok (), w) := by
  rw [run]

/-- The first goal is taken a step further, and what is left of it comes
before the other goals. -/
theorem run_cons (w : Walker) (g : Goal) (goals : List Goal) :
    w.run (g :: goals)
      = match w.step g with
        | .error f => (.error f, w)
        | .ok (more, next) => next.run (more ++ goals) := by
  rw [run]
  split <;> simp_all

/-- Goals are reached in order: the later ones only if the earlier ones
are, and from where those leave the walk. -/
theorem run_append (w : Walker) (goals later : List Goal) :
    w.run (goals ++ later)
      = match w.run goals with
        | (.error f, next) => (.error f, next)
        | (.ok (), next) => next.run later := by
  fun_induction run w goals with
  | case1 w => rfl
  | case2 w g goals f hs => rw [List.cons_append, run_cons, hs]
  | case3 w g goals more next hs ih =>
    rw [List.cons_append, run_cons, hs, ← ih, List.append_assoc]

end Walker

end Aula
