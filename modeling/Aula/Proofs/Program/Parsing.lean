/-
Parsing accepts the grammar, and nothing else.

A walk over a program starts in front of `main()` and ends where no goal
waits, so it accepts what `Derives .program` derives from the tokens
before the first end of input (`walk_of_balanced`). What stands behind
that end of input is never walked over; the braces there still have to
balance with those in front, since the balance is checked over the whole
stream first.
-/
import Aula.Proofs.Walker.Demand
import Aula.Program

namespace Aula

namespace Program

/-- Nothing is left ahead exactly at an end of input. -/
theorem hasTokens_eq_false_iff {w : Walker} :
    w.hasTokens = false ↔ w.ahead.upcoming = [] := by
  unfold Walker.hasTokens Walker.current
  by_cases hend : w.ahead.head.kind = .endOfInput
  · simp [hend, Stream.upcoming_of_eq hend]
  · simp [hend, Stream.upcoming_of_ne hend]

/-- A walk that leaves no block open may end where nothing is left
ahead. -/
theorem finish_eq_ok_iff {tokens : Stream} {w : Walker} (hdepth : w.depth = 0) :
    (finish tokens w).1 = .ok () ↔ w.ahead.upcoming = [] := by
  rw [← hasTokens_eq_false_iff]
  unfold finish
  by_cases hahead : w.hasTokens = true
  · rw [if_pos hahead, hahead]
    constructor <;> intro h <;> cases h
  · rw [if_neg hahead, if_neg (not_not_intro hdepth)]
    simpa using hahead

/-- What a walk over a program needs to succeed: balanced braces,
`main()`, a block, and nothing behind it. -/
theorem walk_eq_ok_iff {tokens : Stream} :
    (walk tokens).1 = .ok ()
      ↔ Balance.check tokens = .ok () ∧ tokens.head.kind = .main
        ∧ ∃ next, Walker.run { ahead := tokens.advance, table := Table.language }
              [.handle .block] = (.ok (), next)
            ∧ (finish tokens next).1 = .ok () := by
  unfold walk Walker.expectOr Walker.current
  cases hbalance : Balance.check tokens with
  | error f => simp
  | ok _ =>
    by_cases hmain : tokens.head.kind = .main
    · simp only [Walker.advance, hmain, if_true, true_and]
      generalize Walker.run _ _ = result
      rcases result with ⟨_ | _, next⟩
      · simp
      · simp
    · simp [hmain]

/-- The block of a program is walked over to the end exactly where the
tokens ahead are one. -/
theorem run_block_iff {tokens : Stream} {w : Walker} (hw : w.Stands [.handle .block]) :
    (∃ next, w.run [.handle .block] = (.ok (), next) ∧ (finish tokens next).1 = .ok ())
      ↔ Derives .block w.ahead.upcoming := by
  have hdemand : Demand [.handle .block] w.ahead.upcoming
      ↔ Derives .block w.ahead.upcoming := by
    rw [Demand.singleton_iff]
    constructor
    · intro h
      obtain ⟨hb⟩ := h
      exact hb
    · exact .block
  rw [← hdemand, ← Walker.run_demand hw]
  refine exists_congr fun next => and_congr_right fun hrun => ?_
  exact finish_eq_ok_iff (Walker.run_stands hw hrun).depth

/-- Where the braces balance, the walk accepts a stream if the tokens
before its first end of input are a program. -/
theorem walk_of_balanced {tokens : Stream} (h : Balance.check tokens = .ok ()) :
    (walk tokens).1 = .ok () ↔ Derives .program tokens.upcoming := by
  rw [walk_eq_ok_iff, run_block_iff ⟨rfl, rfl, by decide⟩]
  constructor
  · intro h
    obtain ⟨-, hmain, hb⟩ := h
    rw [Stream.upcoming_of_ne (by simp [hmain])]
    exact .program hmain hb
  · intro hprogram
    generalize hts : tokens.upcoming = ts at hprogram
    cases hprogram with
    | program hm hb =>
      obtain ⟨hhead, -, hrest⟩ := Stream.upcoming_eq_cons hts
      rw [← hhead] at hm
      rw [← hrest] at hb
      exact ⟨h, hm, hb⟩

/-- A stream with no end of input but its last token is accepted if and only
if the tokens before that are a program. -/
theorem parse_iff_derives {s : Stream} (hend : ∀ t ∈ s.body, t.kind ≠ .endOfInput) :
    parse s = .ok () ↔ Derives .program s.body := by
  unfold parse
  constructor
  · intro h
    rwa [walk_of_balanced (walk_eq_ok_iff.1 h).1, Stream.upcoming_of_forall hend] at h
  · intro h
    rwa [walk_of_balanced h.balance, Stream.upcoming_of_forall hend]

end Program

/-- A stream is accepted if and only if its braces balance and the tokens
before its first end of input are a program. -/
theorem Program.parse_eq_ok_iff (tokens : Stream) :
    Program.parse tokens = .ok ()
      ↔ Balance.check tokens = .ok () ∧ Derives .program tokens.upcoming := by
  unfold Program.parse
  constructor
  · intro h
    have hbalance := (Program.walk_eq_ok_iff.1 h).1
    exact ⟨hbalance, (Program.walk_of_balanced hbalance).1 h⟩
  · intro h
    obtain ⟨hbalance, h⟩ := h
    exact (Program.walk_of_balanced hbalance).2 h

end Aula
