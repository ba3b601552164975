/-
Where the parsing of a stream stops short, if it does.

There are three places (`parse_eq_error`): the balance of the braces, the
token in front that should be `main()`, and a place on the path through
the block of the program, from where the walk cannot go on
(`Program.Stops`). What stands behind that place has no part in it.
-/
import Aula.Proofs.Header.Cause
import Aula.Proofs.Program.Parsing
import Aula.Proofs.Walker.Path

namespace Aula

namespace Program

/-- The walk behind `main()`. -/
abbrev inside (tokens : Stream) : Walker :=
  { ahead := tokens.advance, table := Table.language }

theorem inside_stands (tokens : Stream) : (inside tokens).Stands [.handle .block] :=
  ⟨rfl, rfl, by decide⟩

/-- Where a walk over a program stops short, and the fault it finds
there. -/
inductive Stops (tokens : Stream) (f : Fault) : Prop where
  /-- Something else than `main()` is in front. -/
  | main (hk : tokens.head.kind ≠ .main) (hposition : f.position = tokens.head.offset)
      (hcause : f.cause
        = .unexpectedToken "main()" tokens.head.kind tokens.head.lexeme)
  /-- The block of the program does not go on. -/
  | block {seen : List Token} {stop : Walker} {g : Goal} {later : List Goal}
      (hk : tokens.head.kind = .main)
      (hpath : Walker.Path (inside tokens) [.handle .block] seen stop (g :: later))
      (hstep : stop.step g = .error f) : Stops tokens f
  /-- Tokens are left behind the block of the program. -/
  | behind {seen : List Token} {stop : Walker} (hk : tokens.head.kind = .main)
      (hpath : Walker.Path (inside tokens) [.handle .block] seen stop [])
      (hne : stop.current.kind ≠ .endOfInput) (hposition : f.position = stop.position)
      (hcause : f.cause = .unexpectedToken "end of input after the main block"
        stop.current.kind stop.current.lexeme) : Stops tokens f

/-- Where no block is open, only tokens that are left keep a walk from
ending. -/
theorem finish_eq_error {tokens : Stream} {w : Walker} (hdepth : w.depth = 0) {f : Fault}
    (h : (finish tokens w).1 = .error f) :
    w.current.kind ≠ .endOfInput
      ∧ f = w.unexpected "end of input after the main block" := by
  unfold finish at h
  by_cases hahead : w.hasTokens = true
  · rw [if_pos hahead] at h
    cases h
    exact ⟨of_decide_eq_true hahead, rfl⟩
  · rw [if_neg hahead, if_neg (not_not_intro hdepth)] at h
    cases h

/-- A stream whose braces do not balance is rejected for that. -/
theorem parse_of_balance_error {tokens : Stream} {f : Fault}
    (h : Balance.check tokens = .error f) : parse tokens = .error f := by
  unfold parse walk
  rw [h]

/-- A stream whose braces balance is rejected for what the walk behind
`main()` finds. -/
theorem parse_of_run_error {tokens : Stream} (hbalance : Balance.check tokens = .ok ())
    (hk : tokens.head.kind = .main) {f : Fault} {stop : Walker}
    (hrun : (inside tokens).run [.handle .block] = (.error f, stop)) :
    parse tokens = .error f := by
  have hwalk : (Walker.advance { ahead := tokens, table := Table.language }).run
      [.handle .block] = (.error f, stop) := hrun
  unfold parse walk Walker.expectOr Walker.current
  simp only [hbalance, hk, if_true, hwalk]

/-- Where that walk finds nothing, the end of it decides. -/
theorem parse_of_run_ok {tokens : Stream} (hbalance : Balance.check tokens = .ok ())
    (hk : tokens.head.kind = .main) {stop : Walker}
    (hrun : (inside tokens).run [.handle .block] = (.ok (), stop)) :
    parse tokens = (finish tokens stop).1 := by
  have hwalk : (Walker.advance { ahead := tokens, table := Table.language }).run
      [.handle .block] = (.ok (), stop) := hrun
  unfold parse walk Walker.expectOr Walker.current
  simp only [hbalance, hk, if_true, hwalk]

/-- A stream without `main()` in front is rejected for that. -/
theorem parse_of_head {tokens : Stream} (hbalance : Balance.check tokens = .ok ())
    (hk : tokens.head.kind ≠ .main) :
    parse tokens
      = .error ⟨.unexpectedToken "main()" tokens.head.kind tokens.head.lexeme,
          tokens.head.offset⟩ := by
  unfold parse walk Walker.expectOr Walker.current
  simp only [hbalance, hk, if_false]
  rfl

/-- A stream is rejected for its braces, or where the walk over it stops
short. -/
theorem parse_eq_error {tokens : Stream} {f : Fault} (h : parse tokens = .error f) :
    Balance.check tokens = .error f
      ∨ Balance.check tokens = .ok () ∧ Stops tokens f := by
  cases hbalance : Balance.check tokens with
  | error f' =>
    rw [parse_of_balance_error hbalance] at h
    exact .inl h
  | ok _ =>
    refine .inr ⟨rfl, ?_⟩
    by_cases hk : tokens.head.kind = .main
    · cases hrun : (inside tokens).run [.handle .block] with
      | mk result stop =>
        obtain ⟨seen, rest, hpath, hends⟩ :=
          Walker.exists_path (inside_stands tokens) hrun
        rcases hends with ⟨rfl, rfl⟩ | ⟨f', g, later, rfl, rfl, hstep⟩
        · rw [parse_of_run_ok hbalance hk hrun] at h
          obtain ⟨hne, rfl⟩ := finish_eq_error (hpath.stands (inside_stands tokens)).depth h
          exact .behind hk hpath hne rfl rfl
        · rw [parse_of_run_error hbalance hk hrun] at h
          cases h
          exact .block hk hpath hstep
    · rw [parse_of_head hbalance hk] at h
      cases h
      exact .main hk rfl rfl

/-- Checking fails where reading does, or where parsing what is read
does. -/
theorem check_eq_error_iff {source : Text} {f : Fault} :
    check source = .error f ↔ tokenize source = .error f
      ∨ ∃ stream, tokenize source = .ok stream ∧ parse stream = .error f := by
  unfold check
  rw [Header.bind_eq_error_iff]
  refine or_congr_right (exists_congr fun stream => and_congr_right fun _ => ?_)
  rw [Header.bind_eq_error_iff]
  constructor
  · rintro (h | ⟨_, -, ⟨⟩⟩)
    exact h
  · exact .inl

-- ============================================== the tokens of the stream

variable {tokens : Stream} {seen : List Token} {stop : Walker} {rest : List Goal}

/-- A program has `main()` in front, then the tokens that a path through its
block passes, and then those ahead of where the path leads. -/
theorem body_eq_of_path (hk : tokens.head.kind = .main)
    (hpath : Walker.Path (inside tokens) [.handle .block] seen stop rest) :
    tokens.body = tokens.head :: (seen ++ stop.ahead.body)
      ∧ tokens.final = stop.ahead.final := by
  obtain ⟨hbody, hfinal⟩ := hpath.body_eq (inside_stands tokens)
  obtain ⟨hcons, hsame⟩ := Stream.body_eq_cons (s := tokens) (by simp [hk])
  change tokens.advance.body = _ at hbody
  change tokens.advance.final = _ at hfinal
  exact ⟨by rw [hcons, hbody], hsame.trans hfinal⟩

/-- The token that a path leads to is one of them, unless it is an end of
input. -/
theorem current_mem_of_path (hk : tokens.head.kind = .main)
    (hpath : Walker.Path (inside tokens) [.handle .block] seen stop rest)
    (hcurrent : stop.current.kind ≠ .endOfInput) : stop.current ∈ tokens.body := by
  rw [(body_eq_of_path hk hpath).1, (Stream.body_eq_cons hcurrent).1]
  exact List.mem_cons_of_mem _ (List.mem_append_right _ (List.mem_cons_self ..))

/-- Where the only end of input is the last token, a path that leads to an
end of input leads to the last token. -/
theorem body_eq_nil_of_path (hend : ∀ t ∈ tokens.body, t.kind ≠ .endOfInput)
    (hk : tokens.head.kind = .main)
    (hpath : Walker.Path (inside tokens) [.handle .block] seen stop rest)
    (hcurrent : stop.current.kind = .endOfInput) : stop.ahead.body = [] := by
  obtain ⟨hbody, -⟩ := body_eq_of_path hk hpath
  cases hahead : stop.ahead.body with
  | nil => rfl
  | cons t ts =>
    have ht : stop.current = t := by
      unfold Walker.current Stream.head
      rw [hahead]
      rfl
    rw [ht] at hcurrent
    refine absurd hcurrent (hend t ?_)
    rw [hbody, hahead]
    simp

end Program

end Aula
