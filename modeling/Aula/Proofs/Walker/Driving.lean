/-
Where commands can take a walk.

Whatever is asked of a walk, in whatever order and with whatever table, its
cursor only moves forward, and it stops at the first end of input. The table
may be one that makes no sense, a block may be asked for where none stands,
and what was asked for may have failed halfway: nothing but
`Stream.advance` ever moves a walk.

# From a step to all commands

A step that succeeds leaves the tokens ahead as they are or moves past one
(`Goes.ahead`), and one that fails leaves the walk. So a run moves past so
many tokens (`run_ahead`), a command does (`obey_ahead`), and any number of
commands do (`after_ahead`).

Moving on `k` times is leaving out `k` tokens, or as many as stand before
the first end of input (`Stream.advance_iterate`). So the number of tokens
behind a walk is a cursor among the tokens it began with.
-/
import Aula.Proofs.Walker.Steps
import Aula.Walker.Command
import Mathlib.Logic.Function.Iterate

namespace Aula

-- ============================================================== streams

namespace Stream

/-- The index of the first end of input. -/
def firstEnd (s : Stream) : Nat := s.toList.findIdx fun t => t.kind = .endOfInput

/-- The stream behind its first `n` tokens. -/
def drop (n : Nat) (s : Stream) : Stream := { s with body := s.body.drop n }

theorem firstEnd_le (s : Stream) : s.firstEnd ≤ s.body.length := by
  have hfinal : s.firstEnd < s.toList.length :=
    List.findIdx_lt_length_of_exists ⟨s.final, by simp [toList], by simp [s.final_kind]⟩
  have hlength : s.toList.length = s.body.length + 1 := List.length_append
  omega

theorem getElem?_toList_drop {s : Stream} {n : Nat} (h : n ≤ s.body.length) :
    s.toList[n]? = some (s.drop n).head := by
  unfold toList head drop
  rcases Nat.lt_or_eq_of_le h with hlt | rfl
  · rw [List.getElem?_append_left hlt, List.drop_eq_getElem_cons hlt,
      List.getElem?_eq_getElem hlt]
    rfl
  · rw [List.getElem?_concat_length, List.drop_length]
    rfl

/-- Up to the first end of input, that is the only one. -/
theorem head_drop_iff {s : Stream} {n : Nat} (h : n ≤ s.firstEnd) :
    (s.drop n).head.kind = .endOfInput ↔ n = s.firstEnd := by
  have htoken := getElem?_toList_drop (Nat.le_trans h s.firstEnd_le)
  obtain ⟨hlt, hget⟩ := List.getElem?_eq_some_iff.1 htoken
  rw [← hget]
  constructor
  · intro hend
    apply Nat.le_antisymm h
    apply Nat.le_of_not_lt
    intro hbefore
    exact of_decide_eq_false (List.not_of_lt_findIdx hbefore) hend
  · rintro rfl
    have hfirst : decide (s.toList[s.firstEnd].kind = .endOfInput) = true :=
      List.findIdx_getElem (p := fun t : Token => t.kind = .endOfInput)
    exact of_decide_eq_true hfirst

theorem advance_drop {s : Stream} {n : Nat} (h : n ≤ s.firstEnd) :
    (s.drop n).advance = s.drop (min (n + 1) s.firstEnd) := by
  unfold advance
  by_cases hend : n = s.firstEnd
  · rw [if_pos ((head_drop_iff h).2 hend)]
    congr 1
    omega
  · rw [if_neg (mt (head_drop_iff h).1 hend), Nat.min_eq_left (by omega)]
    unfold drop
    rw [List.tail_drop]

theorem advance_iterate (s : Stream) (k : Nat) :
    advance^[k] s = s.drop (min k s.firstEnd) := by
  induction k with
  | zero => rfl
  | succ k ih =>
    rw [Function.iterate_succ_apply', ih, advance_drop (Nat.min_le_right ..)]
    congr 1
    omega

/-- Moving on never gets past the first end of input. -/
theorem advance_iterate_drop {s : Stream} {n : Nat} (h : n ≤ s.firstEnd) (k : Nat) :
    advance^[k] (s.drop n) = s.drop (min (k + n) s.firstEnd) := by
  have hn : s.drop n = advance^[n] s := by rw [advance_iterate, Nat.min_eq_left h]
  rw [hn, ← Function.iterate_add_apply, advance_iterate]

end Stream

namespace Walker

variable {w next : Walker}

-- ========================================================== single moves

theorem expectOr_ahead {kind : Kind} {f : Fault} {t : Token}
    (hs : w.expectOr kind f = .ok (t, next)) : next.ahead = w.ahead.advance := by
  unfold expectOr at hs
  by_cases hk : w.current.kind = kind
  · rw [if_pos hk] at hs
    cases hs
    rfl
  · rw [if_neg hk] at hs
    cases hs

theorem closeBlock_ahead {offset : Nat} (hs : w.closeBlock offset = .ok next) :
    next.ahead = w.ahead := by
  unfold closeBlock at hs
  cases hd : w.depth with
  | zero => rw [hd] at hs; cases hs
  | succ depth => rw [hd] at hs; cases hs; rfl

-- ============================================================= all steps

/-- A run moves past so many tokens, whether it succeeds or fails. -/
theorem run_ahead (w : Walker) (goals : List Goal) :
    ∃ k, (w.run goals).2.ahead = Stream.advance^[k] w.ahead := by
  fun_induction run w goals with
  | case1 w => exact ⟨0, rfl⟩
  | case2 w g goals f hs => exact ⟨0, rfl⟩
  | case3 w g goals more next hs ih =>
    obtain ⟨k, hk⟩ := ih
    rcases (goes_of_step hs).ahead with hstay | hmove
    · exact ⟨k, by rw [hk, hstay]⟩
    · exact ⟨k + 1, by rw [hk, hmove, Function.iterate_succ_apply]⟩

theorem obey_expectOr_ahead (w : Walker) (kind : Kind) (f : Fault) :
    ∃ k, (w.obey (.expectOr kind f)).2.ahead = Stream.advance^[k] w.ahead := by
  simp only [obey]
  cases hexpect : w.expectOr kind f with
  | error _ => exact ⟨0, rfl⟩
  | ok result => exact ⟨1, expectOr_ahead hexpect⟩

theorem obey_pursue (w : Walker) (goal : Goal) :
    (w.obey (.pursue goal)).2 = (w.run [goal]).2 := by
  simp only [obey]
  rcases w.run [goal] with ⟨_ | _, stop⟩ <;> rfl

theorem obey_ahead (w : Walker) (c : Command) :
    ∃ k, (w.obey c).2.ahead = Stream.advance^[k] w.ahead := by
  cases c with
  | registerLanguage => exact ⟨0, rfl⟩
  | register kind handler => exact ⟨0, rfl⟩
  | kinds => exact ⟨0, rfl⟩
  | current => exact ⟨0, rfl⟩
  | advance => exact ⟨1, rfl⟩
  | openBlock => exact ⟨0, rfl⟩
  | expect kind => exact obey_expectOr_ahead w kind _
  | expectOr kind f => exact obey_expectOr_ahead w kind f
  | closeBlock offset =>
    simp only [obey]
    cases hclose : w.closeBlock offset with
    | error f => exact ⟨0, rfl⟩
    | ok next => exact ⟨0, closeBlock_ahead hclose⟩
  | pursue goal =>
    rw [obey_pursue]
    exact run_ahead w [goal]

/-- The walk behind all commands, each obeyed where the one before it left
the walk. -/
def after (w : Walker) (cs : List Command) : Walker := cs.foldl (fun w c => (w.obey c).2) w

theorem after_ahead (w : Walker) (cs : List Command) :
    ∃ k, (w.after cs).ahead = Stream.advance^[k] w.ahead := by
  induction cs generalizing w with
  | nil => exact ⟨0, rfl⟩
  | cons c cs ih =>
    obtain ⟨k, hk⟩ := obey_ahead w c
    obtain ⟨l, hl⟩ := ih (w.obey c).2
    refine ⟨l + k, ?_⟩
    rw [Function.iterate_add_apply, ← hk]
    exact hl

-- =========================================================== the cursor

/-- The number of the tokens that a walk over them has behind it. -/
def cursor (tokens : Stream) (w : Walker) : Nat := tokens.size - w.ahead.size

theorem cursor_drop {tokens : Stream} {n : Nat} (h : n ≤ tokens.firstEnd)
    (hw : w.ahead = tokens.drop n) : w.cursor tokens = n := by
  have hle := tokens.firstEnd_le
  unfold cursor Stream.size Stream.toList
  rw [hw]
  simp only [Stream.drop, List.length_append, List.length_drop, List.length_singleton]
  omega

/-- The cursor of the walk is among the tokens, not past the first end of
input, and in front of the walk is what stands there. -/
structure Within (tokens : Stream) (w : Walker) : Prop where
  le_firstEnd : w.cursor tokens ≤ tokens.firstEnd
  ahead : w.ahead = tokens.drop (w.cursor tokens)

namespace Within

variable {tokens : Stream}

theorem start (tokens : Stream) : Within tokens { ahead := tokens } := by
  have hcursor : Walker.cursor tokens { ahead := tokens } = 0 := Nat.sub_self _
  constructor
  · rw [hcursor]
    exact Nat.zero_le _
  · rw [hcursor]
    rfl

theorem current (h : w.Within tokens) : tokens.toList[w.cursor tokens]? = some w.current := by
  unfold Walker.current
  rw [Stream.getElem?_toList_drop (Nat.le_trans h.le_firstEnd tokens.firstEnd_le), ← h.ahead]

/-- Moving on takes the cursor forward, up to the first end of input. -/
theorem cursor_of_iterate (h : w.Within tokens) {k : Nat}
    (hk : next.ahead = Stream.advance^[k] w.ahead) :
    next.Within tokens ∧ next.cursor tokens = min (k + w.cursor tokens) tokens.firstEnd := by
  rw [h.ahead, Stream.advance_iterate_drop h.le_firstEnd] at hk
  have hcursor := cursor_drop (Nat.min_le_right ..) hk
  refine ⟨⟨?_, ?_⟩, hcursor⟩
  · rw [hcursor]
    exact Nat.min_le_right ..
  · rw [hcursor]
    exact hk

theorem after (h : w.Within tokens) (cs : List Command) :
    (w.after cs).Within tokens ∧ w.cursor tokens ≤ (w.after cs).cursor tokens := by
  obtain ⟨k, hk⟩ := after_ahead w cs
  obtain ⟨hwithin, hcursor⟩ := h.cursor_of_iterate hk
  have hle := h.le_firstEnd
  exact ⟨hwithin, by omega⟩

/-- Where an end of input is in front, the cursor is at the first. -/
theorem cursor_eq (h : w.Within tokens) (hend : w.current.kind = .endOfInput) :
    w.cursor tokens = tokens.firstEnd := by
  apply (Stream.head_drop_iff h.le_firstEnd).1
  rw [← h.ahead]
  exact hend

end Within

end Walker

/-- A command that asks for a token, or for an open block, and does nothing
if it is not there. -/
def Command.isDemand : Command → Bool
  | .expect _ | .expectOr _ _ | .closeBlock _ => true
  | _ => false

theorem Walker.obey_expectOr_failed {w : Walker} {kind : Kind} {f g : Fault}
    (h : (w.obey (.expectOr kind f)).1 = .failed g) : (w.obey (.expectOr kind f)).2 = w := by
  simp only [obey] at h ⊢
  cases hexpect : w.expectOr kind f with
  | error _ => rfl
  | ok result => rw [hexpect] at h; cases h

theorem Walker.obey_demand_failed {w : Walker} {c : Command} (hc : c.isDemand = true)
    {f : Fault} (h : (w.obey c).1 = .failed f) : (w.obey c).2 = w := by
  cases c with
  | expect kind => exact obey_expectOr_failed (f := w.unexpected kind.name) h
  | expectOr kind fault => exact obey_expectOr_failed h
  | closeBlock offset =>
    simp only [obey] at h ⊢
    cases hclose : w.closeBlock offset with
    | error _ => rfl
    | ok next => rw [hclose] at h; cases h
  | _ => cases hc

/-- The cursor of a walk, whatever commands it is given. It is never past the
first end of input, so there is always a token of the stream in front. Later
commands only move it forward, and not at all once an end of input is in
front. A demand that fails changes nothing. -/
theorem Walker.cursor_of_commands (tokens : Stream) (cs : List Command) :
    let w := after { ahead := tokens } cs
    w.cursor tokens ≤ tokens.firstEnd
      ∧ tokens.toList[w.cursor tokens]? = some w.current
      ∧ w.ahead = tokens.drop (w.cursor tokens)
      ∧ (∀ later, w.cursor tokens ≤ (w.after later).cursor tokens)
      ∧ (w.current.kind = .endOfInput → ∀ later,
          (w.after later).cursor tokens = w.cursor tokens
            ∧ (w.after later).current = w.current)
      ∧ ∀ c f, c.isDemand = true → (w.obey c).1 = .failed f → (w.obey c).2 = w := by
  intro w
  have hw : w.Within tokens := ((Within.start tokens).after cs).1
  refine ⟨hw.le_firstEnd, hw.current, hw.ahead, fun later => (hw.after later).2, ?_,
    fun c f hc => obey_demand_failed hc⟩
  intro hend later
  obtain ⟨hlater, hle⟩ := hw.after later
  have hcursor : (w.after later).cursor tokens = w.cursor tokens := by
    apply Nat.le_antisymm _ hle
    rw [hw.cursor_eq hend]
    exact hlater.le_firstEnd
  refine ⟨hcursor, ?_⟩
  have hcurrent := hlater.current
  rw [hcursor, hw.current] at hcurrent
  exact (Option.some.inj hcurrent).symm

/-- A table that takes an opening brace for a statement, and an end of input
too, over tokens with an end of input among them. The statement fails halfway,
in front of that end of input, and nothing leads on from there. -/
theorem Walker.cursor_of_failed_statement :
    let tokens : Stream := ⟨[.reading .openBrace "\x7b" 0, .endOfInput 1,
      .reading .main "main()" 2], .endOfInput 8, rfl⟩
    let w := after { ahead := tokens }
      [.register .openBrace .block, .register .endOfInput .single, .pursue .statement]
    let v := w.after [.pursue .statement, .advance, .pursue (.handle .block)]
    w.current = .endOfInput 1 ∧ w.depth = 1 ∧ v.cursor tokens = w.cursor tokens
      ∧ v.current = .endOfInput 1 ∧ (w.obey (.expect .main)).2 = w := by
  intro tokens w v
  let table := (Table.empty.register .openBrace .block).register .endOfInput .single
  let stop : Walker :=
    { ahead := tokens.drop 1, depth := 1, table, log := #[.entered 0 1] }
  have hrun : Walker.run { ahead := tokens, table } [.statement]
      = (.error ⟨.unclosedBlock 1, 1⟩, stop) := by
    rw [run_cons]
    show run _ [.body] = _
    rw [run_cons]
    rfl
  have hw : w = stop := (obey_pursue _ _).trans (congrArg Prod.snd hrun)
  have hcurrent : w.current = .endOfInput 1 := by rw [hw]; rfl
  have hfailed : (w.obey (.expect .main)).1
      = .failed ⟨.unexpectedToken "MainMethod" .endOfInput "", 1⟩ := by rw [hw]; rfl
  obtain ⟨-, -, -, -, hstays, hdemand⟩ := cursor_of_commands tokens
    [.register .openBrace .block, .register .endOfInput .single, .pursue .statement]
  obtain ⟨hcursor, hsame⟩ := hstays (congrArg Token.kind hcurrent)
    [.pursue .statement, .advance, .pursue (.handle .block)]
  refine ⟨hcurrent, ?_, hcursor, hsame.trans hcurrent, hdemand _ _ rfl hfailed⟩
  rw [hw]

end Aula
