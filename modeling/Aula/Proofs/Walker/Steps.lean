/-
What a step keeps whatever the table says, and what its failure means.

A table may make no sense at all: a brace may be a statement, an end of
input may be one, a block may be wanted where none can stand. Still every
way of a step (`Walker.Goes`) keeps the same account (`Goes.depth_eq`): the
blocks that are open, less the goals that wait for a closing brace, are as
many behind the step as before it. The log keeps it too
(`Goes.exists_events`).

`Walker.Fails` says how a step can fail, which is always about the token in
front (`fails_of_step`); a closing brace is found to be stray only where no
block is open (`Fails.depth_eq_zero`).
-/
import Aula.Proofs.Header.Cause
import Aula.Proofs.Walker.Moves

namespace Aula

namespace Event

-- ============================================================ the blocks

/-- The number of blocks that are entered. -/
def enters (events : List Event) : Nat :=
  events.countP fun | .entered _ _ => true | _ => false

/-- The number of blocks that are left. -/
def leaves (events : List Event) : Nat :=
  events.countP fun | .left _ _ => true | _ => false

@[simp]
theorem enters_append (es fs : List Event) : enters (es ++ fs) = enters es + enters fs :=
  List.countP_append

@[simp]
theorem leaves_append (es fs : List Event) : leaves (es ++ fs) = leaves es + leaves fs :=
  List.countP_append

end Event

/-- The goals of a handler other than that for blocks do not wait for a
closing brace. -/
theorem Handler.goals_count : ∀ h : Handler, h ≠ .block → h.goals.count .body = 0 := by
  intro h hne
  cases h <;> first | rfl | exact absurd rfl hne

/-- What a handler other than that for blocks notes is not about a block. -/
theorem Handler.event?_count {h : Handler} {t : Token} :
    Event.enters (h.event? t).toList = 0 ∧ Event.leaves (h.event? t).toList = 0 := by
  cases h with
  | single => exact ⟨rfl, rfl⟩
  | comment => exact ⟨rfl, rfl⟩
  | block => exact ⟨rfl, rfl⟩
  | output | condition | loop =>
    cases hp : Text.parenthesized? t.lexeme <;>
      simp [event?, hp, Event.enters, Event.leaves]

namespace Walker

variable {w next : Walker} {g : Goal} {more : List Goal}

theorem note?_log (e : Option Event) (w : Walker) :
    (w.note? e).log.toList = w.log.toList ++ e.toList := by
  cases e with
  | none => simp [note?]
  | some e => simp [note?, note]

-- ============================================================= success

namespace Goes

/-- A step never changes the table. -/
theorem table_eq (h : Goes w g more next) : next.table = w.table := by
  induction h with
  | handle => exact note?_table _ _
  | enter | leave | otherwise | skip => rfl
  | dispatch _ _ ih | body _ _ _ ih => exact ih

/-- A step moves past the token in front, unless it is towards a block that
may not be there. -/
theorem advances (h : Goes w g more next) (hg : g ≠ .otherwise) :
    next.ahead = w.ahead.advance := by
  induction h with
  | handle =>
    rw [note?_ahead]
    rfl
  | enter | leave | otherwise => rfl
  | skip => exact absurd rfl hg
  | dispatch _ _ ih | body _ _ _ ih => exact ih Goal.noConfusion

/-- A step moves past the token in front or stays there. -/
theorem ahead (h : Goes w g more next) :
    next.ahead = w.ahead ∨ next.ahead = w.ahead.advance := by
  by_cases hg : g = .otherwise
  · subst hg
    cases h with
    | otherwise => exact .inr rfl
    | skip => exact .inl rfl
  · exact .inr (h.advances hg)

/-- The blocks that are open, less the goals that wait for a closing brace,
are as many behind a step as before it. -/
theorem depth_eq (h : Goes w g more next) :
    next.depth + [g].count .body = w.depth + more.count .body := by
  induction h with
  | @handle h hne _ => rw [note?_depth, h.goals_count hne]; rfl
  | enter | otherwise | skip => rfl
  | dispatch _ _ ih => exact ih
  | leave _ hd => rw [hd]; rfl
  | @body more next _ _ _ ih =>
    rw [List.count_append]
    have hstatement : [Goal.statement].count .body = 0 := rfl
    omega

/-- What a step notes about blocks is what it does to the goals that wait for
a closing brace. -/
theorem exists_events (h : Goes w g more next) :
    ∃ events, next.log.toList = w.log.toList ++ events
      ∧ Event.enters events + [g].count .body = Event.leaves events + more.count .body := by
  induction h with
  | @handle h hne _ =>
    obtain ⟨henters, hleaves⟩ := h.event?_count (t := w.current)
    refine ⟨(h.event? w.current).toList, note?_log _ _, ?_⟩
    rw [henters, hleaves, h.goals_count hne]
    rfl
  | enter => exact ⟨[.entered w.position (w.depth + 1)], Array.toList_push, rfl⟩
  | @leave depth => exact ⟨[.left w.position depth], Array.toList_push, rfl⟩
  | otherwise => exact ⟨[], (List.append_nil _).symm, rfl⟩
  | skip => exact ⟨[], (List.append_nil _).symm, rfl⟩
  | dispatch _ _ ih => exact ih
  | @body more next _ _ _ ih =>
    obtain ⟨events, hlog, hcount⟩ := ih
    refine ⟨events, hlog, ?_⟩
    rw [List.count_append]
    have hstatement : [Goal.statement].count .body = 0 := rfl
    omega

end Goes

-- ============================================================== failure

/-- The ways of a step to fail: the goal, and what is wrong with the token in
front. -/
inductive Fails (w : Walker) : Goal → Cause → Prop where
  /-- A block has to be opened. -/
  | block (hk : w.current.kind ≠ .openBrace) :
      Fails w (.handle .block)
        (.unexpectedToken "`\x7b`" w.current.kind w.current.lexeme)
  /-- The token should have a text in parentheses. -/
  | parentheses {h : Handler} {check : Text → Except Cause Unit} (hc : h.check? = some check)
      (hp : Text.parenthesized? w.current.lexeme = none) :
      Fails w (.handle h) (.missingParentheses w.current.lexeme)
  /-- The text in parentheses fails its check. -/
  | header {h : Handler} {check : Text → Except Cause Unit} {text : Text} {cause : Cause}
      (hc : h.check? = some check) (hp : Text.parenthesized? w.current.lexeme = some text)
      (hcheck : check text = .error cause) : Fails w (.handle h) cause
  /-- The token begins no statement. -/
  | unknown (hk : w.table w.current.kind = none) :
      Fails w .statement (.unexpectedStatement w.current.kind w.current.lexeme)
  /-- The statement is not what its handler expects. -/
  | dispatch {h : Handler} {cause : Cause} (hk : w.table w.current.kind = some h)
      (hf : Fails w (.handle h) cause) : Fails w .statement cause
  /-- The input ends in a block. -/
  | unclosed (hk : w.current.kind = .endOfInput) : Fails w .body (.unclosedBlock w.depth)
  /-- A block is closed that is not open. -/
  | stray (hk : w.current.kind = .closeBrace) (hd : w.depth = 0) :
      Fails w .body .strayCloseBrace
  /-- The block does not go on with a statement. -/
  | body {cause : Cause} (hf : Fails w .statement cause) : Fails w .body cause

private theorem fails_of_checkHeader {h : Handler} {check : Text → Except Cause Unit}
    (hc : h.check? = some check) {f : Fault} (hs : w.checkHeader check = .error f) :
    f.position = w.position ∧ Fails w (.handle h) f.cause := by
  obtain ⟨hposition, ⟨hp, hcause⟩ | ⟨text, hp, hcheck⟩⟩ := checkHeader_error hs
  · rw [hcause]
    exact ⟨hposition, .parentheses hc hp⟩
  · exact ⟨hposition, .header hc hp hcheck⟩

theorem fails_of_handle {h : Handler} {f : Fault} (hs : w.handle h = .error f) :
    f.position = w.position ∧ Fails w (.handle h) f.cause := by
  cases h with
  | single => cases hs
  | comment => cases hs
  | output =>
    obtain hs | ⟨_, -, ⟨⟩⟩ := Header.bind_eq_error_iff.1 hs
    exact fails_of_checkHeader rfl hs
  | condition =>
    obtain hs | ⟨_, -, ⟨⟩⟩ := Header.bind_eq_error_iff.1 hs
    exact fails_of_checkHeader rfl hs
  | loop =>
    obtain hs | ⟨_, -, ⟨⟩⟩ := Header.bind_eq_error_iff.1 hs
    exact fails_of_checkHeader rfl hs
  | block =>
    unfold handle expectOr at hs
    by_cases hk : w.current.kind = .openBrace
    · rw [if_pos hk] at hs
      cases hs
    · rw [if_neg hk] at hs
      cases hs
      exact ⟨rfl, .block hk⟩

theorem fails_of_dispatch {f : Fault} (hs : w.dispatch = .error f) :
    f.position = w.position ∧ Fails w .statement f.cause := by
  unfold dispatch at hs
  cases hk : w.table w.current.kind with
  | none =>
    rw [hk] at hs
    cases hs
    exact ⟨rfl, .unknown hk⟩
  | some h =>
    rw [hk] at hs
    exact (fails_of_handle hs).imp_right (.dispatch hk)

/-- A step that fails is at fault with the token in front, in one of these
ways. -/
theorem fails_of_step {f : Fault} (hs : w.step g = .error f) :
    f.position = w.position ∧ Fails w g f.cause := by
  cases g with
  | statement => exact fails_of_dispatch hs
  | handle h => exact fails_of_handle hs
  | body =>
    simp only [step] at hs
    split at hs
    · next hk =>
      unfold leave closeBlock at hs
      cases hd : w.depth with
      | zero =>
        rw [hd] at hs
        cases hs
        exact ⟨rfl, .stray hk hd⟩
      | succ depth => rw [hd] at hs; cases hs
    · next hk =>
      cases hs
      exact ⟨rfl, .unclosed hk⟩
    · obtain hs | ⟨_, -, ⟨⟩⟩ := Header.bind_eq_error_iff.1 hs
      exact (fails_of_dispatch hs).imp_right .body
  | otherwise =>
    unfold step at hs
    by_cases hk : w.current.kind = .otherwise
    · rw [if_pos hk] at hs
      cases hs
    · rw [if_neg hk] at hs
      cases hs

/-- A closing brace is found to be stray only among the statements of a
block, and only where none is open. -/
theorem Fails.depth_eq_zero {cause : Cause} (h : Fails w g cause)
    (hcause : cause = .strayCloseBrace) : g = .body ∧ w.depth = 0 := by
  induction h with
  | block | parentheses | unknown | unclosed => cases hcause
  | header hc _ hcheck =>
    have hheader := Handler.isOfHeader_of_check hc hcheck
    rw [hcause] at hheader
    cases hheader
  | dispatch _ _ ih | body _ ih => exact absurd (ih hcause).1 Goal.noConfusion
  | stray _ hd => exact ⟨rfl, hd⟩

end Walker

end Aula
