/-
What a step of a walk can do, said once.

Handling a statement does three things: it checks the token, it leaves
the goals of the handler, and it notes an event (`handle_eq_ok_iff`). So
there are few ways of a step, whatever the table says (`Walker.Goes`),
and a step that succeeds goes one of them (`goes_of_step`, `Goes.step`).

With the table of the language, a step towards a goal that waits on a
stack is one of five moves (`Walker.Moves`), and it is all there is
(`step_eq_ok_iff`). What a walk keeps is proved over the ways, or over the
moves; nobody needs to open a step again.
-/
import Aula.Proofs.Program.Grammar
import Aula.Walker.Run

namespace Aula

namespace Handler

-- ============================================================= handlers

/-- The check of the text in parentheses that handling a statement
makes, if it makes one. -/
def check? : Handler → Option (Text → Except Cause Unit)
  | .output => some Output.check
  | .condition => some Condition.check
  | .loop => some Loop.check
  | .single | .comment | .block => none

/-- The goals that are left when the first token of a statement is
handled. -/
def goals : Handler → List Goal
  | .condition => [.handle .block, .otherwise]
  | .loop => [.handle .block]
  | .block => [.body]
  | .single | .comment | .output => []

/-- What is noted when the first token of a statement is handled. -/
def event? : Handler → Token → Option Event
  | .single, t => some (.accepted t.kind t.lexeme)
  | .output, t => (Text.parenthesized? t.lexeme).map .outputChecked
  | .condition, t => (Text.parenthesized? t.lexeme).map .conditionChecked
  | .loop, t => (Text.parenthesized? t.lexeme).map .loopChecked
  | .comment, _ | .block, _ => none

/-- The token passes the check of the handler, if that makes one. -/
def Admits (h : Handler) (t : Token) : Prop :=
  match h.check? with
  | none => True
  | some check => t.Accepts check

end Handler

namespace Walker

/-- The walk with one more event in its log, if there is one. -/
def note? (e : Option Event) (w : Walker) : Walker :=
  match e with
  | none => w
  | some e => w.note e

@[simp]
theorem note?_ahead (e : Option Event) (w : Walker) : (w.note? e).ahead = w.ahead := by
  cases e <;> rfl

@[simp]
theorem note?_depth (e : Option Event) (w : Walker) : (w.note? e).depth = w.depth := by
  cases e <;> rfl

@[simp]
theorem note?_table (e : Option Event) (w : Walker) : (w.note? e).table = w.table := by
  cases e <;> rfl

/-- The text in parentheses is found and passes, or handling fails. -/
theorem checkHeader_eq_ok_iff {w : Walker} {check : Text → Except Cause Unit}
    {text : Text} :
    w.checkHeader check = .ok text
      ↔ Text.parenthesized? w.current.lexeme = some text ∧ check text = .ok () := by
  unfold checkHeader
  cases hp : Text.parenthesized? w.current.lexeme with
  | none => simp
  | some inner =>
    simp only
    cases hc : check inner with
    | error cause =>
      constructor
      · intro h
        cases h
      · intro h
        obtain ⟨⟨⟩, hok⟩ := h
        rw [hc] at hok
        cases hok
    | ok _ =>
      constructor
      · intro h
        cases h
        exact ⟨rfl, hc⟩
      · intro h
        obtain ⟨⟨⟩, -⟩ := h
        rfl

/-- Where that fails, it is at the token in front: the text is missing, or
fails its check. -/
theorem checkHeader_error {w : Walker} {check : Text → Except Cause Unit} {f : Fault}
    (h : w.checkHeader check = .error f) :
    f.position = w.position
      ∧ (Text.parenthesized? w.current.lexeme = none
            ∧ f.cause = .missingParentheses w.current.lexeme
          ∨ ∃ text, Text.parenthesized? w.current.lexeme = some text
            ∧ check text = .error f.cause) := by
  unfold checkHeader at h
  cases hp : Text.parenthesized? w.current.lexeme with
  | none =>
    rw [hp] at h
    cases h
    exact ⟨rfl, .inl ⟨rfl, rfl⟩⟩
  | some text =>
    rw [hp] at h
    cases hc : check text with
    | error cause =>
      simp only [hc] at h
      cases h
      exact ⟨rfl, .inr ⟨text, rfl, hc⟩⟩
    | ok _ =>
      simp only [hc] at h
      cases h

/-- What is left, and noted, once a text in parentheses has passed. -/
private theorem bind_checkHeader_eq_ok_iff {w next : Walker}
    {check : Text → Except Cause Unit} {goals more : List Goal} {event : Text → Event} :
    (w.checkHeader check >>= fun text => pure (goals, w.advance.note (event text)))
        = .ok (more, next)
      ↔ w.current.Accepts check ∧ more = goals
        ∧ next = w.advance.note? ((Text.parenthesized? w.current.lexeme).map event) := by
  constructor
  · intro h
    cases hcheck : w.checkHeader check with
    | error f => rw [hcheck] at h; cases h
    | ok text =>
      rw [hcheck] at h
      cases h
      obtain ⟨hp, hc⟩ := checkHeader_eq_ok_iff.1 hcheck
      refine ⟨⟨text, hp, hc⟩, rfl, ?_⟩
      rw [hp]
      rfl
  · intro h
    obtain ⟨⟨text, hp, hc⟩, rfl, rfl⟩ := h
    rw [checkHeader_eq_ok_iff.2 ⟨hp, hc⟩, hp]
    rfl

/-- Handling a statement succeeds if the handler admits its first token;
it moves past that token, notes it, and leaves the goals of the
handler. -/
theorem handle_eq_ok_iff {w next : Walker} {h : Handler} (hne : h ≠ .block)
    {more : List Goal} :
    w.handle h = .ok (more, next)
      ↔ h.Admits w.current ∧ more = h.goals
        ∧ next = w.advance.note? (h.event? w.current) := by
  cases h with
  | block => exact absurd rfl hne
  | output => exact bind_checkHeader_eq_ok_iff
  | condition => exact bind_checkHeader_eq_ok_iff
  | loop => exact bind_checkHeader_eq_ok_iff
  | single =>
    constructor
    · intro h
      cases h
      exact ⟨trivial, rfl, rfl⟩
    · intro h
      obtain ⟨-, rfl, rfl⟩ := h
      rfl
  | comment =>
    constructor
    · intro h
      cases h
      exact ⟨trivial, rfl, rfl⟩
    · intro h
      obtain ⟨-, rfl, rfl⟩ := h
      rfl

-- ============================================================== a step

/-- The ways of a step towards a goal: the goals that are left of it, and
the walk behind the step. -/
inductive Goes (w : Walker) : Goal → List Goal → Walker → Prop where
  /-- A statement that is no block is begun. -/
  | handle {h : Handler} (hne : h ≠ .block) (ha : h.Admits w.current) :
      Goes w (.handle h) h.goals (w.advance.note? (h.event? w.current))
  /-- A block is entered at an opening brace. -/
  | enter (hk : w.current.kind = .openBrace) :
      Goes w (.handle .block) [.body]
        (w.advance.openBlock.note (.entered w.position (w.depth + 1)))
  /-- The table says how the statement in front is handled. -/
  | dispatch {h : Handler} {more : List Goal} {next : Walker}
      (hk : w.table w.current.kind = some h) (hs : Goes w (.handle h) more next) :
      Goes w .statement more next
  /-- The innermost block is left at a closing brace. -/
  | leave {depth : Nat} (hk : w.current.kind = .closeBrace) (hd : w.depth = depth + 1) :
      Goes w .body []
        (({ w with depth := depth } : Walker).advance.note (.left w.position depth))
  /-- The block goes on with a statement. -/
  | body {more : List Goal} {next : Walker} (hclose : w.current.kind ≠ .closeBrace)
      (hend : w.current.kind ≠ .endOfInput) (hs : Goes w .statement more next) :
      Goes w .body (more ++ [.body]) next
  /-- The other block is announced by a `No`. -/
  | otherwise (hk : w.current.kind = .otherwise) :
      Goes w .otherwise [.handle .block] w.advance
  /-- There is no other block. -/
  | skip (hk : w.current.kind ≠ .otherwise) : Goes w .otherwise [] w

section

variable {w next : Walker} {g : Goal} {more : List Goal}

theorem goes_of_handle {h : Handler} (hs : w.handle h = .ok (more, next)) :
    Goes w (.handle h) more next := by
  by_cases hblock : h = .block
  · subst hblock
    unfold handle expectOr at hs
    by_cases hk : w.current.kind = .openBrace
    · rw [if_pos hk] at hs
      cases hs
      exact .enter hk
    · rw [if_neg hk] at hs
      cases hs
  · obtain ⟨ha, rfl, rfl⟩ := (handle_eq_ok_iff hblock).1 hs
    exact .handle hblock ha

theorem goes_of_dispatch (hs : w.dispatch = .ok (more, next)) : Goes w .statement more next := by
  unfold dispatch at hs
  cases hk : w.table w.current.kind with
  | none => rw [hk] at hs; cases hs
  | some h => rw [hk] at hs; exact .dispatch hk (goes_of_handle hs)

/-- A step that succeeds goes one of these ways. -/
theorem goes_of_step (hs : w.step g = .ok (more, next)) : Goes w g more next := by
  cases g with
  | statement => exact goes_of_dispatch hs
  | handle h => exact goes_of_handle hs
  | body =>
    simp only [step] at hs
    split at hs
    · next hk =>
      unfold leave closeBlock at hs
      cases hd : w.depth with
      | zero => rw [hd] at hs; cases hs
      | succ depth =>
        rw [hd] at hs
        cases hs
        exact .leave hk hd
    · cases hs
    · next hclose hend =>
      cases hdispatch : w.dispatch with
      | error f => rw [hdispatch] at hs; cases hs
      | ok result =>
        rw [hdispatch] at hs
        cases hs
        exact .body hclose hend (goes_of_dispatch hdispatch)
  | otherwise =>
    unfold step at hs
    by_cases hk : w.current.kind = .otherwise
    · rw [if_pos hk] at hs
      cases hs
      exact .otherwise hk
    · rw [if_neg hk] at hs
      cases hs
      exact .skip hk

/-- Each of these ways is open. -/
theorem Goes.step (h : Goes w g more next) : w.step g = .ok (more, next) := by
  induction h with
  | handle hne ha => exact (handle_eq_ok_iff hne).2 ⟨ha, rfl, rfl⟩
  | enter hk =>
    unfold Walker.step Walker.handle expectOr
    rw [if_pos hk]
    rfl
  | dispatch hk _ ih =>
    show w.dispatch = _
    unfold Walker.dispatch
    rw [hk]
    exact ih
  | leave hk hd =>
    simp only [Walker.step, hk]
    unfold Walker.leave closeBlock
    rw [hd]
    rfl
  | @body more next hclose hend _ ih =>
    have hdispatch : w.dispatch = .ok (more, next) := ih
    simp only [Walker.step, hdispatch]
    rfl
  | otherwise hk =>
    unfold Walker.step
    rw [if_pos hk]
  | skip hk =>
    unfold Walker.step
    rw [if_neg hk]

end

-- ================================================================ moves

/-- Whether a goal may wait while a program is walked: a block, the
statements up to a closing brace, or the block after a `No`. -/
def waiting : List Goal := [.handle .block, .body, .otherwise]

/-- The moves towards a waiting goal: the goals that are left of it, and
the walk behind the move. -/
inductive Moves (w : Walker) : Goal → List Goal → Walker → Prop where
  /-- A block is entered at an opening brace. -/
  | enter (hk : w.current.kind = .openBrace) :
      Moves w (.handle .block) [.body]
        (w.advance.openBlock.note (.entered w.position (w.depth + 1)))
  /-- The innermost block is left at a closing brace. -/
  | leave {depth : Nat} (hk : w.current.kind = .closeBrace) (hd : w.depth = depth + 1) :
      Moves w .body []
        (({ w with depth := depth } : Walker).advance.note (.left w.position depth))
  /-- A statement is begun; the block goes on behind it. -/
  | statement {h : Handler} (hk : w.table w.current.kind = some h)
      (ha : h.Admits w.current) :
      Moves w .body (h.goals ++ [.body]) (w.advance.note? (h.event? w.current))
  /-- The other block is announced by a `No`. -/
  | otherwise (hk : w.current.kind = .otherwise) :
      Moves w .otherwise [.handle .block] w.advance
  /-- There is no other block. -/
  | skip (hk : w.current.kind ≠ .otherwise) : Moves w .otherwise [] w

/-- A handler of the language is not the one for blocks, and its kind is
neither a closing brace nor an end of input. -/
theorem language_some : ∀ k : Kind, ∀ h, Table.language k = some h →
    h ≠ .block ∧ k ≠ .closeBrace ∧ k ≠ .endOfInput := by
  intro k h hk
  cases k <;> cases hk <;> decide

/-- A move passes the token in front, or there is no other block and the
walk stays where it is. -/
theorem Moves.pass_or_skip {w next : Walker} {g : Goal} {more : List Goal}
    (h : Moves w g more next) (htable : w.table = Table.language) :
    (w.current.kind ≠ .endOfInput ∧ next.ahead = w.ahead.advance
        ∧ (g = .otherwise → w.current.kind = .otherwise))
      ∨ g = .otherwise ∧ more = [] ∧ next = w ∧ w.current.kind ≠ .otherwise := by
  cases h with
  | enter hk => exact .inl ⟨by simp [hk], rfl, fun h => by cases h⟩
  | leave hk hd => exact .inl ⟨by simp [hk], rfl, fun h => by cases h⟩
  | statement hk ha =>
    rw [htable] at hk
    refine .inl ⟨(language_some _ _ hk).2.2, ?_, fun h => by cases h⟩
    rw [note?_ahead]
    rfl
  | otherwise hk => exact .inl ⟨by simp [hk], rfl, fun _ => hk⟩
  | skip hk => exact .inr ⟨rfl, rfl, rfl, hk⟩

/-- With the table of the language, a step towards a waiting goal has no other
ways than the moves: no statement is a block. -/
theorem Goes.moves {w next : Walker} {g : Goal} {more : List Goal}
    (h : Goes w g more next) (htable : w.table = Table.language) (hg : g ∈ waiting) :
    Moves w g more next := by
  cases h with
  | @handle h hne _ =>
    have hother : ∀ h, h ≠ .block → Goal.handle h ∉ waiting := by
      intro h hne
      cases h <;> first | decide | exact absurd rfl hne
    exact absurd hg (hother h hne)
  | enter hk => exact .enter hk
  | dispatch _ _ => exact absurd hg (by decide)
  | leave hk hd => exact .leave hk hd
  | body _ _ hs =>
    cases hs with
    | dispatch hk hs =>
      cases hs with
      | handle _ ha => exact .statement hk ha
      | enter _ =>
        rw [htable] at hk
        exact absurd rfl (language_some _ _ hk).1
  | otherwise hk => exact .otherwise hk
  | skip hk => exact .skip hk

theorem Moves.goes {w next : Walker} {g : Goal} {more : List Goal} (h : Moves w g more next)
    (htable : w.table = Table.language) : Goes w g more next := by
  cases h with
  | enter hk => exact .enter hk
  | leave hk hd => exact .leave hk hd
  | statement hk ha =>
    have hlanguage := hk
    rw [htable] at hlanguage
    obtain ⟨hne, hclose, hend⟩ := language_some _ _ hlanguage
    exact .body hclose hend (.dispatch hk (.handle hne ha))
  | otherwise hk => exact .otherwise hk
  | skip hk => exact .skip hk

/-- A step towards a waiting goal succeeds by one of the moves. -/
theorem step_eq_ok_iff {w next : Walker} (htable : w.table = Table.language) {g : Goal}
    (hg : g ∈ waiting) {more : List Goal} :
    w.step g = .ok (more, next) ↔ Moves w g more next :=
  ⟨fun h => (goes_of_step h).moves htable hg, fun h => (h.goes htable).step⟩

end Walker

end Aula
