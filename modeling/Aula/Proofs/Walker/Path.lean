/-
Where a walk stops, and why.

A step that fails says so in one of six ways, each about the token in
front (`Walker.Refuses`); with the five moves this is all that a step
towards a waiting goal can do.

A path (`Walker.Path`) is a walk cut off at any place: the tokens it has
passed, and the goals that are left there. Every run is a path to the
place where it stops (`exists_path`), and what holds along a path is
proved once, by induction on it:

- the tokens passed are those in front of where it began
  (`Path.body_eq`);
- their braces lead from the one depth to the other (`Path.openBlocks`);
- whatever the goals that are left demand completes the tokens passed to
  what the first goals demanded (`Path.demand`);
- it leads the same way over every stream that goes on with these tokens
  and with the one it stops at (`Path.withAhead`).

The last point is what makes a fault final: a walk that stops in front of
a token never learns what stands behind it.
-/
import Aula.Proofs.Walker.Demand
import Aula.Proofs.Walker.Steps

namespace Aula

namespace Stream

/-- The tokens of a stream are the one in front and those behind it. -/
theorem body_eq_cons {s : Stream} (h : s.head.kind ≠ .endOfInput) :
    s.body = s.head :: s.advance.body ∧ s.final = s.advance.final := by
  cases hbody : s.body with
  | nil => exact absurd (head_of_body_nil hbody) h
  | cons t ts =>
    have hhead : s.head = t := by rw [head, hbody]; rfl
    unfold advance
    rw [if_neg h, hhead, hbody]
    exact ⟨rfl, rfl⟩

theorem advance_cons {t : Token} (h : t.kind ≠ .endOfInput) (ts : List Token)
    {final : Token} (hfinal : final.kind = .endOfInput) :
    advance ⟨t :: ts, final, hfinal⟩ = ⟨ts, final, hfinal⟩ := by
  unfold advance
  exact if_neg h

end Stream

namespace Walker

-- ============================================================ refusals

/-- What can be wrong with the token in front where a goal waits. -/
inductive Refuses (w : Walker) : Goal → Cause → Prop where
  /-- A block has to be opened. -/
  | block (hk : w.current.kind ≠ .openBrace) :
      Refuses w (.handle .block)
        (.unexpectedToken "`\x7b`" w.current.kind w.current.lexeme)
  /-- The input ends in a block. -/
  | unclosed (hk : w.current.kind = .endOfInput) :
      Refuses w .body (.unclosedBlock w.depth)
  /-- A block is closed that is not open. -/
  | stray (hk : w.current.kind = .closeBrace) (hd : w.depth = 0) :
      Refuses w .body .strayCloseBrace
  /-- The token begins no statement. -/
  | statement (hk : w.table w.current.kind = none) :
      Refuses w .body (.unexpectedStatement w.current.kind w.current.lexeme)
  /-- The token should have a text in parentheses. -/
  | parentheses {h : Handler} {check : Text → Except Cause Unit}
      (hk : w.table w.current.kind = some h) (hc : h.check? = some check)
      (hp : Text.parenthesized? w.current.lexeme = none) :
      Refuses w .body (.missingParentheses w.current.lexeme)
  /-- The text in parentheses fails its check. -/
  | header {h : Handler} {check : Text → Except Cause Unit} {text : Text} {cause : Cause}
      (hk : w.table w.current.kind = some h) (hc : h.check? = some check)
      (hp : Text.parenthesized? w.current.lexeme = some text)
      (hcheck : check text = .error cause) : Refuses w .body cause

/-- With the table of the language, a step towards a waiting goal cannot fail
in other ways: no statement is a block. -/
theorem Fails.refuses {w : Walker} {g : Goal} {cause : Cause} (h : Fails w g cause)
    (htable : w.table = Table.language) (hg : g ∈ waiting) : Refuses w g cause := by
  -- among the waiting goals that of a block is the only one to handle a token
  have hblock : ∀ h, Goal.handle h ∈ waiting → h = .block := by
    intro h
    cases h <;> decide
  cases h with
  | block hk => exact .block hk
  | parentheses hc _ | header hc _ _ =>
    rw [hblock _ hg] at hc
    cases hc
  | unknown _ | dispatch _ _ => exact absurd hg (by decide)
  | unclosed hk => exact .unclosed hk
  | stray hk hd => exact .stray hk hd
  | body hf =>
    cases hf with
    | unknown hk => exact .statement hk
    | dispatch hk hf =>
      cases hf with
      | parentheses hc hp => exact .parentheses hk hc hp
      | header hc hp hcheck => exact .header hk hc hp hcheck
      | block _ =>
        rw [htable] at hk
        exact absurd rfl (language_some _ _ hk).1

/-- A step towards a waiting goal fails at the token in front, for one of
these causes. -/
theorem refuses_of_step {w : Walker} (htable : w.table = Table.language) {g : Goal}
    (hg : g ∈ waiting) {f : Fault} (h : w.step g = .error f) :
    f.position = w.position ∧ Refuses w g f.cause := by
  obtain ⟨hposition, hfails⟩ := fails_of_step h
  exact ⟨hposition, hfails.refuses htable hg⟩

-- =============================================================== paths

/-- The walk gets from one place to another: from what is ahead and the
goals, past some tokens, to what is ahead and the goals there. -/
inductive Path :
    Walker → List Goal → (seen : List Token) → Walker → List Goal → Prop where
  | stay {w : Walker} {goals : List Goal} : Path w goals [] w goals
  | pass {w next w' : Walker} {g : Goal} {goals more goals' : List Goal}
      {seen : List Token} (hm : Moves w g more next)
      (hpass : g = .otherwise → w.current.kind = .otherwise)
      (h : Path next (more ++ goals) seen w' goals') :
      Path w (g :: goals) (w.current :: seen) w' goals'
  | skip {w w' : Walker} {goals goals' : List Goal} {seen : List Token}
      (hk : w.current.kind ≠ .otherwise) (h : Path w goals seen w' goals') :
      Path w (.otherwise :: goals) seen w' goals'

variable {w w' next : Walker} {g : Goal} {goals goals' more : List Goal}
  {seen : List Token}

/-- The walk stands where the goals wait that a move leaves. -/
theorem Moves.stands (hm : Moves w g more next) (hw : w.Stands (g :: goals)) :
    next.Stands (more ++ goals) :=
  step_stands hw ((step_eq_ok_iff hw.table (hw.waits g (.head _))).2 hm)

/-- What is ahead of a walk that passes a token. -/
theorem Moves.ahead_of_pass (hm : Moves w g more next)
    (htable : w.table = Table.language)
    (hpass : g = .otherwise → w.current.kind = .otherwise) :
    w.current.kind ≠ .endOfInput ∧ next.ahead = w.ahead.advance := by
  rcases hm.pass_or_skip htable with ⟨hne, hahead, -⟩ | ⟨hg, -, -, hk⟩
  · exact ⟨hne, hahead⟩
  · exact absurd (hpass hg) hk

/-- Every run is a path to where it stops: no goal is left there, or the
step towards the first one fails. -/
theorem exists_path {result : Except Fault Unit} {stop : Walker} (hw : w.Stands goals)
    (h : w.run goals = (result, stop)) :
    ∃ seen rest, Path w goals seen stop rest
      ∧ (result = .ok () ∧ rest = []
          ∨ ∃ f g later, result = .error f ∧ rest = g :: later ∧ stop.step g = .error f) := by
  fun_induction run w goals with
  | case1 w =>
    cases h
    exact ⟨[], [], .stay, .inl ⟨rfl, rfl⟩⟩
  | case2 w g goals f hs =>
    cases h
    exact ⟨[], g :: goals, .stay, .inr ⟨f, g, goals, rfl, rfl, hs⟩⟩
  | case3 w g goals more next hs ih =>
    obtain ⟨seen, rest, hpath, hends⟩ := ih (step_stands hw hs) h
    have hm := (step_eq_ok_iff hw.table (hw.waits g (.head _))).1 hs
    rcases hm.pass_or_skip hw.table with ⟨-, -, hpass⟩ | ⟨rfl, rfl, rfl, hk⟩
    · exact ⟨_, rest, .pass hm hpass hpath, hends⟩
    · exact ⟨seen, rest, .skip hk hpath, hends⟩

namespace Path

-- ========================================================= what is kept

/-- The walk stands where the goals wait that a path leads to. -/
theorem stands (h : Path w goals seen w' goals') (hw : w.Stands goals) :
    w'.Stands goals' := by
  induction h with
  | stay => exact hw
  | pass hm _ _ ih => exact ih (hm.stands hw)
  | skip hk _ ih =>
    have hm := Moves.skip hk
    exact ih (hm.stands hw)

/-- The tokens passed are those in front of where the path began. -/
theorem body_eq (h : Path w goals seen w' goals') (hw : w.Stands goals) :
    w.ahead.body = seen ++ w'.ahead.body ∧ w.ahead.final = w'.ahead.final := by
  induction h with
  | stay => exact ⟨rfl, rfl⟩
  | @pass w next w' g goals more goals' seen hm hpass _ ih =>
    obtain ⟨hne, hahead⟩ := hm.ahead_of_pass hw.table hpass
    obtain ⟨hbody, hfinal⟩ := ih (hm.stands hw)
    obtain ⟨hcons, hsame⟩ := Stream.body_eq_cons hne
    rw [hahead] at hbody hfinal
    refine ⟨?_, hsame.trans hfinal⟩
    rw [hcons, hbody]
    rfl
  | skip hk _ ih =>
    have hm := Moves.skip hk
    exact ih (hm.stands hw)

theorem toList_eq (h : Path w goals seen w' goals') (hw : w.Stands goals) :
    w.ahead.toList = seen ++ w'.ahead.toList := by
  obtain ⟨hbody, hfinal⟩ := h.body_eq hw
  unfold Stream.toList
  rw [hbody, hfinal, List.append_assoc]

/-- Running on from where a path leads is running from where it began. -/
theorem run_eq (h : Path w goals seen w' goals') (hw : w.Stands goals) :
    w.run goals = w'.run goals' := by
  induction h with
  | stay => rfl
  | @pass w next w' g goals more goals' seen hm hpass _ ih =>
    have hs := (step_eq_ok_iff hw.table (hw.waits g (.head _))).2 hm
    rw [run_cons, hs]
    exact ih (hm.stands hw)
  | @skip w w' goals goals' seen hk _ ih =>
    have hm := Moves.skip hk
    have hs := (step_eq_ok_iff hw.table (hw.waits _ (.head _))).2 hm
    rw [run_cons, hs]
    exact ih (hm.stands hw)

/-- A handler of the language is not for a brace. -/
theorem language_not_brace : ∀ k : Kind, ∀ h, Table.language k = some h →
    k ≠ .openBrace ∧ k ≠ .closeBrace := by
  intro k h hk
  cases k <;> cases hk <;> decide

/-- The braces passed lead from the depth where the path began to the
depth where it ends. -/
theorem openBlocks (h : Path w goals seen w' goals') (hw : w.Stands goals)
    (ts : List Token) :
    Balance.openBlocks w.depth (seen ++ ts) = Balance.openBlocks w'.depth ts := by
  induction h with
  | stay => rfl
  | @pass w next w' g goals more goals' seen hm hpass _ ih =>
    have hrest := ih (hm.stands hw)
    rw [List.cons_append]
    cases hm with
    | enter hk => rwa [Balance.openBlocks_open hk]
    | leave hk hd => rwa [hd, Balance.openBlocks_close hk]
    | @statement h' hk ha =>
      rw [hw.table] at hk
      obtain ⟨hopen, hclose⟩ := language_not_brace _ _ hk
      rw [note?_depth] at hrest
      rwa [Balance.openBlocks_other hopen hclose]
    | otherwise hk =>
      rwa [Balance.openBlocks_other (by simp [hk]) (by simp [hk])]
    | skip hk => exact absurd (hpass rfl) hk
  | skip hk _ ih =>
    have hm := Moves.skip hk
    exact ih (hm.stands hw)

/-- What the goals that are left demand completes the tokens passed. -/
theorem demand (h : Path w goals seen w' goals') (hw : w.Stands goals)
    {ts : List Token} (hts : Demand goals' ts) : Demand goals (seen ++ ts) := by
  induction h with
  | stay => exact hts
  | pass hm hpass _ ih =>
    exact demand_cons_of_moves hw.table hm hpass (ih (hm.stands hw) hts)
  | skip hk _ ih =>
    have hm := Moves.skip hk
    exact (Demand.cons .skip (ih (hm.stands hw) hts) :)

end Path

-- ====================================================== another stream

/-- The same walk with another stream ahead. -/
def withAhead (s : Stream) (w : Walker) : Walker := { w with ahead := s }

theorem note?_withAhead (e : Option Event) (s : Stream) :
    (w.note? e).withAhead s = (w.withAhead s).note? e := by
  cases e <;> rfl

/-- A move depends on the token in front, and on nothing behind it. -/
theorem Moves.withAhead (hm : Moves w g more next)
    (hpass : g = .otherwise → w.current.kind = .otherwise) {s : Stream}
    (hs : s.head = w.current) : Moves (w.withAhead s) g more (next.withAhead s.advance) := by
  have hcurrent : w.current = (w.withAhead s).current := hs.symm
  have hposition : w.position = (w.withAhead s).position := congrArg Token.offset hcurrent
  cases hm with
  | enter hk =>
    rw [hcurrent] at hk
    rw [hposition]
    exact .enter hk
  | leave hk hd =>
    rw [hcurrent] at hk
    rw [hposition]
    exact .leave hk hd
  | statement hk ha =>
    rw [hcurrent] at hk ha ⊢
    rw [note?_withAhead]
    exact .statement hk ha
  | otherwise hk =>
    rw [hcurrent] at hk
    exact .otherwise hk
  | skip hk => exact absurd (hpass rfl) hk

/-- The walk cannot go on: a step towards the first goal fails, or there
is no goal but still a token in front. -/
def Stuck (w : Walker) : List Goal → Prop
  | [] => w.current.kind ≠ .endOfInput
  | g :: _ => ∃ f, w.step g = .error f

/-- A walk that cannot go on cannot with another stream behind the token in
front. -/
theorem Stuck.withAhead (h : w.Stuck goals) (hw : w.Stands goals) {s : Stream}
    (hs : s.head = w.current) : (w.withAhead s).Stuck goals := by
  cases goals with
  | nil =>
    show s.head.kind ≠ .endOfInput
    rw [hs]
    exact h
  | cons g goals =>
    obtain ⟨f, hf⟩ := h
    have hg : g ∈ waiting := hw.waits g (.head _)
    cases hstep : (w.withAhead s).step g with
    | error f' => exact ⟨f', hstep⟩
    | ok result =>
      -- a move over the other stream would be one over this stream
      obtain ⟨more, next⟩ := result
      have htable : (w.withAhead s).table = Table.language := hw.table
      have hm := (step_eq_ok_iff htable hg).1 hstep
      have hback : ∃ next', Moves w g more next' := by
        rcases hm.pass_or_skip htable with ⟨-, -, hpass⟩ | ⟨rfl, rfl, -, hk⟩
        · have hm' := hm.withAhead hpass hs.symm
          exact ⟨_, hm'⟩
        · refine ⟨w, .skip ?_⟩
          rw [← hs]
          exact hk
      obtain ⟨next', hm'⟩ := hback
      rw [(step_eq_ok_iff hw.table hg).2 hm'] at hf
      cases hf

/-- A stream that begins with the tokens a path passes, and goes on with the
one it stops at, has the token in front that the path has. -/
theorem Path.head_eq (h : Path w goals seen w' goals') (hw : w.Stands goals) {s : Stream}
    {rest : List Token} (hbody : s.body = seen ++ rest)
    (hrest : Stream.head ⟨rest, s.final, s.final_kind⟩ = w'.current) :
    s.head = w.current := by
  obtain ⟨hahead, hfinal⟩ := h.body_eq hw
  unfold current Stream.head at hrest ⊢
  rw [hbody, hahead]
  cases seen with
  | nil =>
    rw [hfinal]
    exact hrest
  | cons t seen => rfl

/-- A path leads the same way over every stream that begins with the tokens
it passes and goes on with the one it stops at. -/
theorem Path.withAhead (h : Path w goals seen w' goals') (hw : w.Stands goals) {s : Stream}
    {rest : List Token} (hbody : s.body = seen ++ rest)
    (hrest : Stream.head ⟨rest, s.final, s.final_kind⟩ = w'.current) :
    Path (w.withAhead s) goals seen (w'.withAhead ⟨rest, s.final, s.final_kind⟩) goals' := by
  induction h generalizing s with
  | stay =>
    obtain ⟨body, final, hfinal⟩ := s
    obtain rfl : body = rest := hbody
    exact .stay
  | @pass w next w' g goals more goals' seen hm hpass hpath ih =>
    obtain ⟨body, final, hfinal⟩ := s
    obtain rfl : body = w.current :: (seen ++ rest) := hbody
    have hs : Stream.head ⟨w.current :: (seen ++ rest), final, hfinal⟩ = w.current := rfl
    have hsame := hm.withAhead hpass hs
    rw [Stream.advance_cons (hm.ahead_of_pass hw.table hpass).1] at hsame
    exact .pass hsame hpass (ih (hm.stands hw) rfl hrest)
  | @skip w w' goals goals' seen hk hpath ih =>
    have hw' := (Moves.skip hk).stands hw
    refine .skip ?_ (ih hw' hbody hrest)
    show s.head.kind ≠ .otherwise
    rwa [hpath.head_eq hw' hbody hrest]

end Walker

end Aula
