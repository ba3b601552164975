/-
The log of the blocks is the structure of the braces.

A walk notes each block that it enters and each that it leaves, among whatever
else it notes. Taken out of the log, these events are the braces that the walk
has passed, in their order, whether it succeeds or fails: each with its own
offset, and with the number of blocks that are open behind it. That number is
counted here from the tokens alone (`Balance.events`), as the braces opened less
those closed, without a walk and without a depth.

On a walk over a program every step that passes a brace notes it, and no other
step notes anything of the sort (`Walker.Goes.blockLog_eq`); the depth there is
what the count says (`Walker.Goes.braces`).
-/
import Aula.Proofs.Walker.Enclosing

namespace Aula

/-- Whether the event is that a block was entered or left. -/
def Event.isOfBlock : Event → Bool
  | .entered _ _ | .left _ _ => true
  | _ => false

/-- What a brace is noted as, if so many blocks are open behind it. -/
def Token.blockEvent? (depth : Nat) (t : Token) : Option Event :=
  match t.kind with
  | .openBrace => some (.entered t.offset depth)
  | .closeBrace => some (.left t.offset depth)
  | _ => none

namespace Balance

/-- What the braces among tokens are noted as, one after the other, where the
tokens in `front` stand in front of them. The number of open blocks is that of
the braces opened less that of those closed, each brace itself included. -/
def events (front : List Token) : List Token → List Event
  | [] => []
  | t :: ts =>
    (t.blockEvent? (opens (front ++ [t]) - closes (front ++ [t]))).toList
      ++ events (front ++ [t]) ts

variable {front ts us inner back : List Token} {t o c : Token}

theorem events_cons (front : List Token) (t : Token) (ts : List Token) :
    events front (t :: ts)
      = (t.blockEvent? (opens (front ++ [t]) - closes (front ++ [t]))).toList
        ++ events (front ++ [t]) ts := rfl

theorem events_append (front ts us : List Token) :
    events front (ts ++ us) = events front ts ++ events (front ++ ts) us := by
  induction ts generalizing front with
  | nil => rw [List.append_nil]; rfl
  | cons t ts ih =>
    rw [List.cons_append, events_cons, events_cons, ih, List.append_assoc, List.append_assoc]
    rfl

theorem blockEvent?_open (ho : t.kind = .openBrace) (depth : Nat) :
    t.blockEvent? depth = some (.entered t.offset depth) := by
  unfold Token.blockEvent?
  rw [ho]

theorem blockEvent?_close (hc : t.kind = .closeBrace) (depth : Nat) :
    t.blockEvent? depth = some (.left t.offset depth) := by
  unfold Token.blockEvent?
  rw [hc]

/-- A token that is no brace is not noted. -/
theorem blockEvent?_other (ho : t.kind ≠ .openBrace) (hc : t.kind ≠ .closeBrace) (depth : Nat) :
    t.blockEvent? depth = none := by
  unfold Token.blockEvent?
  split
  · next h => exact absurd h ho
  · next h => exact absurd h hc
  · rfl

theorem events_singleton (front : List Token) (t : Token) :
    events front [t] = (t.blockEvent? (opens (front ++ [t]) - closes (front ++ [t]))).toList :=
  List.append_nil _

/-- A brace and the one that matches it are noted one level apart, what is
between them in between. -/
theorem events_of_encloses (hfront : closes front ≤ opens front)
    (h : Encloses (o :: (inner ++ [c]))) (back : List Token) :
    events [] (front ++ (o :: (inner ++ c :: back)))
      = events [] front ++ .entered o.offset (opens front - closes front + 1)
          :: (events (front ++ [o]) inner ++ .left c.offset (opens front - closes front)
            :: events (front ++ (o :: (inner ++ [c]))) back) := by
  obtain ⟨o', rest, heq, ho⟩ := h.first
  obtain ⟨rfl, -⟩ := List.cons.inj heq
  obtain ⟨before, c', heq, hc⟩ := h.last
  rw [← List.cons_append] at heq
  obtain ⟨-, heq⟩ := List.append_inj' heq rfl
  obtain ⟨rfl, -⟩ := List.cons.inj heq
  have htotal := h.total
  have hopened : opens (front ++ [o]) - closes (front ++ [o]) = opens front - closes front + 1 := by
    rw [opens_append, closes_append, (counts_open ho []).1, (counts_open ho []).2]
    simp only [opens_nil, closes_nil]
    omega
  have hwhole : front ++ [o] ++ inner ++ [c] = front ++ (o :: (inner ++ [c])) := by simp
  have hclosed : opens (front ++ (o :: (inner ++ [c]))) - closes (front ++ (o :: (inner ++ [c])))
      = opens front - closes front := by
    rw [opens_append, closes_append, htotal]
    omega
  rw [events_append, List.nil_append, events_cons, hopened, blockEvent?_open ho, events_append,
    events_cons, hwhole, hclosed, blockEvent?_close hc]
  rfl

end Balance

namespace Walker

open Balance (opens closes events)

/-- The events about blocks in the log. -/
def blockLog (w : Walker) : List Event := w.log.toList.filter Event.isOfBlock

variable {w w' next : Walker} {g : Goal} {goals goals' more : List Goal}
  {passed seen front : List Token}

-- =============================================================== a step

theorem blockLog_note (e : Event) (w : Walker) :
    (w.note e).blockLog = w.blockLog ++ [e].filter Event.isOfBlock := by
  unfold blockLog note
  rw [Array.toList_push, List.filter_append]

/-- What a handler other than that for blocks notes is left out. -/
theorem filter_event? (h : Handler) (t : Token) :
    (h.event? t).toList.filter Event.isOfBlock = [] := by
  cases h with
  | single | comment | block => rfl
  | output | condition | loop =>
    cases hp : Text.parenthesized? t.lexeme <;> simp [Handler.event?, hp, Event.isOfBlock]

/-- In the language, beginning a statement notes nothing about blocks. -/
theorem Goes.blockLog_of_statement (h : Goes w .statement more next)
    (htable : w.table = Table.language) : next.blockLog = w.blockLog := by
  cases h with
  | dispatch hk hs =>
    rw [htable] at hk
    cases hs with
    | enter => exact absurd rfl (language_some _ _ hk).1
    | handle _ _ =>
      unfold blockLog
      rw [note?_log, List.filter_append, filter_event?, List.append_nil]
      rfl

/-- In the language, a step notes the brace that it passes, and nothing else
about blocks. -/
theorem Goes.blockLog_eq (h : Goes w g more next) (hw : w.Ordinary (g :: goals))
    (hpassed : w.ahead.toList = passed ++ next.ahead.toList)
    (hdepth : w.depth + closes front = opens front) :
    next.blockLog = w.blockLog ++ events front passed := by
  rcases h.braces hw hpassed with ⟨rfl, -, hcount⟩ | ⟨rfl, rfl, -⟩
  · have hopen : opens (front ++ [w.current]) - closes (front ++ [w.current]) = next.depth := by
      rw [Balance.opens_append, Balance.closes_append]
      omega
    have hother : w.current.kind ≠ .openBrace → w.current.kind ≠ .closeBrace →
        events front [w.current] = [] := by
      intro ho hc
      rw [Balance.events_singleton, Balance.blockEvent?_other ho hc]
      rfl
    cases h with
    | handle hne _ =>
      have hg := hw.goals _ (.head _)
      simp only [waiting, List.mem_cons, Goal.handle.injEq, reduceCtorEq, List.not_mem_nil,
        or_false, false_or] at hg
      exact absurd hg hne
    | enter hk =>
      rw [Balance.events_singleton, hopen, Balance.blockEvent?_open hk, blockLog_note]
      rfl
    | leave hk hd =>
      rw [Balance.events_singleton, hopen, Balance.blockEvent?_close hk, blockLog_note]
      rfl
    | dispatch hk hs =>
      have hstatement := Goes.dispatch hk hs
      obtain ⟨-, -, -, ho, hc, -⟩ := hstatement.statement_of_language hw.table
      rw [hstatement.blockLog_of_statement hw.table, hother ho hc, List.append_nil]
    | body _ _ hs =>
      obtain ⟨-, -, -, ho, hc, -⟩ := hs.statement_of_language hw.table
      rw [hs.blockLog_of_statement hw.table, hother ho hc, List.append_nil]
    | otherwise hk =>
      rw [hother (by simp [hk]) (by simp [hk]), List.append_nil]
      rfl
    | skip _ => exact absurd (List.self_eq_append_left.1 hpassed) (List.cons_ne_nil _ _)
  · cases h with
    | otherwise | skip => exact (List.append_nil _).symm

-- ============================================================= all steps

/-- What a walk has noted about blocks is the braces that it has passed. -/
theorem Trail.blockLog_eq (h : Trail w goals seen w' goals') (hw : w.Ordinary goals)
    (hdepth : w.depth + closes front = opens front) :
    w'.blockLog = w.blockLog ++ events front seen := by
  induction h generalizing front with
  | stay => exact (List.append_nil _).symm
  | @step w next w' g goals more goals' passed seen hgoes hpassed _ ih =>
    have hnext : next.depth + closes (front ++ passed) = opens (front ++ passed) := by
      rw [Balance.opens_append, Balance.closes_append]
      rcases hgoes.braces hw hpassed with ⟨rfl, -, hcount⟩ | ⟨rfl, -, hsame⟩
      · omega
      · rw [Balance.opens_nil, Balance.closes_nil]
        omega
    rw [ih (hgoes.ordinary hw) hnext, hgoes.blockLog_eq hw hpassed hdepth, List.append_assoc,
      Balance.events_append]

end Walker

namespace Program

open Balance (opens closes events Encloses)

-- ======================================================== the whole walk

/-- The end of a walk only notes that the program was accepted. -/
theorem finish_stop (tokens : Stream) (w : Walker) :
    (finish tokens w).2.ahead = w.ahead ∧ (finish tokens w).2.blockLog = w.blockLog := by
  unfold finish
  split_ifs
  · exact ⟨rfl, rfl⟩
  · exact ⟨rfl, rfl⟩
  · exact ⟨rfl, (Walker.blockLog_note _ _).trans (List.append_nil _)⟩

/-- A walk over a stream does not begin if its braces do not balance or something
else than `main()` is in front. -/
theorem walk_of_refused {tokens : Stream}
    (h : ¬ (Balance.check tokens = .ok () ∧ tokens.head.kind = .main)) :
    ∃ f, walk tokens = (.error f, { ahead := tokens, table := Table.language }) := by
  unfold walk
  cases hbalance : Balance.check tokens with
  | error f => exact ⟨f, rfl⟩
  | ok _ =>
    have hk : ¬ tokens.head.kind = .main := fun hk => h ⟨hbalance, hk⟩
    unfold Walker.expectOr Walker.current
    simp only [hk, if_false]
    exact ⟨_, rfl⟩

/-- Else it is the walk over the block behind `main()`, and the end of it. -/
theorem walk_of_run {tokens : Stream} (hbalance : Balance.check tokens = .ok ())
    (hk : tokens.head.kind = .main) {result : Except Fault Unit} {stop : Walker}
    (hrun : (inside tokens).run [.handle .block] = (result, stop)) :
    (∃ f, result = .error f ∧ walk tokens = (.error f, stop))
      ∨ result = .ok () ∧ walk tokens = finish tokens stop := by
  have hwalk : (Walker.advance { ahead := tokens, table := Table.language }).run
      [.handle .block] = (result, stop) := hrun
  unfold walk Walker.expectOr Walker.current
  simp only [hbalance, hk, if_true, hwalk]
  cases result with
  | error f => exact .inl ⟨f, rfl, rfl⟩
  | ok _ => exact .inr ⟨rfl, rfl⟩

/-- The walk over a stream passes the tokens. -/
structure Passes (tokens : Stream) (seen : List Token) : Prop where
  toList_eq : tokens.toList = seen ++ (walk tokens).2.ahead.toList
  blockLog_eq : (walk tokens).2.blockLog = events [] seen
  prefixes : ∀ pre, pre <+: seen → closes pre ≤ opens pre

/-- Every walk passes some tokens: none if it does not begin, and if it accepts
the stream those before the first end of input, which are `main()` and a
block. -/
theorem exists_passes (tokens : Stream) : ∃ seen, Passes tokens seen
    ∧ (Balance.check tokens ≠ .ok () → seen = [])
    ∧ (parse tokens = .ok () → seen = tokens.upcoming ∧ ∃ m block, seen = m :: block
      ∧ m.kind = .main ∧ Encloses block) := by
  by_cases hbegins : Balance.check tokens = .ok () ∧ tokens.head.kind = .main
  · obtain ⟨hbalance, hk⟩ := hbegins
    have hend : tokens.head.kind ≠ .endOfInput := by simp [hk]
    have hw : (inside tokens).Ordinary [.handle .block] := ⟨rfl, by decide⟩
    cases hrun : (inside tokens).run [.handle .block] with
    | mk result stop =>
      obtain ⟨seen, left, htrail, hends⟩ := Walker.exists_trail hrun
      obtain ⟨hseen, -⟩ := htrail.braces hw
      have htokens : tokens.toList = tokens.head :: seen ++ stop.ahead.toList := by
        rw [Stream.toList_eq_cons hend, List.cons_append, ← htrail.toList_eq]
      have hinner : ∀ t ∈ tokens.head :: seen, t.kind ≠ .endOfInput :=
        List.forall_mem_cons.2 ⟨hend, hseen⟩
      have hstop : (walk tokens).2.ahead = stop.ahead ∧ (walk tokens).2.blockLog = stop.blockLog := by
        rcases walk_of_run hbalance hk hrun with ⟨f, -, hwalk⟩ | ⟨-, hwalk⟩
        · rw [hwalk]
          exact ⟨rfl, rfl⟩
        · rw [hwalk]
          exact finish_stop tokens stop
      -- `main()` is no brace, so the count begins behind it as it would in front
      have hmain : tokens.head.kind ≠ .openBrace ∧ tokens.head.kind ≠ .closeBrace := by simp [hk]
      have hlog : stop.blockLog = events [] (tokens.head :: seen) := by
        obtain ⟨hopens, hcloses⟩ := Balance.counts_other hmain.1 hmain.2 []
        have hdepth : (inside tokens).depth + closes [tokens.head] = opens [tokens.head] := by
          rw [hopens, hcloses]
          rfl
        rw [htrail.blockLog_eq hw hdepth, Balance.events_cons,
          Balance.blockEvent?_other hmain.1 hmain.2]
        rfl
      refine ⟨tokens.head :: seen, ⟨?_, hstop.2.trans hlog, fun pre hpre => ?_⟩,
        fun h => absurd hbalance h, fun h => ?_⟩
      · rw [hstop.1, htokens]
      · refine (Balance.check_ok_iff.1 hbalance).prefixes pre (hpre.trans ?_)
        rw [htokens]
        exact List.prefix_append _ _
      · unfold parse at h
        rcases walk_of_run hbalance hk hrun with ⟨f, -, hwalk⟩ | ⟨rfl, hwalk⟩
        · rw [hwalk] at h
          cases h
        · rw [hwalk] at h
          obtain ⟨-, rfl⟩ | ⟨f, g, later, ⟨⟩, -⟩ := hends
          have hdepth : stop.depth = 0 := htrail.depth_eq
          have hnone := (finish_eq_ok_iff hdepth).1 h
          refine ⟨?_, tokens.head, seen, rfl, hk, htrail.encloses hw⟩
          unfold Stream.upcoming at hnone ⊢
          rw [htokens, List.takeWhile_append_of_pos (fun t ht => decide_eq_true (hinner t ht)),
            hnone, List.append_nil]
  · obtain ⟨f, hwalk⟩ := walk_of_refused hbegins
    refine ⟨[], ⟨?_, ?_, ?_⟩, fun _ => rfl, fun h => ?_⟩
    · rw [hwalk]
      rfl
    · rw [hwalk]
      rfl
    · intro pre hpre
      rw [List.prefix_nil.1 hpre]
      exact Nat.le_refl 0
    · unfold parse at h
      rw [hwalk] at h
      cases h

/-- The log of the blocks is the structure of the braces. What a walk notes about
blocks is the braces that it has passed, in their order, each with its offset
and the number of blocks open behind it; none closes a block that is not open.
Of braces that match, the opening one is noted as entered and the closing one as
left, one level further out, and what is noted in between is what stands in
between. If a stream is accepted, these are the braces before its first end of
input: they pair up, and the last block is left to depth 0. -/
theorem blocks_logged (tokens : Stream) :
    ∃ seen, tokens.toList = seen ++ (walk tokens).2.ahead.toList
      ∧ (Balance.check tokens ≠ .ok () → seen = [])
      ∧ (walk tokens).2.log.toList.filter Event.isOfBlock = events [] seen
      ∧ (∀ pre, pre <+: seen → closes pre ≤ opens pre)
      ∧ (∀ front o inner c back, seen = front ++ (o :: (inner ++ c :: back)) →
          Encloses (o :: (inner ++ [c])) → ∃ depth, depth + closes front = opens front
            ∧ events [] seen = events [] front ++ .entered o.offset (depth + 1)
              :: (events (front ++ [o]) inner ++ .left c.offset depth
                :: events (front ++ (o :: (inner ++ [c]))) back))
      ∧ (parse tokens = .ok () → seen = tokens.upcoming ∧ opens seen = closes seen
          ∧ ∃ offset, (events [] seen).getLast? = some (.left offset 0)) := by
  obtain ⟨seen, hpasses, hnone, hok⟩ := exists_passes tokens
  refine ⟨seen, hpasses.toList_eq, hnone, hpasses.blockLog_eq, hpasses.prefixes, ?_, fun h => ?_⟩
  · rintro front o inner c back rfl hencloses
    have hfront := hpasses.prefixes front (List.prefix_append _ _)
    exact ⟨opens front - closes front, Nat.sub_add_cancel hfront,
      Balance.events_of_encloses hfront hencloses back⟩
  · obtain ⟨hupcoming, m, block, rfl, hm, hencloses⟩ := hok h
    have hmain := Balance.counts_other (t := m) (by simp [hm]) (by simp [hm])
    have htotal : opens (m :: block) = closes (m :: block) := by
      rw [(hmain block).1, (hmain block).2, hencloses.total]
    obtain ⟨front, c, rfl, hc⟩ := hencloses.last
    refine ⟨hupcoming, htotal, c.offset, ?_⟩
    rw [← List.cons_append, Balance.events_append, Balance.events_singleton, List.nil_append,
      List.cons_append, htotal, Nat.sub_self, Balance.blockEvent?_close hc]
    exact List.getLast?_concat

/-- A condition with a block of its own, in a program with more braces behind its
end; and a brace that closes nothing. -/
theorem blocks_logged_of_nested :
    let o : Token := .reading .openBrace "\x7b" 13
    let c : Token := .reading .closeBrace "\x7d" 14
    let tokens : Stream := ⟨[.reading .main "main()" 0, .reading .openBrace "\x7b" 6,
      .reading .condition "Si (a)" 7, o, c, .reading .closeBrace "\x7d" 15, .endOfInput 16,
      .reading .openBrace "\x7b" 16, .reading .closeBrace "\x7d" 17], .endOfInput 18, rfl⟩
    let stray : Stream := ⟨[.reading .closeBrace "\x7d" 0], .endOfInput 1, rfl⟩
    parse tokens = .ok () ∧ Encloses [o, c]
      ∧ (walk tokens).2.log.toList.filter Event.isOfBlock
        = [.entered 6 1, .entered 13 2, .left 14 1, .left 15 0]
      ∧ (∃ before inside after, (walk tokens).2.log.toList.filter Event.isOfBlock
        = before ++ .entered o.offset 2 :: (inside ++ .left c.offset 1 :: after))
      ∧ Balance.check stray ≠ .ok ()
      ∧ (walk stray).2.log.toList.filter Event.isOfBlock = [] := by
  intro o c tokens stray
  have hcheck : Condition.check ['a'] = .ok () := by
    have hread : Operator.read? ['a'] = none := by decide
    have hcut : Condition.cut false ['a'] = (['a'], []) := by simp [Condition.cut, hread]
    unfold Condition.check Condition.parts
    rw [hcut]
    decide
  have hempty : Derives .block (o :: ([] ++ [c])) := .block rfl .none rfl
  have hstatement : Derives .statement [.reading .condition "Si (a)" 7, o, c] :=
    .condition rfl ⟨['a'], by decide, hcheck⟩ hempty
  have hprogram : Derives .program tokens.upcoming :=
    .program (b := _ :: ([.reading .condition "Si (a)" 7, o, c] ++ [] ++ [_])) rfl
      (.block rfl (.more hstatement .none) rfl)
  have hparse : parse tokens = .ok () := (walk_of_balanced (by decide)).2 hprogram
  have hencloses : Encloses [o, c] := by
    refine .of_inner rfl rfl fun pre hpre hproper => ?_
    rcases List.prefix_cons_iff.1 hpre with rfl | ⟨pre', rfl, hpre'⟩
    · decide
    · rw [List.prefix_nil.1 hpre'] at hproper
      exact absurd rfl hproper
  have hstray : Balance.check stray ≠ .ok () := by decide
  obtain ⟨seen, -, -, hlog, -, hpairs, hok⟩ := blocks_logged tokens
  obtain ⟨seen', -, hnone, hlog', -, -, -⟩ := blocks_logged stray
  obtain ⟨rfl, -, -⟩ := hok hparse
  obtain ⟨depth, hdepth, hpair⟩ := hpairs [.reading .main "main()" 0, .reading .openBrace "\x7b" 6,
    .reading .condition "Si (a)" 7] o [] c [.reading .closeBrace "\x7d" 15] rfl hencloses
  obtain rfl : depth = 1 := hdepth
  refine ⟨hparse, hencloses, hlog, ⟨_, _, _, hlog.trans hpair⟩, hstray, ?_⟩
  rw [hlog', hnone hstray]
  rfl

end Program

end Aula
