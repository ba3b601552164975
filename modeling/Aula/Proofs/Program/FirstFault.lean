/-
The fault that is found is the first one: what stands before it can be
gone on with to a program, and what stands before it together with the
token at fault cannot.

Both halves come from the path that leads to where the walk stops. The
goals that are left there can all be met (`exists_demand`), and tokens
that meet them complete the tokens passed to a program
(`completable_of_path`). And the walk would stop there over every other
stream that begins with the same tokens (`not_viable_of_stuck`), for a path
depends on the tokens it passes and on the one in front of which it ends.
-/
import Aula.Proofs.Program.Stopping

namespace Aula

-- ========================================================== completion

namespace Derives

/-- No token of a phrase is an end of input. -/
theorem kind_ne_endOfInput {p : Phrase} {ts : List Token} (h : Derives p ts) :
    ∀ t ∈ ts, t.kind ≠ .endOfInput := by
  have hplain : ∀ k ∈ Kind.plain, k ≠ .endOfInput := by decide
  induction h with
  | program hm hb ih => simpa [hm] using ih
  | block ho hs hc ih => simpa [ho, hc, or_imp, forall_and] using ih
  | none => simp
  | more hs hss ihs ihss => simpa [or_imp, forall_and] using ⟨ihs, ihss⟩
  | plain ht => simpa using hplain _ ht
  | output ht ha => simp [ht]
  | condition ht ha hb ih => simpa [ht] using ih
  | conditionOtherwise ht ha hb ho hd ihb ihd =>
    simpa [ht, ho, or_imp, forall_and] using ⟨ihb, ihd⟩
  | loop ht ha hb ih => simpa [ht] using ih

end Derives

/-- Whatever goals wait, some tokens meet them: a block may be empty, and a
block may be closed. -/
theorem exists_demand {goals : List Goal} (hwaits : ∀ g ∈ goals, g ∈ Walker.waiting) :
    ∃ ts, Demand goals ts := by
  have ho : (Token.reading .openBrace "\x7b" 0).kind = .openBrace := rfl
  have hc : (Token.reading .closeBrace "\x7d" 0).kind = .closeBrace := rfl
  have hmeets : ∀ g ∈ Walker.waiting, ∃ ts, g.Meets ts := by
    intro g hg
    have hcases : g = .handle .block ∨ g = .body ∨ g = .otherwise := by
      simpa [Walker.waiting] using hg
    rcases hcases with rfl | rfl | rfl
    · exact ⟨_, .block (.block ho .none hc)⟩
    · exact ⟨_, .body .none hc⟩
    · exact ⟨_, .skip⟩
  induction goals with
  | nil => exact ⟨[], .nil⟩
  | cons g goals ih =>
    obtain ⟨hg, hgoals⟩ := List.forall_mem_cons.1 hwaits
    obtain ⟨ts, hts⟩ := hmeets g hg
    obtain ⟨us, hus⟩ := ih hgoals
    exact ⟨ts ++ us, .cons hts hus⟩

namespace Stream

/-- Tokens that a stream begins with, and no end of input among them, stand
before its last token. -/
theorem prefix_body {s : Stream} {ts : List Token} (h : ts <+: s.toList)
    (hend : ∀ t ∈ ts, t.kind ≠ .endOfInput) : ts <+: s.body := by
  rcases List.prefix_concat_iff.1 h with rfl | h
  · exact absurd s.final_kind (hend s.final (by simp))
  · exact h

end Stream

namespace Program

variable {tokens : Stream} {seen : List Token} {stop : Walker} {rest : List Goal}

/-- Some stream that is accepted begins with the tokens. -/
def Viable (ts : List Token) : Prop := ∃ s : Stream, ts <+: s.toList ∧ parse s = .ok ()

/-- Such a stream needs no end of input but its last token. -/
def Completable (ts : List Token) : Prop :=
  ∃ s : Stream, ts <+: s.body ∧ (∀ t ∈ s.body, t.kind ≠ .endOfInput) ∧ parse s = .ok ()

/-- What begins a program is completable. -/
theorem completable_of_derives {ts us : List Token} (h : Derives .program (ts ++ us)) :
    Completable ts := by
  refine ⟨⟨ts ++ us, .endOfInput 0, rfl⟩, List.prefix_append ts us,
    h.kind_ne_endOfInput, ?_⟩
  rw [parse_iff_derives h.kind_ne_endOfInput]
  exact h

/-- The tokens up to where a path leads are completable. -/
theorem completable_of_path (hk : tokens.head.kind = .main)
    (hpath : Walker.Path (inside tokens) [.handle .block] seen stop rest) :
    Completable (tokens.head :: seen) := by
  obtain ⟨us, hus⟩ := exists_demand (hpath.stands (inside_stands tokens)).waits
  have hdemand := Demand.singleton_iff.1 (hpath.demand (inside_stands tokens) hus)
  cases hdemand with
  | block hb => exact completable_of_derives (.program hk hb)

/-- A stream is not accepted if a path leads to where the walk over it
cannot go on. -/
theorem parse_ne_ok_of_stuck
    (hpath : Walker.Path (inside tokens) [.handle .block] seen stop rest)
    (hstuck : stop.Stuck rest) : parse tokens ≠ .ok () := by
  intro hparse
  obtain ⟨-, -, next, hrun, hfinish⟩ := walk_eq_ok_iff.1 hparse
  change (inside tokens).run [.handle .block] = _ at hrun
  rw [hpath.run_eq (inside_stands tokens)] at hrun
  cases rest with
  | nil =>
    rw [Walker.run_nil] at hrun
    cases hrun
    have hdepth := (hpath.stands (inside_stands tokens)).depth
    have hupcoming := (finish_eq_ok_iff hdepth).1 hfinish
    have hahead := hasTokens_eq_false_iff.2 hupcoming
    exact of_decide_eq_false hahead hstuck
  | cons g later =>
    obtain ⟨f, hstep⟩ := hstuck
    rw [Walker.run_cons, hstep] at hrun
    cases hrun

/-- The tokens up to where the walk cannot go on, with the one in front
there, are not viable. -/
theorem not_viable_of_stuck (hend : ∀ t ∈ tokens.body, t.kind ≠ .endOfInput)
    (hk : tokens.head.kind = .main)
    (hpath : Walker.Path (inside tokens) [.handle .block] seen stop rest)
    (hstuck : stop.Stuck rest) {t : Token} {ts : List Token}
    (hahead : stop.ahead.body = t :: ts) : ¬ Viable (tokens.head :: (seen ++ [t])) := by
  rintro ⟨s, hpre, hparse⟩
  have hinside := inside_stands tokens
  obtain ⟨hbody, -⟩ := body_eq_of_path hk hpath
  have hsplit : tokens.body = (tokens.head :: (seen ++ [t])) ++ ts := by
    rw [hbody, hahead]
    simp
  have hclear : ∀ u ∈ tokens.head :: (seen ++ [t]), u.kind ≠ .endOfInput := by
    intro u hu
    refine hend u ?_
    rw [hsplit]
    exact List.mem_append_left ts hu
  obtain ⟨us, hus⟩ := Stream.prefix_body hpre hclear
  obtain ⟨body, final, hfinal⟩ := s
  change _ = body at hus
  obtain rfl : body = tokens.head :: (seen ++ (t :: us)) := by
    rw [← hus]
    simp
  -- over the other stream the path leads to the same place
  have hcurrent : Stream.head ⟨t :: us, final, hfinal⟩ = stop.current := by
    unfold Walker.current Stream.head
    rw [hahead]
    rfl
  have hsame := hpath.withAhead hinside (s := ⟨seen ++ (t :: us), final, hfinal⟩) rfl hcurrent
  have hpath' : Walker.Path (inside ⟨tokens.head :: (seen ++ (t :: us)), final, hfinal⟩)
      [.handle .block] seen (stop.withAhead ⟨t :: us, final, hfinal⟩) rest := by
    unfold inside
    rw [Stream.advance_cons (by simp [hk])]
    exact hsame
  exact parse_ne_ok_of_stuck hpath' (hstuck.withAhead (hpath.stands hinside) hcurrent) hparse

/-- Nothing but `main()` is viable in front. -/
theorem not_viable_singleton {t : Token} (hend : t.kind ≠ .endOfInput)
    (hk : t.kind ≠ .main) : ¬ Viable [t] := by
  rintro ⟨s, hpre, hparse⟩
  obtain ⟨us, hus⟩ := Stream.prefix_body hpre (by simpa using hend)
  have hhead : s.head = t := by
    unfold Stream.head
    rw [← hus]
    rfl
  have hmain := (walk_eq_ok_iff.1 hparse).2.1
  rw [hhead] at hmain
  exact hk hmain

/-- The empty list of tokens is completable: there are programs. -/
theorem completable_nil : Completable [] := by
  obtain ⟨us, hus⟩ : ∃ us, Demand [.handle .block] us := exists_demand (by decide)
  have hm : (Token.reading .main "main()" 0).kind = .main := rfl
  cases Demand.singleton_iff.1 hus with
  | block hb =>
    have hprogram : Derives .program ([] ++ _) := .program hm hb
    exact completable_of_derives hprogram

-- ====================================================== the first fault

/-- A path leads to the token behind those it passes. -/
theorem toList_of_path (hk : tokens.head.kind = .main)
    (hpath : Walker.Path (inside tokens) [.handle .block] seen stop rest) :
    tokens.toList[seen.length + 1]? = some stop.current := by
  obtain ⟨hbody, hfinal⟩ := body_eq_of_path hk hpath
  unfold Stream.toList Walker.current Stream.head
  rw [hbody, hfinal]
  simp only [List.cons_append, List.getElem?_cons_succ, List.append_assoc,
    List.getElem?_append_right (Nat.le_refl _), Nat.sub_self]
  cases stop.ahead.body <;> rfl

/-- Where the walk through the block of a program cannot go on, it stands
behind a completable prefix that the token in front makes unviable. -/
theorem viable_until_stuck (hend : ∀ t ∈ tokens.body, t.kind ≠ .endOfInput)
    (hk : tokens.head.kind = .main)
    (hpath : Walker.Path (inside tokens) [.handle .block] seen stop rest)
    (hstuck : stop.Stuck rest) :
    ∃ k ≤ tokens.body.length, tokens.toList[k]? = some stop.current
      ∧ Completable (tokens.body.take k)
      ∧ (k < tokens.body.length → ¬ Viable (tokens.body.take (k + 1))) := by
  obtain ⟨hbody, -⟩ := body_eq_of_path hk hpath
  have htake : tokens.body.take (seen.length + 1) = tokens.head :: seen := by
    rw [hbody, List.take_succ_cons, List.take_left]
  refine ⟨seen.length + 1, ?_, toList_of_path hk hpath, ?_, fun hlt => ?_⟩
  · rw [hbody]
    simp
  · rw [htake]
    exact completable_of_path hk hpath
  · cases hahead : stop.ahead.body with
    | nil =>
      rw [hbody, hahead] at hlt
      simp at hlt
    | cons t ts =>
      have htake' : tokens.body.take (seen.length + 1 + 1) = tokens.head :: (seen ++ [t]) := by
        rw [hbody, hahead, List.take_succ_cons, List.append_cons seen t ts,
          List.take_left' (by simp)]
      rw [htake']
      exact not_viable_of_stuck hend hk hpath hstuck hahead

end Program

/-- The fault that is found in a stream whose braces balance is the first
one: it is at a token up to which the stream can be gone on with to one
that is accepted, but not past it. -/
theorem Program.fault_at_first_violation (tokens : Stream)
    (hend : ∀ t ∈ tokens.body, t.kind ≠ .endOfInput)
    (hbalance : Balance.check tokens = .ok ()) (f : Fault)
    (h : Program.parse tokens = .error f) :
    ∃ k ≤ tokens.body.length, ∃ t, tokens.toList[k]? = some t ∧ f.position = t.offset
      ∧ Program.Completable (tokens.body.take k)
      ∧ (k < tokens.body.length → ¬ Program.Viable (tokens.body.take (k + 1))) := by
  rcases Program.parse_eq_error h with hunbalanced | ⟨-, hstops⟩
  · rw [hbalance] at hunbalanced
    cases hunbalanced
  · cases hstops with
    | main hk hposition hcause =>
      refine ⟨0, Nat.zero_le _, tokens.head, ?_, hposition, Program.completable_nil, fun hlt => ?_⟩
      · unfold Stream.toList Stream.head
        cases tokens.body <;> rfl
      · obtain ⟨t, ts, hbody⟩ := List.exists_cons_of_length_pos hlt
        have hhead : tokens.head = t := by
          unfold Stream.head
          rw [hbody]
          rfl
        rw [hhead] at hk
        rw [hbody]
        refine Program.not_viable_singleton (hend t ?_) hk
        rw [hbody]
        exact List.mem_cons_self ..
    | @block seen stop g later hk hpath hstep =>
      have hstop := hpath.stands (Program.inside_stands tokens)
      obtain ⟨hposition, -⟩ :=
        Walker.refuses_of_step hstop.table (hstop.waits g (.head _)) hstep
      obtain ⟨k, hle, hcurrent, hviable⟩ :=
        Program.viable_until_stuck hend hk hpath ⟨f, hstep⟩
      exact ⟨k, hle, _, hcurrent, hposition, hviable⟩
    | behind hk hpath hne hposition hcause =>
      obtain ⟨k, hle, hcurrent, hviable⟩ := Program.viable_until_stuck hend hk hpath hne
      exact ⟨k, hle, _, hcurrent, hposition, hviable⟩

/-- A `No` that no condition stands before is the first violation, whatever
the block behind it is. -/
theorem Program.fault_at_lone_otherwise :
    (∀ t ∈ [Token.reading .main "main()" 0, .reading .openBrace "\x7b" 6,
        .reading .comment "~c~" 7, .reading .otherwise "No" 10,
        .reading .closeBrace "\x7d" 12], t.kind ≠ .endOfInput)
      ∧ Balance.check ⟨[.reading .main "main()" 0, .reading .openBrace "\x7b" 6,
          .reading .comment "~c~" 7, .reading .otherwise "No" 10,
          .reading .closeBrace "\x7d" 12], .endOfInput 13, rfl⟩ = .ok ()
      ∧ Program.parse ⟨[.reading .main "main()" 0, .reading .openBrace "\x7b" 6,
          .reading .comment "~c~" 7, .reading .otherwise "No" 10,
          .reading .closeBrace "\x7d" 12], .endOfInput 13, rfl⟩
        = .error ⟨.unexpectedStatement .otherwise "No", 10⟩
      ∧ Program.Completable [.reading .main "main()" 0, .reading .openBrace "\x7b" 6,
          .reading .comment "~c~" 7]
      ∧ ¬ Program.Viable [.reading .main "main()" 0, .reading .openBrace "\x7b" 6,
          .reading .comment "~c~" 7, .reading .otherwise "No" 10] := by
  have hend : ∀ t ∈ [Token.reading .main "main()" 0, .reading .openBrace "\x7b" 6,
      .reading .comment "~c~" 7, .reading .otherwise "No" 10,
      .reading .closeBrace "\x7d" 12], t.kind ≠ .endOfInput := by decide
  have hparse : Program.parse ⟨[.reading .main "main()" 0, .reading .openBrace "\x7b" 6,
      .reading .comment "~c~" 7, .reading .otherwise "No" 10,
      .reading .closeBrace "\x7d" 12], .endOfInput 13, rfl⟩
        = .error ⟨.unexpectedStatement .otherwise "No", 10⟩ := by
    apply Program.parse_of_run_error rfl rfl
    -- into the block, past the comment, and no further
    rw [Walker.run_cons]
    show Walker.run _ [.body] = _
    rw [Walker.run_cons]
    show Walker.run _ [.body] = _
    rw [Walker.run_cons]
    rfl
  obtain ⟨k, hle, t, ht, hposition, hviable, hnot⟩ :=
    Program.fault_at_first_violation _ hend rfl _ hparse
  -- the offset of the fault is that of one token only
  have hunique : ∀ k ≤ 5, (Stream.toList ⟨[.reading .main "main()" 0,
      .reading .openBrace "\x7b" 6, .reading .comment "~c~" 7, .reading .otherwise "No" 10,
      .reading .closeBrace "\x7d" 12], .endOfInput 13, rfl⟩)[k]?.map Token.offset
        = some 10 → k = 3 := by decide
  obtain rfl : k = 3 := by
    refine hunique k hle ?_
    rw [ht]
    exact congrArg some hposition.symm
  exact ⟨hend, rfl, hparse, hviable, hnot (by decide)⟩

end Aula
