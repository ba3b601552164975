/-
Braces: a fault about them means exactly that they do not pair up.

The balance is counted twice. Before the walk, `Balance.check` counts the
braces of the whole stream; on the walk, the depth counts the blocks that
are open. `openBlocks_eq_ok_iff` and `openBlocks_eq_error_iff` say what
the first count finds, in terms of how many braces of either sort a prefix
of the stream has.

# Why the second count never disagrees

Along a path the braces passed lead from one depth to the other
(`Walker.Path.openBlocks`), so where the walk stands, the braces ahead
close just the blocks that are open. A goal that waits for a closing brace
means a block is open (`Walker.Stands`). At the end of the stream no brace
is ahead, hence no block is open and no goal waits for its end.
-/
import Aula.Proofs.Header.Cause
import Aula.Proofs.Program.Stopping

namespace Aula

namespace Balance

-- ============================================================= counting

/-- The number of opening braces. -/
def opens (ts : List Token) : Nat := ts.countP (·.kind = .openBrace)

/-- The number of closing braces. -/
def closes (ts : List Token) : Nat := ts.countP (·.kind = .closeBrace)

/-- Each prefix closes only what it opens, and in the end nothing is
open. -/
structure Pairs (ts : List Token) : Prop where
  prefixes : ∀ pre, pre <+: ts → closes pre ≤ opens pre
  total : opens ts = closes ts

variable {t : Token} {ts : List Token} {d : Nat}

@[simp]
theorem opens_nil : opens [] = 0 := rfl

@[simp]
theorem closes_nil : closes [] = 0 := rfl

theorem counts_open (ht : t.kind = .openBrace) (ts : List Token) :
    opens (t :: ts) = opens ts + 1 ∧ closes (t :: ts) = closes ts := by
  simp [opens, closes, ht]

theorem counts_close (ht : t.kind = .closeBrace) (ts : List Token) :
    opens (t :: ts) = opens ts ∧ closes (t :: ts) = closes ts + 1 := by
  simp [opens, closes, ht]

theorem counts_other (ho : t.kind ≠ .openBrace) (hc : t.kind ≠ .closeBrace)
    (ts : List Token) : opens (t :: ts) = opens ts ∧ closes (t :: ts) = closes ts := by
  simp [opens, closes, ho, hc]

theorem openBlocks_zero_close {c : Token} (hc : c.kind = .closeBrace) (ts : List Token) :
    openBlocks 0 (c :: ts) = .error ⟨.strayCloseBrace, c.offset⟩ := by
  simp only [openBlocks, hc]

/-- The prefixes of a list with one more member in front. -/
private theorem forall_prefix_cons {p : List Token → Prop} :
    (∀ pre, pre <+: t :: ts → p pre) ↔ p [] ∧ ∀ pre, pre <+: ts → p (t :: pre) := by
  constructor
  · intro h
    exact ⟨h [] List.nil_prefix,
      fun pre hpre => h (t :: pre) ((List.prefix_cons_inj t).2 hpre)⟩
  · rintro ⟨hnil, hcons⟩ pre hpre
    rcases List.prefix_cons_iff.1 hpre with rfl | ⟨pre', rfl, hpre'⟩
    · exact hnil
    · exact hcons pre' hpre'

/-- The count reaches the end if no prefix closes more than is open, and it
ends with what is left open. -/
theorem openBlocks_eq_ok_iff {n : Nat} :
    openBlocks d ts = .ok n
      ↔ (∀ pre, pre <+: ts → closes pre ≤ d + opens pre) ∧ d + opens ts = closes ts + n := by
  induction ts generalizing d with
  | nil =>
    show Except.ok d = _ ↔ _
    simp
  | cons t ts ih =>
    rw [forall_prefix_cons]
    by_cases ho : t.kind = .openBrace
    · have hsum : ∀ k, d + 1 + k = d + (k + 1) := by omega
      rw [openBlocks_open ho, ih]
      simp only [counts_open ho, closes_nil, Nat.zero_le, true_and, hsum]
    · by_cases hc : t.kind = .closeBrace
      · cases d with
        | zero =>
          -- the closing brace alone is a prefix that closes too much
          rw [openBlocks_zero_close hc]
          constructor
          · intro h
            cases h
          · rintro ⟨⟨-, h⟩, -⟩
            have := h [] List.nil_prefix
            rw [(counts_close hc []).1, (counts_close hc []).2] at this
            exact absurd this (by simp)
        | succ d =>
          have hle : ∀ a b, a + 1 ≤ d + 1 + b ↔ a ≤ d + b := by omega
          have heq : ∀ a b, d + 1 + a = b + 1 + n ↔ d + a = b + n := by omega
          rw [openBlocks_close hc, ih]
          simp only [counts_close hc, closes_nil, Nat.zero_le, true_and, hle, heq]
      · rw [openBlocks_other ho hc, ih]
        simp only [counts_other ho hc, closes_nil, Nat.zero_le, true_and]

/-- A count goes on where the count of the tokens in front ends. -/
theorem openBlocks_append_of_ok {us : List Token} {n : Nat} (h : openBlocks d ts = .ok n) :
    openBlocks d (ts ++ us) = openBlocks n us := by
  induction ts generalizing d with
  | nil =>
    cases h
    rfl
  | cons t ts ih =>
    rw [List.cons_append]
    by_cases ho : t.kind = .openBrace
    · rw [openBlocks_open ho] at h ⊢
      exact ih h
    · by_cases hc : t.kind = .closeBrace
      · cases d with
        | zero =>
          rw [openBlocks_zero_close hc] at h
          cases h
        | succ d =>
          rw [openBlocks_close hc] at h ⊢
          exact ih h
      · rw [openBlocks_other ho hc] at h ⊢
        exact ih h

/-- Where the count stops early, nothing is open any more, and a closing
brace comes. -/
theorem exists_of_openBlocks_eq_error {f : Fault} (h : openBlocks d ts = .error f) :
    ∃ before c after, ts = before ++ c :: after ∧ c.kind = .closeBrace
      ∧ openBlocks d before = .ok 0 ∧ f = ⟨.strayCloseBrace, c.offset⟩ := by
  induction ts generalizing d with
  | nil => cases h
  | cons t ts ih =>
    by_cases ho : t.kind = .openBrace
    · rw [openBlocks_open ho] at h
      obtain ⟨before, c, after, rfl, hc, hcount, hf⟩ := ih h
      exact ⟨t :: before, c, after, rfl, hc, by rwa [openBlocks_open ho], hf⟩
    · by_cases hc : t.kind = .closeBrace
      · cases d with
        | zero =>
          rw [openBlocks_zero_close hc] at h
          cases h
          exact ⟨[], t, ts, rfl, hc, rfl, rfl⟩
        | succ d =>
          rw [openBlocks_close hc] at h
          obtain ⟨before, c, after, rfl, hc', hcount, hf⟩ := ih h
          exact ⟨t :: before, c, after, rfl, hc', by rwa [openBlocks_close hc], hf⟩
      · rw [openBlocks_other ho hc] at h
        obtain ⟨before, c, after, rfl, hc', hcount, hf⟩ := ih h
        exact ⟨t :: before, c, after, rfl, hc', by rwa [openBlocks_other ho hc], hf⟩

theorem openBlocks_eq_zero_iff : openBlocks 0 ts = .ok 0 ↔ Pairs ts := by
  rw [openBlocks_eq_ok_iff]
  simp only [Nat.zero_add, Nat.add_zero]
  exact ⟨fun h => ⟨h.1, h.2⟩, fun h => ⟨h.prefixes, h.total⟩⟩

/-- The count from no open block stops at the first closing brace that
makes a prefix close more than it opens. -/
theorem openBlocks_eq_error_iff {f : Fault} :
    openBlocks 0 ts = .error f
      ↔ ∃ before c after, ts = before ++ c :: after ∧ c.kind = .closeBrace
          ∧ Pairs before ∧ f = ⟨.strayCloseBrace, c.offset⟩ := by
  simp only [← openBlocks_eq_zero_iff]
  constructor
  · exact exists_of_openBlocks_eq_error
  · rintro ⟨before, c, after, rfl, hc, hcount, rfl⟩
    rw [openBlocks_append_of_ok hcount, openBlocks_zero_close hc]

/-- The count stops early if some prefix closes more than it opens. -/
theorem exists_error_iff_prefix :
    (∃ p, openBlocks 0 ts = .error ⟨.strayCloseBrace, p⟩)
      ↔ ∃ pre, pre <+: ts ∧ opens pre < closes pre := by
  constructor
  · rintro ⟨p, h⟩
    obtain ⟨before, c, after, rfl, hc, hpairs, -⟩ := openBlocks_eq_error_iff.1 h
    refine ⟨before ++ [c], ⟨after, by simp⟩, ?_⟩
    have htotal := hpairs.total
    unfold opens closes at htotal ⊢
    simp [hc, htotal]
  · rintro ⟨pre, hpre, hlt⟩
    cases hcount : openBlocks 0 ts with
    | ok n =>
      have hle := (openBlocks_eq_ok_iff.1 hcount).1 pre hpre
      omega
    | error f =>
      obtain ⟨before, c, after, -, -, -, rfl⟩ := openBlocks_eq_error_iff.1 hcount
      exact ⟨_, rfl⟩

-- ============================================================ the check

theorem check_ok_iff {tokens : Stream} : check tokens = .ok () ↔ Pairs tokens.toList := by
  rw [← openBlocks_eq_zero_iff]
  unfold check
  cases openBlocks 0 tokens.toList with
  | error f => simp
  | ok n => cases n <;> simp

theorem check_stray_iff {tokens : Stream} {p : Nat} :
    check tokens = .error ⟨.strayCloseBrace, p⟩
      ↔ openBlocks 0 tokens.toList = .error ⟨.strayCloseBrace, p⟩ := by
  unfold check
  cases openBlocks 0 tokens.toList with
  | error f => simp
  | ok n => cases n <;> simp

theorem check_unclosed_iff {tokens : Stream} {n p : Nat} :
    check tokens = .error ⟨.unclosedBlock n, p⟩
      ↔ openBlocks 0 tokens.toList = .ok n ∧ 0 < n ∧ p = tokens.final.offset := by
  unfold check
  cases hcount : openBlocks 0 tokens.toList with
  | error f =>
    obtain ⟨before, c, after, -, -, -, rfl⟩ := openBlocks_eq_error_iff.1 hcount
    simp
  | ok m =>
    cases m with
    | zero =>
      simp
      omega
    | succ m =>
      simp
      omega

end Balance

-- =========================================================== on the walk

/-- Whether the cause is about braces that do not pair up. -/
def Cause.isOfBraces : Cause → Bool
  | .unclosedBlock _ | .strayCloseBrace => true
  | _ => false

theorem Cause.not_isOfBraces {c : Cause} (h : c.isOfHeader = true) : c.isOfBraces = false := by
  cases c <;> first | rfl | cases h

theorem Balance.isOfBraces_of_check {tokens : Stream} {f : Fault}
    (h : check tokens = .error f) : f.cause.isOfBraces = true := by
  unfold check at h
  split at h
  · next hcount =>
    obtain ⟨before, c, after, -, -, -, rfl⟩ := openBlocks_eq_error_iff.1 hcount
    cases h
    rfl
  · cases h
  · cases h
    rfl

namespace Program

variable {tokens : Stream}

/-- Behind `main()` the braces still pair up. -/
theorem openBlocks_inside (hpairs : Balance.Pairs tokens.toList)
    (hk : tokens.head.kind = .main) :
    Balance.openBlocks 0 (inside tokens).ahead.toList = .ok 0 := by
  obtain ⟨hbody, hfinal⟩ := Stream.body_eq_cons (s := tokens) (by simp [hk])
  have hcount := Balance.openBlocks_eq_zero_iff.2 hpairs
  unfold Stream.toList at hcount ⊢
  rw [hbody, hfinal, List.cons_append, Balance.openBlocks_other (by simp [hk]) (by simp [hk])]
    at hcount
  exact hcount

/-- The walk over the block of a program whose braces pair up never finds a
fault about braces. -/
theorem not_isOfBraces_of_step (hend : ∀ t ∈ tokens.body, t.kind ≠ .endOfInput)
    (hpairs : Balance.Pairs tokens.toList) (hk : tokens.head.kind = .main)
    {seen : List Token} {stop : Walker} {g : Goal} {later : List Goal}
    (hpath : Walker.Path (inside tokens) [.handle .block] seen stop (g :: later)) {f : Fault}
    (hstep : stop.step g = .error f) : f.cause.isOfBraces = false := by
  have hinside := inside_stands tokens
  have hstop := hpath.stands hinside
  obtain ⟨-, hrefuses⟩ :=
    Walker.refuses_of_step hstop.table (hstop.waits g (.head _)) hstep
  -- the goal that waits for a closing brace means that a block is open
  have hopen : g = .body → stop.depth ≠ 0 := by
    rintro rfl
    rw [hstop.depth, List.count_cons_self]
    exact Nat.succ_ne_zero _
  generalize hcause : f.cause = cause at hrefuses
  cases hrefuses with
  | block | statement | parentheses => rfl
  | header _ hc _ hcheck =>
    exact Cause.not_isOfBraces (Handler.isOfHeader_of_check hc hcheck)
  | stray _ hd => exact absurd hd (hopen rfl)
  | unclosed hcurrent =>
    -- nothing is ahead but the end of the input, so no block is open
    refine absurd ?_ (hopen rfl)
    have hcount := hpath.openBlocks hinside stop.ahead.toList
    rw [← hpath.toList_eq hinside] at hcount
    rw [openBlocks_inside hpairs hk] at hcount
    unfold Stream.toList at hcount
    rw [body_eq_nil_of_path hend hk hpath hcurrent, List.nil_append,
      Balance.openBlocks_other (by simp [stop.ahead.final_kind])
        (by simp [stop.ahead.final_kind])] at hcount
    exact (Except.ok.inj hcount).symm

/-- A fault about braces is found by the balance of the whole stream. -/
theorem parse_brace_fault_iff (hend : ∀ t ∈ tokens.body, t.kind ≠ .endOfInput) {f : Fault}
    (hf : f.cause.isOfBraces = true) :
    parse tokens = .error f ↔ Balance.check tokens = .error f := by
  refine ⟨fun h => ?_, parse_of_balance_error⟩
  rcases parse_eq_error h with h | ⟨hbalance, hstops⟩
  · exact h
  · cases hstops with
    | main _ _ hcause =>
      rw [hcause] at hf
      cases hf
    | block hk hpath hstep =>
      have hpairs := Balance.check_ok_iff.1 hbalance
      rw [not_isOfBraces_of_step hend hpairs hk hpath hstep] at hf
      cases hf
    | behind _ _ _ _ hcause =>
      rw [hcause] at hf
      cases hf

end Program

/-- Where the only end of input is the last token, faults about braces mean
that the braces do not pair up. A closing brace is stray if it is the first
to close more than is open; a block is left open if no brace is stray and
more blocks are opened than closed. Of a stream whose braces do not pair up
no other fault is found, and the walk over one whose braces do finds no such
fault and ends outside every block. -/
theorem Program.brace_faults (tokens : Stream)
    (hend : ∀ t ∈ tokens.body, t.kind ≠ .endOfInput) :
    ((∃ p, Program.parse tokens = .error ⟨.strayCloseBrace, p⟩)
        ↔ ∃ pre, pre <+: tokens.toList ∧ Balance.opens pre < Balance.closes pre)
      ∧ (∀ p, Program.parse tokens = .error ⟨.strayCloseBrace, p⟩
          ↔ ∃ before c after, tokens.toList = before ++ c :: after
              ∧ c.kind = .closeBrace ∧ Balance.Pairs before ∧ p = c.offset)
      ∧ (∀ n p, Program.parse tokens = .error ⟨.unclosedBlock n, p⟩
          ↔ (∀ pre, pre <+: tokens.toList → Balance.closes pre ≤ Balance.opens pre)
              ∧ Balance.opens tokens.toList = Balance.closes tokens.toList + n
              ∧ 0 < n ∧ p = tokens.final.offset)
      ∧ (¬ Balance.Pairs tokens.toList →
          ∃ f, Program.parse tokens = .error f ∧ f.cause.isOfBraces = true)
      ∧ (Balance.Pairs tokens.toList → tokens.head.kind = .main → ∀ result stop,
          (Program.inside tokens).run [.handle .block] = (result, stop) →
            (∀ f, result = .error f → f.cause.isOfBraces = false)
              ∧ (result = .ok () → stop.depth = 0)) := by
  have hstray : ∀ p, Program.parse tokens = .error ⟨.strayCloseBrace, p⟩
      ↔ Balance.openBlocks 0 tokens.toList = .error ⟨.strayCloseBrace, p⟩ := fun p =>
    (Program.parse_brace_fault_iff hend rfl).trans Balance.check_stray_iff
  refine ⟨?_, fun p => ?_, fun n p => ?_, fun hpairs => ?_, fun hpairs hk result stop hrun => ?_⟩
  · simp only [hstray]
    exact Balance.exists_error_iff_prefix
  · rw [hstray, Balance.openBlocks_eq_error_iff]
    simp only [Fault.mk.injEq, true_and]
  · rw [Program.parse_brace_fault_iff hend rfl, Balance.check_unclosed_iff,
      Balance.openBlocks_eq_ok_iff]
    simp only [Nat.zero_add, and_assoc]
  · cases hcheck : Balance.check tokens with
    | ok _ => exact absurd (Balance.check_ok_iff.1 hcheck) hpairs
    | error f =>
      exact ⟨f, Program.parse_of_balance_error hcheck, Balance.isOfBraces_of_check hcheck⟩
  · have hinside := Program.inside_stands tokens
    obtain ⟨seen, rest, hpath, ⟨rfl, rfl⟩ | ⟨f, g, later, rfl, rfl, hstep⟩⟩ :=
      Walker.exists_path hinside hrun
    · refine ⟨fun f h => ?_, fun _ => (hpath.stands hinside).depth⟩
      cases h
    · refine ⟨fun f' h => ?_, fun h => ?_⟩
      · cases h
        exact Program.not_isOfBraces_of_step hend hpairs hk hpath hstep
      · cases h

/-- A brace closed before it is opened, a block left open, and a block that
is neither. -/
theorem Program.brace_faults_of_two_braces :
    (∀ t ∈ [Token.reading .main "main()" 0, .reading .closeBrace "\x7d" 6,
        .reading .openBrace "\x7b" 7], t.kind ≠ .endOfInput)
      ∧ Program.parse ⟨[.reading .main "main()" 0, .reading .closeBrace "\x7d" 6,
          .reading .openBrace "\x7b" 7], .endOfInput 8, rfl⟩
        = .error ⟨.strayCloseBrace, 6⟩
      ∧ Program.parse ⟨[.reading .main "main()" 0, .reading .openBrace "\x7b" 6],
          .endOfInput 7, rfl⟩ = .error ⟨.unclosedBlock 1, 7⟩
      ∧ ∀ f, ((Program.inside ⟨[.reading .main "main()" 0, .reading .openBrace "\x7b" 6,
          .reading .closeBrace "\x7d" 7], .endOfInput 8, rfl⟩).run [.handle .block]).1
            = .error f → f.cause.isOfBraces = false := by
  have hstray : ∀ t ∈ [Token.reading .main "main()" 0, .reading .closeBrace "\x7d" 6,
      .reading .openBrace "\x7b" 7], t.kind ≠ .endOfInput := by decide
  have hopen : ∀ t ∈ [Token.reading .main "main()" 0, .reading .openBrace "\x7b" 6],
      t.kind ≠ .endOfInput := by decide
  have hblock : ∀ t ∈ [Token.reading .main "main()" 0, .reading .openBrace "\x7b" 6,
      .reading .closeBrace "\x7d" 7], t.kind ≠ .endOfInput := by decide
  have hmain : Balance.Pairs [Token.reading .main "main()" 0] :=
    Balance.openBlocks_eq_zero_iff.1 rfl
  have hpairs : Balance.Pairs (Stream.toList ⟨[.reading .main "main()" 0,
      .reading .openBrace "\x7b" 6, .reading .closeBrace "\x7d" 7], .endOfInput 8, rfl⟩) :=
    Balance.openBlocks_eq_zero_iff.1 rfl
  have hcount : Balance.openBlocks 0 [.reading .main "main()" 0,
      .reading .openBrace "\x7b" 6, .endOfInput 7] = .ok 1 := rfl
  have hnone := (Balance.openBlocks_eq_ok_iff.1 hcount).1
  simp only [Nat.zero_add] at hnone
  refine ⟨hstray, ?_, ?_, ?_⟩
  · exact ((Program.brace_faults _ hstray).2.1 6).2
      ⟨[.reading .main "main()" 0], _, _, rfl, rfl, hmain, rfl⟩
  · exact ((Program.brace_faults _ hopen).2.2.1 1 7).2 ⟨hnone, rfl, by decide, rfl⟩
  · exact ((Program.brace_faults _ hblock).2.2.2.2 hpairs rfl _ _ rfl).1

end Aula
