/-
Comments mean nothing where a statement may begin, and may stand nowhere
else.

A program stays a program without its comments (`Derives.code`), and none
of them stands directly before a token that no statement can be followed
by: `main()`, the brace that opens a block, a `No`, and the end of the
input (`Derives.isChain`). Nothing more is to be said about comments.
Tokens of which both hold are a program (`derives_program_iff`), for each
comment can be put back into the place it was dropped from: it becomes a
statement of its own among the statements around it.

So the place of a comment matters only for the pair that it makes with the
token behind it, and one comment more or less makes or breaks one such
pair.
-/
import Aula.Proofs.Program.Parsing
import Mathlib.Data.List.Chain
import Mathlib.Data.List.InsertIdx

namespace Aula

-- ======================================================= code and comments

/-- The tokens that are not comments. -/
def code (ts : List Token) : List Token := ts.filter (·.kind ≠ .comment)

/-- The kinds whose tokens no statement is directly followed by, and so no
comment either. -/
def Kind.barred : List Kind := [.main, .openBrace, .otherwise, .endOfInput]

/-- The token may stand directly before another one: only for a comment
does it matter which. -/
def Token.MayPrecede (t u : Token) : Prop := t.kind = .comment → u.kind ∉ Kind.barred

variable {t u c : Token} {ts us vs cs : List Token}

theorem code_append : code (ts ++ us) = code ts ++ code us := List.filter_append ..

theorem code_cons_of_ne (ht : t.kind ≠ .comment) : code (t :: ts) = t :: code ts :=
  List.filter_cons_of_pos (by simpa using ht)

theorem code_cons_of_comment (hc : c.kind = .comment) : code (c :: ts) = code ts :=
  List.filter_cons_of_neg (by simpa using hc)

theorem code_eq_nil_iff : code cs = [] ↔ ∀ c ∈ cs, c.kind = .comment := by
  simp [code, List.filter_eq_nil_iff]

/-- Where code begins with a token, so do the tokens it is the code of,
behind comments. -/
theorem exists_of_code_eq_cons (h : code ts = t :: us) :
    ∃ cs rest, ts = cs ++ t :: rest ∧ code cs = [] ∧ code rest = us := by
  obtain ⟨cs, rest, hts, hcs, -, hrest⟩ := List.filter_eq_cons_iff.1 h
  exact ⟨cs, rest, hts, code_eq_nil_iff.2 fun c hc => by simpa using hcs c hc, hrest⟩

/-- Where code goes on with a token, so do the tokens it is the code of; the
comments before that token are left to what precedes it. -/
theorem exists_of_code_eq_append_cons (h : code ts = us ++ t :: vs) :
    ∃ front rest, ts = front ++ t :: rest ∧ code front = us ∧ code rest = vs := by
  obtain ⟨front, behind, rfl, hfront, hbehind⟩ := List.filter_eq_append_iff.1 h
  obtain ⟨cs, rest, rfl, hcs, hrest⟩ := exists_of_code_eq_cons hbehind
  refine ⟨front ++ cs, rest, (List.append_assoc ..).symm, ?_, hrest⟩
  rw [code_append, hcs, List.append_nil]
  exact hfront

namespace Token.MayPrecede

theorem of_ne (h : t.kind ≠ .comment) : t.MayPrecede u := fun hc => absurd hc h

theorem of_not_barred (h : u.kind ∉ Kind.barred) : t.MayPrecede u := fun _ => h

theorem isChain_cons (ht : t.kind ≠ .comment) (h : ts.IsChain MayPrecede) :
    (t :: ts).IsChain MayPrecede :=
  h.cons fun _ _ => .of_ne ht

/-- No comments stand directly before a barred token. -/
theorem eq_nil_of_barred (h : (cs ++ t :: ts).IsChain MayPrecede) (hcs : code cs = [])
    (ht : t.kind ∈ Kind.barred) : cs = [] := by
  rcases List.eq_nil_or_concat' cs with rfl | ⟨front, c, rfl⟩
  · rfl
  · rw [List.append_assoc, List.singleton_append, List.isChain_append_cons_cons] at h
    have hc : c.kind = .comment := code_eq_nil_iff.1 hcs c (by simp)
    exact absurd ht (h.2.1 hc)

/-- One comment more is one more pair of a comment and the token behind
it. -/
theorem isChain_insert (hc : c.kind = .comment) :
    (ts ++ c :: t :: us).IsChain MayPrecede
      ↔ (ts ++ t :: us).IsChain MayPrecede ∧ t.kind ∉ Kind.barred := by
  have hbefore : ∀ u : Token, u.MayPrecede c := fun u => .of_not_barred (by simp [hc, Kind.barred])
  rw [List.isChain_append_cons_cons, List.isChain_append, List.isChain_append]
  constructor
  · intro h
    obtain ⟨⟨hts, -, -⟩, hct, hus⟩ := h
    refine ⟨⟨hts, hus, fun u _ y hy => ?_⟩, hct hc⟩
    cases hy
    exact .of_not_barred (hct hc)
  · intro h
    obtain ⟨⟨hts, hus, -⟩, ht⟩ := h
    refine ⟨⟨hts, .singleton c, fun u _ y hy => ?_⟩, .of_not_barred ht, hus⟩
    cases hy
    exact hbefore u

end Token.MayPrecede

-- ==================================================== dropping comments

/-- What a phrase is without its comments. A statement may be a comment, and
so leave none. -/
def Phrase.several : Phrase → Phrase
  | .statement => .statements
  | p => p

namespace Derives

open Token (MayPrecede)

variable {p : Phrase} {s ss b : List Token}

theorem singleton (h : Derives .statement s) : Derives .statements s := by
  have hmore := Derives.more h .none
  rwa [List.append_nil] at hmore

theorem append (hs : Derives .statements ss) (hus : Derives .statements us) :
    Derives .statements (ss ++ us) := by
  generalize hp : Phrase.statements = p at hs
  induction hs with
  | none => exact hus
  | more hs hss ihs ihss =>
    rw [List.append_assoc]
    exact .more hs (ihss hp)
  | program | block | plain | output | condition | conditionOtherwise | loop => cases hp

/-- A phrase stays one without its comments. -/
theorem code (h : Derives p ts) : Derives p.several (code ts) := by
  induction h with
  | program hm hb ih =>
    rw [code_cons_of_ne (by simp [hm])]
    exact .program hm ih
  | block ho hs hc ih =>
    rw [code_cons_of_ne (by simp [ho]), code_append, code_cons_of_ne (by simp [hc])]
    exact .block ho ih hc
  | none => exact .none
  | more hs hss ihs ihss =>
    rw [code_append]
    exact ihs.append ihss
  | @plain t ht =>
    by_cases hc : t.kind = .comment
    · rw [code_cons_of_comment hc]
      exact .none
    · rw [code_cons_of_ne hc]
      exact .singleton (.plain ht)
  | output ht ha =>
    rw [code_cons_of_ne (by simp [ht])]
    exact .singleton (.output ht ha)
  | condition ht ha hb ih =>
    rw [code_cons_of_ne (by simp [ht])]
    exact .singleton (.condition ht ha ih)
  | conditionOtherwise ht ha hb ho hd ihb ihd =>
    rw [code_cons_of_ne (by simp [ht]), code_append, code_cons_of_ne (by simp [ho])]
    exact .singleton (.conditionOtherwise ht ha ihb ho ihd)
  | loop ht ha hb ih =>
    rw [code_cons_of_ne (by simp [ht])]
    exact .singleton (.loop ht ha ih)

-- =============================================== where comments may stand

/-- Statements do not begin with a barred token. -/
theorem head_not_barred (h : Derives .statements ss) : ∀ u ∈ ss.head?, u.kind ∉ Kind.barred := by
  have hlanguage : ∀ k ∈ Kind.barred, Table.language k = .none := by decide
  cases h with
  | none => simp
  | more hs hss =>
    obtain ⟨t, s, rfl⟩ := List.exists_cons_of_ne_nil (derives_statement_ne_nil hs)
    obtain ⟨handler, hk, -⟩ := derives_statement_iff.1 hs
    intro u hu hbarred
    cases hu
    rw [hlanguage _ hbarred] at hk
    cases hk

/-- A block ends with a closing brace. -/
theorem block_eq_concat (h : Derives .block b) :
    ∃ front e, b = front ++ [e] ∧ e.kind = .closeBrace := by
  cases h with
  | @block o e ss ho hs he => exact ⟨o :: ss, e, rfl, he⟩

/-- What ends with a block may stand before any token. -/
theorem mayPrecede_of_block (h : Derives .block b) (before : List Token) :
    ∀ t ∈ (before ++ b).getLast?, t.MayPrecede u := by
  obtain ⟨front, e, rfl, he⟩ := h.block_eq_concat
  intro t ht
  rw [← List.append_assoc, List.getLast?_concat] at ht
  cases ht
  exact .of_ne (by simp [he])

/-- In a phrase, no comment stands directly before a barred token. -/
theorem isChain (h : Derives p ts) : ts.IsChain MayPrecede := by
  induction h with
  | program hm hb ih => exact MayPrecede.isChain_cons (by simp [hm]) ih
  | @block o e ss ho hs he ih =>
    refine MayPrecede.isChain_cons (by simp [ho]) (ih.append (.singleton e) fun t _ u hu => ?_)
    cases hu
    exact .of_not_barred (by simp [he, Kind.barred])
  | none => exact .nil
  | more hs hss ihs ihss =>
    exact ihs.append ihss fun t _ u hu => .of_not_barred (hss.head_not_barred u hu)
  | plain ht => exact .singleton _
  | output ht ha => exact .singleton _
  | condition ht ha hb ih => exact MayPrecede.isChain_cons (by simp [ht]) ih
  | conditionOtherwise ht ha hb ho hd ihb ihd =>
    refine MayPrecede.isChain_cons (by simp [ht]) (ihb.append ?_ fun t htlast u _ => ?_)
    · exact MayPrecede.isChain_cons (by simp [ho]) ihd
    · exact hb.mayPrecede_of_block [] t htlast
  | loop ht ha hb ih => exact MayPrecede.isChain_cons (by simp [ht]) ih

-- ============================================== giving the comments back

/-- Comments are statements. -/
theorem of_comments (hcs : Aula.code cs = []) : Derives .statements cs := by
  have hcomments := code_eq_nil_iff.1 hcs
  clear hcs
  induction cs with
  | nil => exact .none
  | cons c cs ih =>
    obtain ⟨hc, hcs⟩ := List.forall_mem_cons.1 hcomments
    exact .more (.plain (by rw [hc]; decide)) (ih hcs)

/-- A statement behind comments is several. -/
theorem behind_comments (hcs : Aula.code cs = []) (h : Derives .statement s) :
    Derives .statements (cs ++ s) :=
  (of_comments hcs).append h.singleton

/-- Tokens whose code is a phrase, and whose comments all stand where they
may, are that phrase and comments behind it. -/
theorem exists_of_code (h : Derives p us) (hcode : Aula.code ts = us)
    (hplaced : ts.IsChain MayPrecede) :
    ∃ vs cs, ts = vs ++ cs ∧ Derives p.several vs ∧ Aula.code cs = [] := by
  induction h generalizing ts with
  | program hm hb ih =>
    obtain ⟨cs, rest, rfl, hcs, hrest⟩ := exists_of_code_eq_cons hcode
    obtain rfl := MayPrecede.eq_nil_of_barred hplaced hcs (by simp [hm, Kind.barred])
    obtain ⟨b, tail, rfl, hb, htail⟩ := ih hrest hplaced.tail
    exact ⟨_ :: b, tail, rfl, .program hm hb, htail⟩
  | block ho hs he ih =>
    obtain ⟨cs, rest, rfl, hcs, hrest⟩ := exists_of_code_eq_cons hcode
    obtain rfl := MayPrecede.eq_nil_of_barred hplaced hcs (by simp [ho, Kind.barred])
    obtain ⟨inner, tail, rfl, hinner, htail⟩ := exists_of_code_eq_append_cons hrest
    obtain ⟨ss, last, rfl, hss, hlast⟩ := ih hinner hplaced.tail.left_of_append
    exact ⟨_ :: ((ss ++ last) ++ [_]), tail, by simp,
      .block ho (hss.append (of_comments hlast)) he, htail⟩
  | none => exact ⟨[], ts, rfl, .none, hcode⟩
  | more hs hss ihs ihss =>
    obtain ⟨as, bs, rfl, has, hbs⟩ := List.filter_eq_append_iff.1 hcode
    obtain ⟨s, between, rfl, hs, hbetween⟩ := ihs has hplaced.left_of_append
    obtain ⟨ss, tail, rfl, hss, htail⟩ := ihss hbs hplaced.right_of_append
    exact ⟨(s ++ between) ++ ss, tail, by simp,
      (hs.append (of_comments hbetween)).append hss, htail⟩
  | plain ht =>
    obtain ⟨cs, tail, rfl, hcs, htail⟩ := exists_of_code_eq_cons hcode
    exact ⟨cs ++ [_], tail, by simp, behind_comments hcs (.plain ht), htail⟩
  | output ht ha =>
    obtain ⟨cs, tail, rfl, hcs, htail⟩ := exists_of_code_eq_cons hcode
    exact ⟨cs ++ [_], tail, by simp, behind_comments hcs (.output ht ha), htail⟩
  | condition ht ha hb ih =>
    obtain ⟨cs, rest, rfl, hcs, hrest⟩ := exists_of_code_eq_cons hcode
    obtain ⟨b, tail, rfl, hb, htail⟩ := ih hrest hplaced.right_of_append.tail
    exact ⟨cs ++ _ :: b, tail, by simp, behind_comments hcs (.condition ht ha hb), htail⟩
  | conditionOtherwise ht ha hb ho hd ihb ihd =>
    obtain ⟨cs, rest, rfl, hcs, hrest⟩ := exists_of_code_eq_cons hcode
    have hrestPlaced := hplaced.right_of_append.tail
    obtain ⟨first, second, rfl, hfirst, hsecond⟩ := exists_of_code_eq_append_cons hrest
    obtain ⟨b, between, rfl, hb, hbetween⟩ := ihb hfirst hrestPlaced.left_of_append
    -- the comments behind the first block would stand before the `No`
    rw [List.append_assoc] at hrestPlaced
    obtain rfl := MayPrecede.eq_nil_of_barred hrestPlaced.right_of_append hbetween
      (by simp [ho, Kind.barred])
    obtain ⟨d, tail, rfl, hd, htail⟩ := ihd hsecond hrestPlaced.right_of_append.tail
    exact ⟨cs ++ _ :: (b ++ _ :: d), tail, by simp,
      behind_comments hcs (.conditionOtherwise ht ha hb ho hd), htail⟩
  | loop ht ha hb ih =>
    obtain ⟨cs, rest, rfl, hcs, hrest⟩ := exists_of_code_eq_cons hcode
    obtain ⟨b, tail, rfl, hb, htail⟩ := ih hrest hplaced.right_of_append.tail
    exact ⟨cs ++ _ :: b, tail, by simp, behind_comments hcs (.loop ht ha hb), htail⟩

end Derives

open Token (MayPrecede)

/-- Tokens before an end of input are a program if and only if their code is
one, and none of their comments stands directly before a barred token. -/
theorem derives_program_iff {final : Token} (hfinal : final.kind = .endOfInput) :
    Derives .program ts
      ↔ Derives .program (code ts) ∧ (ts ++ [final]).IsChain MayPrecede := by
  constructor
  · intro h
    refine ⟨h.code, h.isChain.append (.singleton final) fun t ht u _ => ?_⟩
    cases h with
    | @program m b hm hb => exact hb.mayPrecede_of_block [m] t ht
  · intro h
    obtain ⟨hcode, hplaced⟩ := h
    obtain ⟨vs, cs, rfl, hvs, hcs⟩ := hcode.exists_of_code rfl hplaced.left_of_append
    rw [List.append_assoc] at hplaced
    obtain rfl := MayPrecede.eq_nil_of_barred hplaced.right_of_append hcs
      (by simp [hfinal, Kind.barred])
    rwa [List.append_nil]

namespace Program

variable {tokens : Stream}

/-- What makes a stream a program is its code, and what stands directly
behind each of its comments. -/
theorem parse_iff_code (hend : ∀ t ∈ tokens.body, t.kind ≠ .endOfInput) :
    parse tokens = .ok ()
      ↔ Derives .program (code tokens.body) ∧ tokens.toList.IsChain MayPrecede := by
  rw [parse_iff_derives hend]
  exact derives_program_iff tokens.final_kind

/-- One comment more before a token keeps a program if and only if the token
is not barred. -/
theorem parse_insertIdx_iff (hend : ∀ t ∈ tokens.body, t.kind ≠ .endOfInput) {k : Nat}
    (ht : tokens.toList[k]? = some t) (hc : c.kind = .comment) :
    parse { tokens with body := tokens.body.insertIdx k c } = .ok ()
      ↔ parse tokens = .ok () ∧ t.kind ∉ Kind.barred := by
  have hle : k ≤ tokens.body.length := by
    have hlt := (List.getElem?_eq_some_iff.1 ht).1
    simpa [Stream.toList, Nat.lt_succ_iff] using hlt
  have hend' : ∀ u ∈ tokens.body.insertIdx k c, u.kind ≠ .endOfInput := by
    intro u hu
    rcases (List.mem_insertIdx hle).1 hu with rfl | hu
    · simp [hc]
    · exact hend u hu
  rw [parse_iff_code hend, parse_iff_code hend']
  obtain ⟨before, after, hbody, rfl, hinsert⟩ := List.exists_of_modifyTailIdx (List.cons c) hle
  change tokens.body.insertIdx before.length c = before ++ c :: after at hinsert
  -- the token is the first behind the place, be it the last one of all
  obtain ⟨rest, hrest⟩ : ∃ rest, after ++ [tokens.final] = t :: rest := by
    rw [Stream.toList, hbody, List.append_assoc, List.getElem?_append_right (Nat.le_refl _),
      Nat.sub_self] at ht
    exact List.head?_eq_some_iff.1 (List.head?_eq_getElem?.trans ht)
  have hcode : code (before ++ c :: after) = code (before ++ after) := by
    rw [code_append, code_cons_of_comment hc, ← code_append]
  have hlist : tokens.toList = before ++ t :: rest := by
    rw [Stream.toList, hbody, List.append_assoc, hrest]
  have hlist' : tokens.body.insertIdx before.length c ++ [tokens.final]
      = before ++ c :: t :: rest := by
    rw [hinsert, List.append_assoc, List.cons_append, hrest]
  change Derives .program (code (tokens.body.insertIdx _ c))
    ∧ (tokens.body.insertIdx _ c ++ [tokens.final]).IsChain MayPrecede ↔ _
  rw [hlist, hlist', MayPrecede.isChain_insert hc, hinsert, hbody, hcode, and_assoc]

/-- A program stays one without a comment: to put the comment back is to
insert it. -/
theorem parse_eraseIdx (hend : ∀ t ∈ tokens.body, t.kind ≠ .endOfInput)
    (h : parse tokens = .ok ()) {k : Nat} (hk : tokens.toList[k]? = some c)
    (hc : c.kind = .comment) :
    parse { tokens with body := tokens.body.eraseIdx k } = .ok () := by
  have hbody : tokens.body[k]? = some c := by
    rcases Nat.lt_or_ge k tokens.body.length with hlt | hge
    · rwa [Stream.toList, List.getElem?_append_left hlt] at hk
    · rw [Stream.toList, List.getElem?_append_right hge] at hk
      have hlast := List.mem_singleton.1 (List.mem_of_getElem? hk)
      rw [hlast, tokens.final_kind] at hc
      cases hc
  obtain ⟨hlt, hget⟩ := List.getElem?_eq_some_iff.1 hbody
  have hrestored : (tokens.body.eraseIdx k).insertIdx k c = tokens.body := by
    rw [← hget]
    exact List.insertIdx_eraseIdx_getElem hlt
  let dropped : Stream := { tokens with body := tokens.body.eraseIdx k }
  have hkeep : ∀ t ∈ dropped.body, t.kind ≠ .endOfInput := fun t ht =>
    hend t (List.mem_of_mem_eraseIdx ht)
  obtain ⟨t, ht⟩ : ∃ t, dropped.toList[k]? = some t := by
    refine ⟨_, List.getElem?_eq_getElem ?_⟩
    simp only [dropped, Stream.toList, List.length_append, List.length_singleton,
      List.length_eraseIdx_of_lt hlt]
    omega
  have hparse := (parse_insertIdx_iff hkeep ht hc).1
  rw [hrestored] at hparse
  exact (hparse h).1

end Program

/-- Of a program with no end of input but its last token, every comment may
be dropped; and a comment may be put directly before a token if and only if
that is neither `main()`, nor a brace that opens a block, nor a `No`, nor the
end of the input. -/
theorem Program.comments_transparent (tokens : Stream)
    (hend : ∀ t ∈ tokens.body, t.kind ≠ .endOfInput) (h : Program.parse tokens = .ok ()) :
    (∀ k c, tokens.toList[k]? = some c → c.kind = .comment →
        Program.parse { tokens with body := tokens.body.eraseIdx k } = .ok ())
      ∧ ∀ k t c, tokens.toList[k]? = some t → c.kind = .comment →
        (Program.parse { tokens with body := tokens.body.insertIdx k c } = .ok ()
          ↔ t.kind ∉ [Kind.main, .openBrace, .otherwise, .endOfInput]) := by
  refine ⟨fun k c hk hc => Program.parse_eraseIdx hend h hk hc, fun k t c hk hc => ?_⟩
  rw [Program.parse_insertIdx_iff hend hk hc]
  exact and_iff_right h

/-- Between the block of a condition and its `No`, a comment ends the
condition; one token earlier it belongs to the block. -/
theorem Program.comments_transparent_before_otherwise :
    let tokens : Stream := ⟨[.reading .main "main()" 0, .reading .openBrace "\x7b" 6,
      .reading .condition "Si (a)" 7, .reading .openBrace "\x7b" 13,
      .reading .comment "~c~" 14, .reading .closeBrace "\x7d" 17,
      .reading .otherwise "No" 18, .reading .openBrace "\x7b" 20,
      .reading .closeBrace "\x7d" 21, .reading .closeBrace "\x7d" 22], .endOfInput 23, rfl⟩
    (∀ t ∈ tokens.body, t.kind ≠ .endOfInput)
      ∧ Program.parse tokens = .ok ()
      ∧ Program.parse { tokens with body := tokens.body.eraseIdx 4 } = .ok ()
      ∧ Program.parse
          { tokens with body := tokens.body.insertIdx 5 (.reading .comment "~d~" 17) } = .ok ()
      ∧ Program.parse
          { tokens with body := tokens.body.insertIdx 6 (.reading .comment "~d~" 18) } ≠ .ok () := by
  intro tokens
  have hend : ∀ t ∈ tokens.body, t.kind ≠ .endOfInput := by decide
  have haccepts : (Token.reading .condition "Si (a)" 7).Accepts Condition.check :=
    ⟨['a'], by decide, by decide +kernel⟩
  have hguarded : Derives .block [.reading .openBrace "\x7b" 13, .reading .comment "~c~" 14,
      .reading .closeBrace "\x7d" 17] :=
    .block rfl (.singleton (.plain (by decide))) rfl
  have hotherwise : Derives .block [.reading .openBrace "\x7b" 20,
      .reading .closeBrace "\x7d" 21] :=
    .block rfl .none rfl
  have hprogram : Derives .program tokens.body :=
    .program rfl (.block rfl
      (.singleton (.conditionOtherwise rfl haccepts hguarded rfl hotherwise)) rfl)
  have hparse : Program.parse tokens = .ok () := (Program.parse_iff_derives hend).2 hprogram
  obtain ⟨hdrop, hput⟩ := Program.comments_transparent tokens hend hparse
  refine ⟨hend, hparse, hdrop 4 _ rfl rfl, (hput 5 _ _ rfl rfl).2 (by decide), fun h => ?_⟩
  exact (hput 6 _ _ rfl rfl).1 h (by decide)

end Aula
