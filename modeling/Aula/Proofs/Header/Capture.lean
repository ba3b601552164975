/-
Headers are delimited twice, and both ways agree.

Scanning finds where a header ends by its shape: it follows the strings
and stops at a parenthesis outside them. Checking takes what stands
between the first opening and the last closing parenthesis, whatever that
is. They agree because neither the keyword nor the blanks behind it hold
a parenthesis, and nothing behind the closing one does
(`Text.parenthesized?_append`): what scanning took for the body is what is
checked. So no header that was scanned is without parentheses.

The other way, a text that passes the check of a header has the loose
shape that scanning wants, if its strings stay on one line: strings are
scanned up to the end of their line, but checked across lines.
-/
import Aula.Proofs.Header.Accepted
import Aula.Proofs.Program.Braces
import Aula.Proofs.Program.Language
import Aula.Proofs.Scan.Single

namespace Aula

open Pattern (Word one many)

-- =============================================================== headers

/-- A statement with a text in parentheses: how it is written, and how
that text is checked. -/
structure Header where
  kind : Kind
  keyword : Text
  /-- What stands in the parentheses, as it is scanned. -/
  body : Pattern
  /-- What stands behind them. -/
  tail : Pattern
  check : Text → Except Cause Unit

namespace Header

/-- Strings, and anything else but quotes and parentheses. -/
def loose : Pattern := many (Shape.string ||| one (.noneOf "\"()"))

/-- The statements with a text in parentheses that is checked. -/
def all : List Header :=
  [⟨.output, "kiara.salida", loose, Shape.blanks ++ ";", Output.check⟩,
   ⟨.condition, "Si", loose, "", Condition.check⟩,
   ⟨.loop, "para", many (one (.noneOf "()")), "", Loop.check⟩]

/-- A header, written out. -/
def spell (h : Header) (gap body tail : Text) : Text :=
  h.keyword ++ gap ++ '(' :: (body ++ ')' :: tail)

/-- The shape of a header. -/
def shape (h : Header) : Pattern :=
  .text h.keyword ++ Shape.blanks ++ ("(" ++ h.body ++ ")") ++ h.tail

variable {h : Header}

/-- The words of a header's shape are the headers written out. -/
theorem word_shape_iff {w : Text} :
    Word h.shape w ↔ ∃ gap body tail, w = h.spell gap body tail
      ∧ (∀ c ∈ gap, isBlank c = true) ∧ Word h.body body ∧ Word h.tail tail := by
  unfold shape spell
  simp only [Pattern.word_append_iff, Pattern.word_text_iff]
  constructor
  · rintro ⟨_, tail, rfl, ⟨_, _, rfl, ⟨_, gap, rfl, rfl, hgap⟩,
      ⟨_, _, rfl, ⟨_, body, rfl, rfl, hbody⟩, rfl⟩⟩, htail⟩
    refine ⟨gap, body, tail, ?_, Rule.word_many_one_iff.1 hgap, hbody, htail⟩
    simp
  · rintro ⟨gap, body, tail, rfl, hgap, hbody, htail⟩
    have hblanks : Word Shape.blanks gap := Rule.word_many_one_iff.2 hgap
    refine ⟨_, tail, ?_, ⟨_, _, rfl, ⟨_, gap, rfl, rfl, hblanks⟩,
      ⟨_, _, rfl, ⟨_, body, rfl, rfl, hbody⟩, rfl⟩⟩, htail⟩
    simp

/-- The rule of a header has the header's words. -/
theorem word_rule_iff (hh : h ∈ all) {r : Rule} (hr : r ∈ Rule.table)
    (hkind : r.kind = some h.kind) {w : Text} : Word r.shape w ↔ Word h.shape w := by
  have houtput : ∀ r ∈ Rule.table, r.kind = some .output → r.shape
      = "kiara.salida" ++ Shape.blanks ++ Shape.parenthesized ++ Shape.blanks ++ ";" := by
    decide
  have hcondition : ∀ r ∈ Rule.table, r.kind = some .condition →
      r.shape = "Si" ++ Shape.blanks ++ Shape.parenthesized := by
    decide
  have hloop : ∀ r ∈ Rule.table, r.kind = some .loop →
      r.shape = "para" ++ Shape.blanks ++ Shape.flatParenthesized := by
    decide
  have hnil : ∀ p : Pattern, Word p w ↔ Word (p ++ ("" : Pattern)) w := by
    intro p
    simp [Pattern.word_append_iff, Pattern.word_text_iff]
  simp only [all, List.mem_cons, List.not_mem_nil, or_false] at hh
  rcases hh with rfl | rfl | rfl
  · rw [houtput r hr hkind]
    exact Pattern.word_append_assoc
  · rw [hcondition r hr hkind]
    exact hnil _
  · rw [hloop r hr hkind]
    exact hnil _

end Header

-- ====================================================== what is taken out

namespace Text

/-- Up to a character that is not in front of it. -/
theorem dropWhile_ne_append {c : Char} {s : Text} (h : c ∉ s) (t : Text) :
    (s ++ c :: t).dropWhile (· ≠ c) = c :: t := by
  have hpass : ∀ d ∈ s, decide (d ≠ c) = true := by
    intro d hd
    exact decide_eq_true fun heq => h (heq ▸ hd)
  rw [List.dropWhile_append_of_pos hpass]
  exact List.dropWhile_cons_of_neg (by simp)

/-- The text between the first opening and the last closing parenthesis is
taken out. -/
theorem parenthesized?_append {before after : Text} (hb : '(' ∉ before) (ha : ')' ∉ after)
    (body : Text) :
    parenthesized? (before ++ '(' :: (body ++ ')' :: after)) = some body.trim := by
  have hback : (body ++ ')' :: after).reverse = after.reverse ++ ')' :: body.reverse := by
    simp
  have ha' : ')' ∉ after.reverse := mt List.mem_reverse.1 ha
  -- the last closing parenthesis is the first one from behind
  unfold parenthesized?
  rw [dropWhile_ne_append hb]
  simp only [hback, dropWhile_ne_append ha', List.reverse_reverse]

end Text

namespace Header

variable {h : Header}

/-- No keyword has a parenthesis, and no end of a statement. -/
theorem all_keyword_tail : ∀ h ∈ all, '(' ∉ h.keyword
    ∧ CharClass.areApart h.tail.letters [.anyOf ")"] = true := by
  decide

/-- What is taken out of a header is what stands in its parentheses,
trimmed. -/
theorem parenthesized?_spell (hh : h ∈ all) {gap tail : Text}
    (hgap : ∀ c ∈ gap, isBlank c = true) (htail : Word h.tail tail) (body : Text) :
    Text.parenthesized? (h.spell gap body tail) = some body.trim := by
  obtain ⟨hkeyword, hapart⟩ := all_keyword_tail h hh
  refine Text.parenthesized?_append ?_ (fun hmem => ?_) body
  · rw [List.mem_append, not_or]
    refine ⟨hkeyword, fun hmem => ?_⟩
    exact Text.IsPlain.of_blank hgap _ hmem (by decide)
  · exact htail.not_mem hapart _ hmem (by decide)

end Header

-- ======================================================== what is scanned

namespace Header

variable {h : Header}

/-- A token of a header's kind is a header written out, and what is taken
out of it is what scanning took for the text in parentheses. -/
theorem exists_spell_of_tokenize (hh : h ∈ all) {source : Text} {stream : Stream}
    (hread : tokenize source = .ok stream) {t : Token} (ht : t ∈ stream.body)
    (hkind : t.kind = h.kind) :
    ∃ gap body tail, t.lexeme = h.spell gap body tail
      ∧ (∀ c ∈ gap, isBlank c = true) ∧ Word h.body body ∧ Word h.tail tail
      ∧ Text.parenthesized? t.lexeme = some body.trim := by
  obtain ⟨r, hr, hrule, hword⟩ := exists_rule_of_tokenize hread ht
  rw [hkind] at hrule
  obtain ⟨gap, body, tail, heq, hgap, hbody, htail⟩ :=
    word_shape_iff.1 ((word_rule_iff hh hr hrule).1 hword)
  refine ⟨gap, body, tail, heq, hgap, hbody, htail, ?_⟩
  rw [heq]
  exact parenthesized?_spell hh hgap htail body

/-- A header written out is read as one token. -/
theorem tokenize_spell (hh : h ∈ all) {gap body tail : Text}
    (hgap : ∀ c ∈ gap, isBlank c = true) (hbody : Word h.body body)
    (htail : Word h.tail tail) :
    tokenize (h.spell gap body tail)
      = .ok ⟨[.reading h.kind (h.spell gap body tail) 0],
          .endOfInput (h.spell gap body tail).byteSize, rfl⟩ := by
  have hrules : ∀ h ∈ all, ∃ r ∈ Rule.table, r.kind = some h.kind := by decide
  obtain ⟨r, hr, hkind⟩ := hrules h hh
  have hword : Word r.shape (h.spell gap body tail) :=
    (word_rule_iff hh hr hkind).2 (word_shape_iff.2 ⟨gap, body, tail, rfl, hgap, hbody, htail⟩)
  exact tokenize_of_word hr hkind hword

end Header

-- ======================================================= what is accepted

namespace Text

/-- The characters of a text that stand inside quotes, where `quoted` tells
whether the text begins inside them. -/
def insideQuotes : (quoted : Bool) → Text → Text
  | _, [] => []
  | quoted, c :: s =>
    if c = '"' then insideQuotes (!quoted) s
    else if quoted then c :: insideQuotes quoted s
    else insideQuotes quoted s

/-- What is inside a quoted text is inside quotes. -/
theorem insideQuotes_quoted {s : Text} (h : '"' ∉ s) (t : Text) :
    insideQuotes false ('"' :: (s ++ '"' :: t)) = s ++ insideQuotes false t := by
  have hinner : insideQuotes true (s ++ '"' :: t) = s ++ insideQuotes false t := by
    induction s with
    | nil => rfl
    | cons c s ih =>
      obtain ⟨hc, hs⟩ := List.ne_and_not_mem_of_not_mem_cons h
      rw [List.cons_append, insideQuotes, if_neg hc.symm, if_pos rfl, ih hs,
        List.cons_append]
  exact hinner

/-- Nothing else is. -/
theorem insideQuotes_cons {c : Char} (h : c ≠ '"') (t : Text) :
    insideQuotes false (c :: t) = insideQuotes false t := by
  rw [insideQuotes, if_neg h, if_neg Bool.false_ne_true]

end Text

/-- A quoted text on one line is a string. -/
theorem Operand.word_string {w : Text} (h : Word quotedText w) :
    ∃ inner, w = '"' :: (inner ++ ['"']) ∧ '"' ∉ inner
      ∧ ('\n' ∉ inner → Word Shape.string w) := by
  obtain ⟨inner, rfl, hquote⟩ := Operand.word_quotedText_iff.1 h
  refine ⟨inner, rfl, hquote, fun hline => ?_⟩
  have hstring : Word (many (one (.noneOf "\"\n"))) inner := by
    refine Rule.word_many_one_iff.2 fun c hc => CharClass.has_noneOf.2 fun hmem => ?_
    have hcases : c = '"' ∨ c = '\n' := by simpa using hmem
    rcases hcases with rfl | rfl
    · exact hquote hc
    · exact hline hc
  show Word Shape.string (['"'] ++ inner ++ ['"'])
  exact .seq (.seq (.text _) hstring) (.text _)

namespace Header

/-- Where no newline stands inside quotes, the quoted texts are strings. -/
theorem word_loose {t : Text} (h : Word (many Operand.quotedOrPlain) t)
    (hline : '\n' ∉ t.insideQuotes false) : Word loose t := by
  generalize hm : many Operand.quotedOrPlain = m at h
  induction h with
  | text | one | seq | first | second | except => cases hm
  | stop => exact .stop
  | @step p u v hu hv _ ih =>
    cases hm
    cases hu with
    | first hquoted =>
      -- its quotes close again, so what follows it is outside as before
      obtain ⟨inner, rfl, hquote, hstring⟩ := Operand.word_string hquoted
      rw [List.cons_append, List.append_assoc, List.singleton_append,
        Text.insideQuotes_quoted hquote, List.mem_append, not_or] at hline
      exact .step (.first (hstring hline.1)) (ih hline.2 rfl)
    | second hplain =>
      cases hplain with
      | @one _ c hc =>
        have hquote : c ≠ '"' := by
          rintro rfl
          exact CharClass.has_noneOf.1 hc (by decide)
        rw [List.singleton_append, Text.insideQuotes_cons hquote] at hline
        exact .step (.second (.one hc)) (ih hline rfl)

/-- A text that is accepted in the parentheses of a header is scanned there,
if its strings stay on one line. -/
theorem word_body_of_check {h : Header} (hh : h ∈ all) {t : Text}
    (hcheck : h.check t = .ok ()) (hline : '\n' ∉ t.insideQuotes false) :
    Word h.body t := by
  simp only [all, List.mem_cons, List.not_mem_nil, or_false] at hh
  rcases hh with rfl | rfl | rfl
  · exact word_loose (Output.word_of_check hcheck) hline
  · exact word_loose (Condition.word_of_check hcheck) hline
  · have hplain := Loop.isPlain_of_check hcheck
    refine Rule.word_many_one_iff.2 fun c hc => CharClass.has_noneOf.2 fun hmem => ?_
    exact hplain c hc (List.mem_cons_of_mem '"' hmem)

end Header

-- ==================================================== nothing is missing

/-- A handler that checks a text in parentheses is for one kind of header. -/
theorem Header.exists_of_check? {k : Kind} {handler : Handler}
    (hhandler : Table.language k = some handler) {check : Text → Except Cause Unit}
    (hcheck : handler.check? = some check) : ∃ h ∈ all, h.kind = k ∧ h.check = check := by
  cases k with
  | output =>
    cases hhandler
    cases hcheck
    exact ⟨_, .head _, rfl, rfl⟩
  | condition =>
    cases hhandler
    cases hcheck
    exact ⟨_, .tail _ (.head _), rfl, rfl⟩
  | loop =>
    cases hhandler
    cases hcheck
    exact ⟨_, .tail _ (.tail _ (.head _)), rfl, rfl⟩
  | intDecl | floatDecl | stringDecl | boolDecl | genericDecl | listDecl | assignment
  | input | comment =>
    cases hhandler
    cases hcheck
  | main | openBrace | closeBrace | otherwise | endOfInput => cases hhandler

namespace Program

/-- Parsing misses no text in parentheses if every header in the stream has
one. -/
theorem ne_missingParentheses_of_parse {tokens : Stream}
    (hheaders : ∀ t ∈ tokens.body, ∀ h ∈ Header.all, t.kind = h.kind →
      Text.parenthesized? t.lexeme ≠ none)
    {f : Fault} (h : parse tokens = .error f) (lexeme : Text) :
    f.cause ≠ .missingParentheses lexeme := by
  intro hcause
  rcases parse_eq_error h with hbraces | ⟨-, hstops⟩
  · have hisBraces := Balance.isOfBraces_of_check hbraces
    rw [hcause] at hisBraces
    cases hisBraces
  · cases hstops with
    | main hk hposition hmain =>
      rw [hcause] at hmain
      cases hmain
    | behind hk hpath hne hposition hbehind =>
      rw [hcause] at hbehind
      cases hbehind
    | @block seen stop g later hk hpath hstep =>
      have hstands := hpath.stands (inside_stands tokens)
      obtain ⟨-, hrefuses⟩ := Walker.refuses_of_step hstands.table
        (hstands.waits _ (.head _)) hstep
      rw [hcause] at hrefuses
      cases hrefuses with
      | @parentheses handler check hhandler hcheck hnone =>
        rw [hstands.table] at hhandler
        have hne : stop.current.kind ≠ .endOfInput := by
          intro hend
          rw [hend] at hhandler
          cases hhandler
        obtain ⟨header, hall, hkind, -⟩ := Header.exists_of_check? hhandler hcheck
        exact hheaders _ (current_mem_of_path hk hpath hne) header hall hkind.symm hnone
      | header hhandler hcheck hsome hfail =>
        have hheader := Handler.isOfHeader_of_check hcheck hfail
        cases hheader

/-- Checking a source misses no text in parentheses. -/
theorem ne_missingParentheses_of_check {source : Text} {f : Fault}
    (h : check source = .error f) (lexeme : Text) :
    f.cause ≠ .missingParentheses lexeme := by
  rcases check_eq_error_iff.1 h with hread | ⟨stream, hread, hparse⟩
  · unfold tokenize Scan.stream at hread
    split at hread
    · cases hread
    · cases hread
      exact Cause.noConfusion
  · refine ne_missingParentheses_of_parse (fun t ht header hall hkind => ?_) hparse lexeme
    obtain ⟨gap, body, tail, -, -, -, -, hsome⟩ :=
      Header.exists_spell_of_tokenize hall hread ht hkind
    rw [hsome]
    exact Option.some_ne_none _

end Program

-- =============================================================== agreement

/-- Scanning and checking agree on where the text of a header stands. A
token of a header's kind is a header written out, and what is taken out of
it for checking is what was scanned in its parentheses; so checking never
finds that a header is without them. And a text that is accepted, and whose
strings stay on one line, is scanned as one header, from which it is taken
out again. -/
theorem Header.capture_agrees :
    (∀ source stream, tokenize source = .ok stream → ∀ t ∈ stream.toList, ∀ h ∈ all,
        t.kind = h.kind → ∃ gap body tail, t.lexeme = h.spell gap body tail
          ∧ (∀ c ∈ gap, isBlank c = true) ∧ Word h.body body ∧ Word h.tail tail
          ∧ Text.parenthesized? t.lexeme = some body.trim)
      ∧ (∀ source f, Program.check source = .error f →
          ∀ lexeme, f.cause ≠ .missingParentheses lexeme)
      ∧ ∀ h ∈ all, ∀ t, h.check t = .ok () → '\n' ∉ t.insideQuotes false →
          ∀ gap tail, (∀ c ∈ gap, isBlank c = true) → Word h.tail tail →
            tokenize (h.spell gap t tail)
                = .ok ⟨[.reading h.kind (h.spell gap t tail) 0],
                    .endOfInput (h.spell gap t tail).byteSize, rfl⟩
              ∧ Text.parenthesized? (h.spell gap t tail) = some t.trim := by
  refine ⟨fun source stream hread t ht h hh hkind => ?_,
    fun source f hcheck => Program.ne_missingParentheses_of_check hcheck,
    fun h hh t hcheck hline gap tail hgap htail => ?_⟩
  · have hinner : ∀ h ∈ all, h.kind ≠ .endOfInput := by decide
    have hbody : t ∈ stream.body := by
      rcases List.mem_append.1 ht with ht | ht
      · exact ht
      · rw [List.mem_singleton.1 ht, stream.final_kind] at hkind
        exact absurd hkind.symm (hinner h hh)
    exact exists_spell_of_tokenize hh hread hbody hkind
  · exact ⟨tokenize_spell hh hgap (word_body_of_check hh hcheck hline) htail,
      parenthesized?_spell hh hgap htail t⟩

/-- An output with a parenthesis in a string is scanned as one token, whose
text is found again, and it is not for want of parentheses that it is no
program. -/
theorem Header.capture_of_quoted_parenthesis :
    Output.check "\"(\" + a" = .ok ()
      ∧ '\n' ∉ Text.insideQuotes false "\"(\" + a"
      ∧ tokenize "kiara.salida(\"(\" + a);"
        = .ok ⟨[.reading .output "kiara.salida(\"(\" + a);" 0], .endOfInput 22, rfl⟩
      ∧ Text.parenthesized? "kiara.salida(\"(\" + a);" = some "\"(\" + a"
      ∧ (∃ gap body tail, ("kiara.salida(\"(\" + a);" : Text)
            = Header.spell ⟨.output, "kiara.salida", loose, Shape.blanks ++ ";", Output.check⟩
                gap body tail
          ∧ Text.parenthesized? "kiara.salida(\"(\" + a);" = some body.trim)
      ∧ Program.check "kiara.salida(\"(\" + a);"
        = .error ⟨.unexpectedToken "main()" .output "kiara.salida(\"(\" + a);", 0⟩
      ∧ Cause.unexpectedToken "main()" .output "kiara.salida(\"(\" + a);"
        ≠ .missingParentheses "kiara.salida(\"(\" + a);" := by
  have hh : (⟨.output, "kiara.salida", loose, Shape.blanks ++ ";", Output.check⟩ : Header)
      ∈ all := .head _
  have hcheck : Output.check "\"(\" + a" = .ok () := by decide
  have hline : '\n' ∉ Text.insideQuotes false "\"(\" + a" := by decide
  obtain ⟨hread, hsome⟩ := capture_agrees.2.2 _ hh "\"(\" + a" hcheck hline "" ";"
    (List.forall_mem_nil _) (.seq .stop (.text _))
  obtain ⟨gap, body, tail, heq, -, -, -, hbody⟩ :=
    capture_agrees.1 _ _ hread _ (.head _) _ hh rfl
  have hfail : Program.check "kiara.salida(\"(\" + a);"
      = .error ⟨.unexpectedToken "main()" .output "kiara.salida(\"(\" + a);", 0⟩ :=
    Program.check_eq_error_iff.2 (.inr ⟨_, hread, Program.parse_of_head rfl (by decide)⟩)
  exact ⟨hcheck, hline, hread, hsome, ⟨gap, body, tail, heq, hbody⟩, hfail,
    capture_agrees.2.1 _ _ hfail _⟩

end Aula
