/-
Reports: a fault shown against its source. Three lines say what is
wrong and in which file; if the offset lies in the source, three more
show the line that holds it, with a caret below the offset.

The line is shown without the spaces and tabs it begins with and
without the blanks it ends with. The caret stands as many columns to
the right as there are bytes between the first character shown and the
offset.
-/
import Aula.Fault
import Aula.Text.Blank
import Aula.Text.Line

namespace Aula.Report

open Text (decimal)

/-- The text padded on the left to a width. -/
def padLeft (fill : Char) (width : Nat) (s : Text) : Text :=
  List.replicate (width - s.length) fill ++ s

/-- Whether a character is indentation. -/
def isIndent (c : Char) : Bool := c = ' ' || c = '\t'

/-- The name of the fault, with the tip if there is one. -/
def title (f : Fault) : Text :=
  let name : Text := f.stage.name ++ ": " ++ f.cause.name
  match f.cause.tip? with
  | none => name
  | some tip => name ++ " (" ++ tip ++ ")"

/-- The line of a place with a caret below it. -/
def excerpt (p : Place) : List Text :=
  let number := decimal p.line
  let margin := padLeft ' ' (number.length + 2) "|"
  let indent := (p.text.takeWhile isIndent).length
  let shown : Text := p.text.dropWhile isIndent
  [margin,
   number ++ " | " ++ shown.trimEnd,
   margin ++ " " ++ padLeft '-' (p.column - indent + 1) "^"]

/-- The lines of a report. -/
def lines (f : Fault) (source file : Text) : List Text :=
  [title f, "   " ++ f.cause.message, "-> " ++ file]
    ++ match source.place? f.position with
      | none => []
      | some p => excerpt p

/-- A report, each line with its newline. -/
def render (f : Fault) (source file : Text) : Text :=
  Text.unlines (lines f source file)

end Aula.Report
