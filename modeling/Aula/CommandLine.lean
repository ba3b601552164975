/-
The command line: what the words of an invocation ask for, and what
comes out when a program is checked.

Words are taken from left to right. An option may be given once, short
ones may share a dash, and `--` makes every later word a file name. The
first word that cannot be taken decides the outcome, and so does the
first that asks for the version or for help.
-/
import Aula.Program
import Aula.Report

namespace Aula.CommandLine

open Text (unlines)

-- ========================================================== invocations

/-- A request to check one file; `-` is the standard input. -/
structure Request where
  file : String
  /-- List the tokens. -/
  tokens : Bool := false
  /-- Say nothing of a valid program. -/
  quiet : Bool := false
deriving DecidableEq, Repr

/-- What an invocation asks for. -/
inductive Invocation where
  | check (request : Request)
  | version
  | help
  /-- The words make no sense. -/
  | refused
deriving DecidableEq, Repr

/-- What the words so far have asked for. -/
structure Words where
  file : Option String := none
  tokens : Bool := false
  quiet : Bool := false
  /-- Whether every further word is a file name. -/
  optionsEnded : Bool := false
deriving DecidableEq, Repr

namespace Words

/-- Takes a file name, of which there must be one, and not empty. -/
def takeFile (name : String) (w : Words) : Except Invocation Words :=
  if name = "" || w.file.isSome then .error .refused
  else .ok { w with file := some name }

/-- Takes the option that lists the tokens. -/
def takeTokens (w : Words) : Except Invocation Words :=
  if w.tokens then .error .refused else .ok { w with tokens := true }

/-- Takes the option that silences success. -/
def takeQuiet (w : Words) : Except Invocation Words :=
  if w.quiet then .error .refused else .ok { w with quiet := true }

/-- Takes one short option. -/
def takeShort (w : Words) : Char → Except Invocation Words
  | 'q' => w.takeQuiet
  | 'V' => .error .version
  | 'h' => .error .help
  | _ => .error .refused

/-- Takes a word where options are allowed. -/
def takeOption (w : Words) (word : String) : Except Invocation Words :=
  match word with
  | "--tokens" => w.takeTokens
  | "--quiet" => w.takeQuiet
  | "--version" => .error .version
  | "--help" => .error .help
  | "--" => .ok { w with optionsEnded := true }
  | _ =>
    match word.toList with
    | '-' :: '-' :: _ => .error .refused
    | '-' :: c :: cs => (c :: cs).foldlM takeShort w
    | _ => w.takeFile word

/-- Takes one word. -/
def take (w : Words) (word : String) : Except Invocation Words :=
  if w.optionsEnded then w.takeFile word else w.takeOption word

end Words

/-- What an invocation with the given words asks for. -/
def Invocation.ofWords (words : List String) : Invocation :=
  match words.foldlM Words.take {} with
  | .error invocation => invocation
  | .ok { file := none, .. } => .refused
  | .ok { file := some file, tokens, quiet, .. } => .check { file, tokens, quiet }

-- ============================================================= outcomes

/-- Why a file could not be read. -/
inductive ReadFailure where
  | notFound
  | isDirectory
  | notUtf8
  /-- The system gives another reason. -/
  | other (reason : String)
deriving DecidableEq, Repr

/-- The reason why a file could not be read. -/
def ReadFailure.reason : ReadFailure → String
  | .notFound => "No such file or directory (os error 2)"
  | .isDirectory => "Is a directory (os error 21)"
  | .notUtf8 => "stream did not contain valid UTF-8"
  | .other reason => reason

/-- What comes out of an invocation. -/
structure Outcome where
  exitCode : UInt8
  stdout : Text := []
  stderr : Text := []
deriving DecidableEq, Repr

/-- The outcome of checking a source that was read. A source of blanks
alone is no program to check. -/
def checkSource (r : Request) (source : Text) : Outcome :=
  let file := r.file.toList
  if source.trim = [] then
    { exitCode := 2, stderr := unlines ["Error: " ++ file ++ " has no code to check"] }
  else
    match tokenize source with
    | .error f => { exitCode := 1, stderr := Report.render f source file }
    | .ok tokens =>
      let listing := if r.tokens then unlines (tokens.toList.map Token.listing) else []
      match Program.parse tokens with
      | .error f =>
        { exitCode := 1, stdout := listing, stderr := Report.render f source file }
      | .ok () =>
        let verdict := if r.quiet then [] else unlines ["valid"]
        { exitCode := 0, stdout := listing ++ verdict }

/-- The text that was read, which must be UTF-8. -/
def decode (bytes : ByteArray) : Except ReadFailure Text :=
  match String.fromUTF8? bytes with
  | none => .error .notUtf8
  | some s => .ok s.toList

/-- The outcome of a request, given what reading its file gave. -/
def respond (r : Request) (reading : Except ReadFailure ByteArray) : Outcome :=
  match reading.bind decode with
  | .error failure =>
    { exitCode := 2
      stderr := unlines ["Error reading " ++ r.file ++ ": " ++ failure.reason] }
  | .ok source => checkSource r source

/-- What `--version` prints. -/
def versionText : Text := unlines ["chiwis 0.1.0"]

/-- How the program is used. -/
def usageText : Text :=
  unlines
    ["Checks that a Chiwis program is lexically and structurally valid",
     "",
     "Usage: chiwis [OPTIONS] <FILE>",
     "",
     "Arguments:",
     "  <FILE>  Source file to check, `-` reads stdin",
     "",
     "Options:",
     "      --tokens   Print the token trace before validating",
     "  -q, --quiet    Do not print anything on success",
     "  -h, --help     Print help",
     "  -V, --version  Print version"]

end Aula.CommandLine
