/-
Driving a walk by hand: one command at a time, each with an answer. A
command that fails leaves the walk where the failure left it, and the
next command goes on from there.
-/
import Aula.Walker.Run

namespace Aula

/-- Something to do with a walk. -/
inductive Command where
  /-- Register the handlers of the language. -/
  | registerLanguage
  /-- Register a handler for a kind, or replace it. -/
  | register (kind : Kind) (handler : Handler)
  /-- Tell the kinds that have a handler. -/
  | kinds
  /-- Tell the token in front. -/
  | current
  /-- Move past the token in front. -/
  | advance
  /-- Move past the token in front, which must be of a kind. -/
  | expect (kind : Kind)
  /-- Move past the token in front, which must be of a kind, or fail
  with a given fault. -/
  | expectOr (kind : Kind) (fault : Fault)
  /-- Enter a block without looking at the token in front. -/
  | openBlock
  /-- Leave a block without looking at the token in front. -/
  | closeBlock (offset : Nat)
  /-- Do what a goal asks for. -/
  | pursue (goal : Goal)
deriving DecidableEq, Repr

/-- The answer to a command. -/
inductive Answer where
  /-- There is nothing to tell. -/
  | done
  | kinds (kinds : List Kind)
  | token (token : Token)
  /-- The command has succeeded. -/
  | succeeded
  /-- The command has failed. -/
  | failed (fault : Fault)
deriving DecidableEq, Repr

namespace Walker

/-- Obeys a command. -/
def obey (w : Walker) : Command → Answer × Walker
  | .registerLanguage => (.done, { w with table := w.table.withLanguage })
  | .register kind handler =>
    (.done, { w with table := w.table.register kind handler })
  | .kinds => (.kinds w.table.kinds, w)
  | .current => (.token w.current, w)
  | .advance => (.token w.current, w.advance)
  | .expect kind =>
    match w.expect kind with
    | .error f => (.failed f, w)
    | .ok (t, next) => (.token t, next)
  | .expectOr kind fault =>
    match w.expectOr kind fault with
    | .error f => (.failed f, w)
    | .ok (t, next) => (.token t, next)
  | .openBlock => (.done, w.openBlock)
  | .closeBlock offset =>
    match w.closeBlock offset with
    | .error f => (.failed f, w)
    | .ok next => (.succeeded, next)
  | .pursue goal =>
    match w.run [goal] with
    | (.error f, next) => (.failed f, next)
    | (.ok (), next) => (.succeeded, next)

end Walker

end Aula
