import StreamLinks.Challenge.Helpers
import StreamLinks.Challenge.Reply
import StreamLinks.Engine.Basic
import StreamLinks.Json.Printer
/-!
The batch solver: all tokens of a script are decoded in a single run of the helper scripts.
-/
namespace StreamLinks

structure Solver where
  source : HelperSource
  runtime : Runtime

namespace Solver

/-- Every text once, at its first place. -/
def distinct : List Text → List Text
  | [] => []
  | text :: texts => text :: (distinct texts).filter (· != text)

/-- The challenges of one kind. -/
def challenges (kind : TokenKind) (tokens : List Text) : Json.Value :=
  .object [
    ("challenges".toList, .array ((distinct tokens).map .string)),
    ("type".toList, .string kind.tag.toList)]

/-- What the helpers are asked. Members stand in the order of their names. -/
def request (throttle signature : List Text) (script : Text) : Json.Value :=
  .object [
    ("output_preprocessed".toList, .bool true),
    ("player".toList, .string script),
    ("requests".toList, .array [challenges .throttle throttle, challenges .signature signature]),
    ("type".toList, .string "player".toList)]

/-- The source of a batch. -/
def batch (helpers : Helpers) (throttle signature : List Text) (script : Text) : Text :=
  helpers.library ++ "\nObject.assign(globalThis, lib);\n".toList ++ helpers.core ++
    "\nconsole.log(JSON.stringify(jsc(".toList ++ (request throttle signature script).compact ++
    ")));".toList

/-- Decodes all tokens in one run. -/
def trySolve (solver : Solver) (throttle signature : List Text) (script : Text) : Call Solved :=
  fun world =>
    if solver.runtime.isAvailable then
      match solver.source.ready world with
      | (.error failure, world) => (.error failure, world)
      | (.ok helpers, world) =>
        match solver.runtime.runPrepared (batch helpers throttle signature script) world with
        | (.error failure, world) => (.error failure, world)
        | (.ok reply, world) =>
          match Solved.ofReply reply with
          | .ok solved => (.ok solved, world)
          | .error error => (.error error.failure, world)
    else (.error (.own .unavailable solver.runtime.describe), world)

/-- Decodes all tokens in one run, or nothing. -/
def solve (solver : Solver) (throttle signature : List Text) (script : Text) (world : World) :
    Option Solved × World :=
  match solver.trySolve throttle signature script world with
  | (.ok solved, world) => (some solved, world)
  | (.error _, world) => (none, world)

end Solver
end StreamLinks
