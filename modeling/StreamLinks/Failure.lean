import StreamLinks.Http.Exchange
/-!
Failures, with the kinds that callers tell apart.

The library's own failures have a kind and a text; those that come from reading files, addresses,
documents and from the network keep what they stem from.
-/
namespace StreamLinks

/-- The kinds of the library's own failures. -/
inductive FailureKind where
  /-- The player script does not look as expected. -/
  | extraction
  /-- There is nothing to run a script with. -/
  | unavailable
  /-- A script was run in vain. -/
  | execution
  /-- A helper script is not the published one. -/
  | verification
  /-- The input of a caller is refused. -/
  | validation
  | configuration
  deriving Repr, DecidableEq

/-- What a message of the kind begins with. -/
def FailureKind.label : FailureKind → String
  | extraction => "Extraction failed: "
  | unavailable => "JS runtime unavailable: "
  | execution => "Execution failed: "
  | verification => "Verification failed: "
  | validation => "Validation failed: "
  | configuration => "Invalid configuration: "

inductive Failure where
  | own (kind : FailureKind) (text : Text)
  | http (error : Http.Error)
  | file (cause : Text)
  | document (cause : Text)
  | address (error : Url.ParseError)
  deriving Repr, DecidableEq

namespace Failure

/-- The message of a failure. -/
def message : Failure → Text
  | own kind text => kind.label.toList ++ text
  | http error => "HTTP error: ".toList ++ error.message
  | file cause => "IO error: ".toList ++ cause
  | document cause => "JSON error: ".toList ++ cause
  | address error => "URL parsing error: ".toList ++ error.message.toList

/-- The message of a failure and those of its causes. -/
def chain (failure : Failure) : List Text :=
  failure.message ::
    match failure with
    | own _ _ => []
    | http error => error.chain
    | file cause => [cause]
    | document cause => [cause]
    | address error => [error.message.toList]

/-- Another attempt may succeed. -/
def isRetryable : Failure → Bool
  | http error => error.retryable
  | _ => false

/-- A failure as it is told to all who asked for the same value: of foreign failures only the message
is left. -/
def shared : Failure → Failure
  | own kind text => own kind text
  | other => own .execution other.message

theorem shared_shared (failure : Failure) : failure.shared.shared = failure.shared := by
  cases failure <;> rfl

end Failure
end StreamLinks
