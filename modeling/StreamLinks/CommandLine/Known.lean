import StreamLinks.Text.Basic
/-!
The options that the command line knows.
-/
namespace StreamLinks.CommandLine

/-- Options with a value. -/
inductive Valued where
  | script
  | video
  | playerUrl
  | engine
  | engineArgument
  | worker
  | workerKey
  | cacheDirectory
  | timeout
  deriving Repr, DecidableEq

/-- Options without a value. -/
inductive Switch where
  | uncompressed
  | unbatched
  | json
  | verbose
  | quiet
  | help
  | version
  deriving Repr, DecidableEq

namespace Valued

def all : List Valued :=
  [script, video, playerUrl, engine, engineArgument, worker, workerKey, cacheDirectory, timeout]

def name : Valued → String
  | script => "player-js"
  | video => "video-id"
  | playerUrl => "player-url"
  | engine => "js-runtime"
  | engineArgument => "js-arg"
  | worker => "remote-runtime"
  | workerKey => "remote-key"
  | cacheDirectory => "solver-cache-dir"
  | timeout => "timeout"

/-- What stands for the value in messages. -/
def placeholder : Valued → String
  | script => "PATH|URL"
  | video => "ID"
  | playerUrl => "URL"
  | engine => "PATH"
  | engineArgument => "ARG"
  | worker => "URL"
  | workerKey => "KEY"
  | cacheDirectory => "DIR"
  | timeout => "DURATION"

def letter? : Valued → Option Char
  | script => some 'p'
  | _ => none

/-- Whatever follows is the value, even if it looks like an option. -/
def takesAnything : Valued → Bool
  | engineArgument => true
  | _ => false

def help : Valued → String
  | script => "Player script file or URL (base.js)"
  | video => "Expected video ID or watch URL (default: taken from the first response)"
  | playerUrl => "Player URL quoted in warnings (default: --player-js when it is a URL)"
  | engine => "JS engine executable or directory containing deno"
  | engineArgument => "Engine flag, replacing the built-in deno flags (repeatable)"
  | worker => "Remote JS worker URL"
  | workerKey => "Pre-shared key for the remote worker"
  | cacheDirectory => "Directory for verified solver helper scripts"
  | timeout => "JS execution and HTTP timeout (e.g., 30s, 1m) [default: 30s]"

/-- The option as messages name it. -/
def shown (option : Valued) : Text :=
  "--".toList ++ option.name.toList ++ " <".toList ++ option.placeholder.toList ++ ['>']

end Valued

namespace Switch

def all : List Switch := [uncompressed, unbatched, json, verbose, quiet, help, version]

def name : Switch → String
  | uncompressed => "no-gzip"
  | unbatched => "no-solver"
  | json => "json"
  | verbose => "verbose"
  | quiet => "quiet"
  | help => "help"
  | version => "version"

def letter? : Switch → Option Char
  | verbose => some 'v'
  | quiet => some 'q'
  | help => some 'h'
  | version => some 'V'
  | _ => none

def purpose : Switch → String
  | uncompressed => "Send uncompressed requests to the remote worker"
  | unbatched => "Decode per format instead of batching through the challenge solver"
  | json => "Print resolved links as JSON"
  | verbose => "Verbose output"
  | quiet => "Quiet output (only errors)"
  | help => "Print help"
  | version => "Print version"

/-- The option as messages name it. -/
def shown (switch : Switch) : Text := "--".toList ++ switch.name.toList

end Switch

/-- Any option. -/
inductive Known where
  | valued (option : Valued)
  | switch (switch : Switch)
  deriving Repr, DecidableEq

/-- The option of a name. -/
def named? (name : Text) : Option Known :=
  ((Valued.all.find? fun option => option.name.toList == name).map Known.valued).or
    ((Switch.all.find? fun switch => switch.name.toList == name).map Known.switch)

/-- The option of a letter. -/
def lettered? (letter : Char) : Option Known :=
  ((Valued.all.find? fun option => option.letter? == some letter).map Known.valued).or
    ((Switch.all.find? fun switch => switch.letter? == some letter).map Known.switch)

/-- What stands for the files of responses in messages. -/
def responsesShown : Text := "<RESPONSE.json>...".toList

end StreamLinks.CommandLine
