import StreamLinks.CommandLine.Session
/-!
What is printed when help or the version is asked for.
-/
namespace StreamLinks.CommandLine

/-- The name of the program on its command line. -/
def programName : Text := "ryt-resolve".toList

def versionLine : Text := programName ++ " 0.1.0".toList

/-- An option at the left of its purpose. -/
def helpLine (letter : Option Char) (shown purpose : Text) : Text :=
  let start := match letter with
    | some letter => ['-', letter, ',', ' ']
    | none => List.replicate 4 ' '
  let left := "  ".toList ++ start ++ shown
  left ++ List.replicate (42 - left.length) ' ' ++ purpose

def usageLine : Text :=
  "Usage: ".toList ++ programName ++ " [OPTIONS] ".toList ++ responsesShown

/-- The lines of the help. -/
def helpLines : List Text :=
  ["Resolve playable stream URLs from saved player API responses".toList, [], usageLine, [],
    "Arguments:".toList,
    "  ".toList ++ responsesShown ++
      "  Player API response files (JSON); the first is the preferred client".toList, [],
    "Options:".toList] ++
  (Valued.all.map fun option => helpLine option.letter? option.shown option.help.toList) ++
  (Switch.all.map fun switch => helpLine switch.letter? switch.shown switch.purpose.toList)

/-- The lines that tell of a refused command line. -/
def UsageError.lines (coloured : Bool) (error : UsageError) : List Text :=
  let detail := match error with
    | .noResponses => ["  ".toList ++ responsesShown]
    | _ => []
  errorLine coloured error.message :: detail ++
    [[], usageLine, [], "For more information, try '--help'.".toList]

end StreamLinks.CommandLine
