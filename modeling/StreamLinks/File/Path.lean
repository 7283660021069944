import StreamLinks.Text.Basic
import StreamLinks.Text.Printable
/-!
Paths of files as text.
-/
namespace StreamLinks.FilePath

/-- The path of an entry of a directory. -/
def join (directory name : Text) : Text :=
  match directory.getLast? with
  | none => name
  | some '/' => directory ++ name
  | some _ => directory ++ '/' :: name

/-- The last part of a path; parts that stand for the directory itself do not count. -/
def name? (path : Text) : Option Text :=
  let parts := (Text.splitAtChar '/' path).filter fun part => !part.isEmpty && part != ['.']
  match parts.getLast? with
  | some ['.', '.'] => none
  | other => other

/-- A character of a quoted path. One that does not show itself is written by its code point. -/
def escape (c : Char) : Text :=
  if c = '"' then ['\\', '"']
  else if c = '\\' then ['\\', '\\']
  else if c = '\x00' then ['\\', '0']
  else if c = '\n' then ['\\', 'n']
  else if c = '\r' then ['\\', 'r']
  else if c = '\t' then ['\\', 't']
  else if Text.isPrintable c then [c]
  else ['\\', 'u', '\x7b'] ++ Nat.toDigits 16 c.toNat ++ ['\x7d']

/-- A path in quotes. -/
def quote (path : Text) : Text := '"' :: path.flatMap escape ++ ['"']

end StreamLinks.FilePath
