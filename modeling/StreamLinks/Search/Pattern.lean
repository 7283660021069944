import StreamLinks.Text.Basic
/-!
Patterns over text, read from left to right with an order of preference.

A pattern lists every way of reading on from a place, the preferred way first. Sequencing tries the
ways of the second part for each way of the first, an alternative puts the ways of its left side
before those of its right side, and a repetition prefers to take more. So the first element of the
list is the match that a search with these preferences finds.
-/
namespace StreamLinks

/-- A place in a text: the number of characters before it, the nearest of them, and the text from there
on. -/
structure Cursor where
  offset : Nat
  before : Option Char
  rest : Text
  deriving Repr, DecidableEq

/-- The place behind one more character. -/
def Cursor.behind (place : Cursor) (c : Char) (rest : Text) : Cursor :=
  ⟨place.offset + 1, some c, rest⟩

/-- Every way of reading on from a place with what was found there, the preferred way first. -/
def Pattern (α : Type) := Cursor → List (α × Cursor)

namespace Pattern

@[inline] protected def pure (value : α) : Pattern α := fun place => [(value, place)]

@[inline] protected def bind (p : Pattern α) (next : α → Pattern β) : Pattern β :=
  fun place => (p place).flatMap fun (value, place) => next value place

instance : Monad Pattern where
  pure := Pattern.pure
  bind := Pattern.bind

/-- The ways of `p`, then the ways of `q`. -/
@[inline] def either (p q : Pattern α) : Pattern α := fun place => p place ++ q place

/-- With `p` if possible, else without it. -/
def optional (p : Pattern α) : Pattern (Option α) :=
  either (do return some (← p)) (pure none)

/-- The very start of the text. -/
@[inline] def start : Pattern Unit := fun place => if place.offset = 0 then [((), place)] else []

/-- The condition holds. -/
def check (condition : Bool) : Pattern Unit := fun place => if condition then [((), place)] else []

/-- One character of the class. -/
@[inline] def one (cls : Char → Bool) : Pattern Unit := fun place =>
  match place.rest with
  | [] => []
  | c :: rest => if cls c then [((), place.behind c rest)] else []

/-- Exactly this text. -/
def text (mark : Text) : Pattern Unit := fun place =>
  match Text.after? mark place.rest with
  | some rest => [((), ⟨place.offset + mark.length, mark.getLast?.or place.before, rest⟩)]
  | none => []

/-- Exactly this text. -/
@[inline] def literal (mark : String) : Pattern Unit := text mark.toList

/-- The start of the text, or one character outside the class. -/
@[inline] def boundary (cls : Char → Bool) : Pattern Unit := either start (one fun c => !cls c)

/-- No character of the class stands right before this place. -/
def fresh (cls : Char → Bool) : Pattern Unit := fun place =>
  if place.before.any cls then [] else [((), place)]

/-- The place behind all characters of the class that follow. -/
def pass (cls : Char → Bool) (offset : Nat) (before : Option Char) : Text → Cursor
  | [] => ⟨offset, before, []⟩
  | c :: rest => if cls c then pass cls (offset + 1) (some c) rest else ⟨offset, before, c :: rest⟩

/-- All characters of the class that follow. This is the only way that can be read on from where what
comes next cannot begin with a character of the class. -/
@[inline] def every (cls : Char → Bool) : Pattern Unit := fun place =>
  [((), pass cls place.offset place.before place.rest)]

/-- The places reached by taking 0, 1, … characters of the class, the farthest first. -/
def reach (cls : Char → Bool) (found : List Cursor) (place : Cursor) : Text → List Cursor
  | [] => place :: found
  | c :: rest =>
    if cls c then reach cls (place :: found) (place.behind c rest) rest else place :: found

/-- Any number of characters of the class, as many as possible. -/
def many (cls : Char → Bool) : Pattern Unit := fun place =>
  (reach cls [] place place.rest).map ((), ·)

/-- The ways that take at least `count` characters. -/
@[inline] def atLeast (count : Nat) (p : Pattern α) : Pattern α := fun place =>
  (p place).filter fun (_, stop) => place.offset + count ≤ stop.offset

/-- The ways that take exactly `count` characters. -/
def exactly (count : Nat) (p : Pattern α) : Pattern α := fun place =>
  (p place).filter fun (_, stop) => place.offset + count = stop.offset

/-- All characters of the class that follow, at least one. -/
@[inline] def run (cls : Char → Bool) : Pattern Unit := atLeast 1 (every cls)

/-- The ways of `p` behind the last `mark` up to which there are only characters of the class and behind
which `p` has any; `found` are its ways behind the last such mark before. -/
def lastWays (cls : Char → Bool) (mark : Char) (p : Pattern α) (found : List (α × Cursor))
    (offset : Nat) : Text → List (α × Cursor)
  | [] => found
  | c :: rest =>
    let found :=
      if c = mark then
        match p ⟨offset + 1, some c, rest⟩ with
        | [] => found
        | ways => ways
      else found
    if cls c then lastWays cls mark p found (offset + 1) rest else found

/-- One or more characters of the class, as many as possible, then `mark`, then `p`. -/
def runThen (cls : Char → Bool) (mark : Char) (p : Pattern α) : Pattern α := do
  one cls
  fun place => lastWays cls mark p [] place.offset place.rest

/-- The text that `p` takes. -/
@[inline] def taken (p : Pattern α) : Pattern Text := fun place =>
  (p place).map fun (_, stop) => (place.rest.take (stop.offset - place.offset), stop)

/-- At most `limit` times `p`, each time in the preferred way, as often as possible. -/
def repeated (p : Pattern α) : (limit : Nat) → Pattern Unit
  | 0 => pure ()
  | limit + 1 => fun place =>
    match p place with
    | [] => [((), place)]
    | (_, stop) :: _ => repeated p limit stop

/-- One or more times a pattern that takes at least one character, each time in the preferred way, as
often as possible. -/
def oneOrMore (p : Pattern α) : Pattern Unit := do
  let _ ← p
  fun place => repeated p place.rest.length place

end Pattern

/-- Where a pattern was found, and what it found. -/
structure Match (α : Type) where
  start : Nat
  stop : Cursor
  value : α

namespace Pattern

/-- The leftmost match at or after a place. -/
def firstFrom (p : Pattern α) (offset : Nat) (before : Option Char) : Text → Option (Match α)
  | [] => none
  | c :: rest =>
    match p ⟨offset, before, c :: rest⟩ with
    | (value, stop) :: _ => some ⟨offset, stop, value⟩
    | [] => firstFrom p (offset + 1) (some c) rest

/-- The leftmost match in a text. -/
def first? (p : Pattern α) (text : Text) : Option (Match α) := firstFrom p 0 none text

/-- The preferred matches at each place from `offset` on. -/
def matchesFrom (p : Pattern α) (offset : Nat) (before : Option Char) : Text → List (Match α)
  | [] => []
  | c :: rest =>
    match p ⟨offset, before, c :: rest⟩ with
    | (value, stop) :: _ => ⟨offset, stop, value⟩ :: matchesFrom p (offset + 1) (some c) rest
    | [] => matchesFrom p (offset + 1) (some c) rest

/-- The preferred matches at each place, whether or not they overlap. -/
def everywhere (p : Pattern α) (text : Text) : List (Match α) := matchesFrom p 0 none text

/-- Matches in the order of their starts without those that start before `least` or overlap one that is
kept. -/
def apart (least : Nat) : List (Match α) → List (Match α)
  | [] => []
  | found :: rest =>
    if least ≤ found.start then found :: apart found.stop.offset rest else apart least rest

/-- All matches of a pattern that takes at least one character, from left to right without overlap. -/
def all (p : Pattern α) (text : Text) : List (Match α) := apart 0 (everywhere p text)

/-- The preferred way that takes the whole text. -/
def whole? (p : Pattern α) (text : Text) : Option α :=
  ((p ⟨0, none, text⟩).find? fun (_, stop) => stop.rest.isEmpty).map Prod.fst

/-- The text with the stretches of the given matches, which do not overlap, replaced. -/
def replaceAll (new : Text) (offset : Nat) (text : Text) : List (Match α) → Text
  | [] => text
  | found :: later =>
    text.take (found.start - offset) ++ new ++ replaceAll new found.stop.offset found.stop.rest later

/-- Every match of a pattern that takes at least one character becomes `new`. -/
def replace (p : Pattern α) (new text : Text) : Text := replaceAll new 0 text (all p text)

end Pattern
end StreamLinks
