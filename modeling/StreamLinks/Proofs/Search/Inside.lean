import StreamLinks.Proofs.Search.Found
/-!
Places of one text.

A pattern reads on from a place of a text to other places of the same text. Every way of building patterns keeps to
this, so it is told of a pattern along the way in which it is built.
-/
namespace StreamLinks

-- The place splits the text into what has been read and the rest.
def Cursor.Inside (text : Text) (place : Cursor) : Prop := ∃ read rest, text = read ++ rest ∧ place = .after read rest

namespace Pattern
variable {α β : Type} {p q : Pattern α} {script : Text}

-- Every way leads from a place of a text to a place of this text.
def Stays (p : Pattern α) : Prop := ∀ (text : Text) (place : Cursor) (way : α × Cursor),
  place.Inside text → way ∈ p place → way.2.Inside text

namespace Stays

theorem pure (value : α) : Stays (pure value : Pattern α) := by
  intro text place way here found
  rw [mem_pure.mp found]
  exact here

theorem bind {next : α → Pattern β} (stays : Stays p) (nextStays : ∀ value, Stays (next value)) :
    Stays (p >>= next) := by
  intro text place way here found
  obtain ⟨value, stop, first, behind⟩ := mem_bind.mp found
  exact nextStays value _ _ _ (stays _ _ _ here first) behind

theorem either (stays : Stays p) (otherStays : Stays q) : Stays (either p q) := by
  intro text place way here found
  rcases mem_either.mp found with found | found
  · exact stays _ _ _ here found
  · exact otherStays _ _ _ here found

theorem optional (stays : Stays p) : Stays (optional p) := (stays.bind fun _ => .pure _).either (.pure none)

theorem start : Stays start := by
  rintro text _ way ⟨read, rest, rfl, rfl⟩ found
  obtain ⟨rfl, rfl⟩ := mem_start.mp found
  exact ⟨[], rest, rfl, rfl⟩

theorem one (cls : Char → Bool) : Stays (one cls) := by
  rintro text _ way ⟨read, rest, rfl, rfl⟩ found
  obtain ⟨c, tail, rfl, -, rfl⟩ := mem_one.mp found
  exact ⟨read ++ [c], tail, List.append_cons read c tail, rfl⟩

theorem boundary (cls : Char → Bool) : Stays (boundary cls) := start.either (.one _)

theorem text (mark : Text) : Stays (text mark) := by
  rintro text _ way ⟨read, rest, rfl, rfl⟩ found
  obtain ⟨tail, rfl, rfl⟩ := mem_text.mp found
  exact ⟨read ++ mark, tail, (List.append_assoc read mark tail).symm, rfl⟩

theorem literal (mark : String) : Stays (literal mark) := .text mark.toList

theorem every (cls : Char → Bool) : Stays (every cls) := by
  rintro text _ way ⟨read, rest, rfl, rfl⟩ found
  obtain ⟨passed, tail, spans, rfl⟩ := mem_every.mp found
  exact ⟨read ++ passed, tail, by rw [spans.split, List.append_assoc], rfl⟩

theorem many (cls : Char → Bool) : Stays (many cls) := by
  rintro text _ way ⟨read, rest, rfl, rfl⟩ found
  obtain ⟨passed, tail, rfl, -, rfl⟩ := mem_many.mp found
  exact ⟨read ++ passed, tail, (List.append_assoc read passed tail).symm, rfl⟩

theorem atLeast (stays : Stays p) (count : Nat) : Stays (atLeast count p) := fun text place way here found =>
  stays text place way here (mem_atLeast.mp found).1

variable {found : Match α}

theorem of_mem_everywhere (stays : Stays p) (present : found ∈ everywhere p script) : found.stop.Inside script := by
  obtain ⟨passed, tail, split, -, way⟩ := way_of_mem_everywhere present
  exact stays script _ _ ⟨passed, tail, split, rfl⟩ way

theorem of_first? (stays : Stays p) (first : first? p script = some found) : found.stop.Inside script := by
  rw [first?_eq_head?] at first
  exact stays.of_mem_everywhere (List.mem_of_head? first)

end Stays
end Pattern
end StreamLinks
