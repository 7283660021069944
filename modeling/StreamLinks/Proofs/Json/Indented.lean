import StreamLinks.Proofs.Json.Compact
/-!
Values over several lines: the line breaks and indents stand where the reader passes over blanks, so the
text reads as the value that it is written for.
-/
namespace StreamLinks.Json
variable {value : Value} {members : List (Text × Value)} {text blanks : Text}

theorem isSpace_of_mem_newLine (depth : Nat) : ∀ c ∈ newLine depth, isSpace c = true := by
  intro c present
  rcases List.mem_cons.mp present with rfl | indent
  · rfl
  · rw [List.eq_of_mem_replicate indent]
    rfl

theorem Reads.indented (reads : Reads value text) (blank : ∀ c ∈ blanks, isSpace c = true) :
    Reads value (blanks ++ text) := by
  intro rest fuel ends enough
  rw [List.length_append] at enough
  rw [List.append_assoc, valueFrom_skipSpaces (skipSpaces_append blank _)]
  exact reads rest fuel ends (by omega)

theorem ReadsMembers.indented (reads : ReadsMembers members text)
    (blank : ∀ c ∈ blanks, isSpace c = true) : ReadsMembers members (blanks ++ text) := by
  intro close rest fuel closes enough
  rw [List.length_append] at enough
  have taken := reads close rest fuel closes (by omega)
  cases fuel with
  | zero => cases enough
  | succ fuel =>
    rw [← taken, List.append_assoc]
    simp only [membersFrom, skipSpaces_append blank]

-- Between a colon and the value stands one blank.
theorem Reads.spaced (reads : Reads value text) : Reads value (' ' :: text) := by
  have blank : ∀ c ∈ [' '], isSpace c = true := List.forall_mem_singleton.mpr rfl
  have spaced : Reads value ([' '] ++ text) := reads.indented blank
  exact spaced

mutual
theorem reads_pretty (depth : Nat) :
    (value : Value) → value.IsPlain → Reads value (value.pretty depth)
  | .null, _ => reads_null
  | .bool true, _ => reads_true
  | .bool false, _ => reads_false
  | .number (.natural _), fits => reads_natural fits
  | .string text, _ => reads_string text
  | .array [], _ => reads_emptyArray
  | .array (item :: items), plain => by
    have reads := readsItems_pretty (depth + 1) (item :: items) (by simp) plain
    simpa [Value.pretty] using reads_array reads (newLine depth) (isSpace_of_mem_newLine depth)
  | .object [], _ => reads_emptyObject
  | .object (member :: members), plain => by
    have reads := readsMembers_pretty (depth + 1) (member :: members) (by simp) plain
    simpa [Value.pretty] using reads_object reads (newLine depth) (isSpace_of_mem_newLine depth)

theorem readsItems_pretty (depth : Nat) : (items : List Value) → items ≠ [] → arePlain items →
    ReadsItems items (prettyItems depth items)
  | [], filled, _ => absurd rfl filled
  | [item], _, plain =>
    ((reads_pretty depth item plain.1).indented (isSpace_of_mem_newLine depth)).lastItem
  | item :: next :: items, _, plain =>
    ((reads_pretty depth item plain.1).indented (isSpace_of_mem_newLine depth)).item
      (readsItems_pretty depth (next :: items) (by simp) plain.2)

theorem readsMembers_pretty (depth : Nat) : (members : List (Text × Value)) → members ≠ [] →
    membersPlain members → ReadsMembers members (prettyMembers depth members)
  | [], filled, _ => absurd rfl filled
  | [(name, value)], _, plain => by
    have reads := (reads_pretty depth value plain.1).spaced.lastMember name
    simpa [prettyMembers] using reads.indented (isSpace_of_mem_newLine depth)
  | (name, value) :: next :: members, _, plain => by
    have others := readsMembers_pretty depth (next :: members) (by simp) plain.2
    have reads := (reads_pretty depth value plain.1).spaced.member name others
    simpa [prettyMembers] using reads.indented (isSpace_of_mem_newLine depth)
end

-- A line break at the end of the document does not count.
theorem Reads.read_line (reads : Reads value text) : Json.read (text ++ ['\n']) = some value := by
  have ends : Ends ['\n'] := by simp [Ends]
  have taken := reads ['\n'] (2 * (text ++ ['\n']).length + 2) ends (by simp; omega)
  simp only [Json.read, taken]
  rfl

end StreamLinks.Json
