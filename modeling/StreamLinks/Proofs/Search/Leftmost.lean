import StreamLinks.Proofs.Search.Found
/-!
The leftmost place of a shape.

A search with a boundary before its pattern finds the leftmost place where the text has the shape that the pattern
reads and no character of the class stands before it. The match itself may begin one character earlier, at the one
that the boundary takes.
-/
namespace StreamLinks.Pattern
variable {α β : Type} {p : Pattern α} {cls : Char → Bool} {text read rest before front : Text}

-- No character of the class stands right before the place.
def Bounded (cls : Char → Bool) (before : Text) : Prop := ∀ c ∈ before.getLast?, cls c = false

-- The shape stands at a bounded place of the text, and at none before. The value is what it tells there.
def First (cls : Char → Bool) (Shape : β → Text → Prop) (text : Text) (value : β) : Prop :=
  ∃ before here, text = before ++ here ∧ Bounded cls before ∧ Shape value here ∧
    ∀ other there known, text = other ++ there → Bounded cls other → Shape known there →
      before.length ≤ other.length

section search

-- The leftmost match begins at the first place from which there is a way, and takes the preferred one.
theorem firstFrom_parts {found : Match α} (first : firstFrom p read.length read.getLast? rest = some found) :
    ∃ passed tail, rest = passed ++ tail ∧
      (p (.after (read ++ passed) tail)).head? = some (found.value, found.stop) ∧
      ∀ front back, rest = front ++ back → front.length < passed.length →
        p (.after (read ++ front) back) = [] := by
  induction rest generalizing read with
  | nil => cases first
  | cons c rest ih =>
    simp only [firstFrom] at first
    cases ways : p ⟨read.length, read.getLast?, c :: rest⟩ with
    | cons way others =>
      rw [ways] at first
      cases first
      refine ⟨[], c :: rest, rfl, ?_, fun _ _ _ shorter => absurd shorter (Nat.not_lt_zero _)⟩
      rw [List.append_nil, Cursor.after, ways]
      rfl
    | nil =>
      rw [ways] at first
      have next : firstFrom p (read ++ [c]).length (read ++ [c]).getLast? rest = some found := by simpa using first
      obtain ⟨passed, tail, rfl, head, none⟩ := ih next
      refine ⟨c :: passed, tail, rfl, by simpa using head, ?_⟩
      intro front back split shorter
      cases front with
      | nil =>
        obtain rfl : c :: (passed ++ tail) = back := split
        rw [List.append_nil, Cursor.after, ways]
      | cons d front =>
        obtain ⟨rfl, behind⟩ := List.cons.inj split
        have nothing := none front back behind (Nat.lt_of_succ_lt_succ shorter)
        simpa using nothing

theorem first?_parts {found : Match α} (first : first? p text = some found) :
    ∃ passed tail, text = passed ++ tail ∧ (p (.after passed tail)).head? = some (found.value, found.stop) ∧
      ∀ front back, text = front ++ back → front.length < passed.length → p (.after front back) = [] :=
  @firstFrom_parts _ p [] text found first

-- A way from the first place that has any is what the search finds there.
theorem first?_least {passed tail : Text} {way : α × Cursor} (more : tail ≠ []) (present : way ∈ p (.after passed tail))
    (least : ∀ front back other, passed ++ tail = front ++ back → other ∈ p (.after front back) →
      passed.length ≤ front.length) :
    ∃ found, first? p (passed ++ tail) = some found ∧ (found.value, found.stop) ∈ p (.after passed tail) := by
  obtain ⟨found, others, all⟩ := List.exists_cons_of_ne_nil (everywhere_ne_nil more present)
  have first : first? p (passed ++ tail) = some found := by rw [first?_eq_head?, all, List.head?_cons]
  refine ⟨found, first, ?_⟩
  obtain ⟨front, back, split, head, none⟩ := first?_parts first
  have reached : front.length ≤ passed.length := by
    refine Nat.le_of_not_lt fun shorter => ?_
    rw [none passed tail rfl shorter] at present
    cases present
  have same := Nat.le_antisymm (least front back _ split (List.mem_of_head? head)) reached
  obtain ⟨rfl, rfl⟩ := List.append_inj split same
  exact List.mem_of_head? head

end search

section boundaries
variable {tail : Text} {way : α × Cursor}

theorem Bounded.opens (bounded : Bounded cls before) :
    ∃ front opening, before = front ++ opening ∧ Opens cls front opening := by
  rcases List.eq_nil_or_concat before with rfl | ⟨front, c, rfl⟩
  · exact ⟨[], [], rfl, .inl ⟨rfl, rfl⟩⟩
  · rw [List.concat_eq_append] at bounded ⊢
    exact ⟨front, [c], rfl, .inr ⟨c, rfl, bounded c (by simp)⟩⟩

theorem Bounded.behind {c : Char} (bounded : Bounded cls front) (outside : cls c = false) (before : Text) :
    Bounded cls (before ++ c :: front) := by
  intro d present
  rw [List.getLast?_append, List.getLast?_cons, Option.some_or] at present
  cases last : front.getLast? with
  | none =>
    rw [last] at present
    cases present
    exact outside
  | some other =>
    rw [last] at present
    cases present
    exact bounded _ last

theorem Opens.length_le {opening : Text} (opens : Opens cls front opening) : opening.length ≤ 1 := by
  rcases opens with ⟨-, rfl⟩ | ⟨c, rfl, -⟩
  · exact Nat.zero_le 1
  · exact Nat.le_refl 1

-- At the start of a text a way that takes no character comes before those that take one.
theorem head?_boundary (head : ((boundary cls >>= fun _ => p) (.after read rest)).head? = some way) :
    ∃ opening tail, rest = opening ++ tail ∧ Opens cls read opening ∧
      way ∈ p (.after (read ++ opening) tail) ∧
      (read = [] → opening ≠ [] → p (.after [] rest) = []) := by
  by_cases bare : read = [] ∧ p (.after [] rest) ≠ []
  · obtain ⟨rfl, some⟩ := bare
    obtain ⟨first, others, ways⟩ := List.exists_cons_of_ne_nil some
    have whole : (boundary cls >>= fun _ => p) (.after [] rest) = p (.after [] rest) ++
        (one (fun c => !cls c) (.after [] rest)).flatMap fun way => p way.2 := rfl
    rw [whole, ways] at head
    cases head
    exact ⟨[], rest, rfl, .inl ⟨rfl, rfl⟩, by simp [ways], fun _ filled => absurd rfl filled⟩
  · obtain ⟨opening, tail, split, opens, found⟩ := boundary_then.mp (List.mem_of_head? head)
    refine ⟨opening, tail, split, opens, found, fun start _ => ?_⟩
    exact Decidable.byContradiction fun some => bare ⟨start, some⟩

end boundaries

section shapes
variable {Shape : β → Text → Prop} {result : α → Cursor → β} {value : β}

-- The ways of the pattern are the readings of the shape, which tells one value at each place.
structure Recognizes (p : Pattern α) (result : α → Cursor → β) (Shape : β → Text → Prop) : Prop where
  sound : ∀ {read rest value stop}, (value, stop) ∈ p (.after read rest) → Shape (result value stop) rest
  complete : ∀ read {rest value}, Shape value rest → ∃ way, way ∈ p (.after read rest)
  unique : ∀ {value other text}, Shape value text → Shape other text → value = other
  filled : ∀ {value text}, Shape value text → text ≠ []

theorem Recognizes.unique_first (recognizes : Recognizes p result Shape) {other : β}
    (first : First cls Shape text value) (second : First cls Shape text other) : value = other := by
  obtain ⟨before, here, split, bounded, shape, least⟩ := first
  obtain ⟨behind, there, splitThere, boundedThere, shapeThere, leastThere⟩ := second
  have places : before.length = behind.length :=
    Nat.le_antisymm (least _ _ _ splitThere boundedThere shapeThere) (leastThere _ _ _ split bounded shape)
  obtain ⟨-, rfl⟩ := List.append_inj (split.symm.trans splitThere) places
  exact recognizes.unique shape shapeThere

theorem Recognizes.first (recognizes : Recognizes p result Shape) {found : Match α}
    (first : first? (boundary cls >>= fun _ => p) text = some found) :
    First cls Shape text (result found.value found.stop) := by
  obtain ⟨passed, tail, rfl, head, none⟩ := first?_parts first
  obtain ⟨opening, here, rfl, opens, way, bare⟩ := head?_boundary head
  refine ⟨passed ++ opening, here, by simp, opens.getLast?, recognizes.sound way, ?_⟩
  intro other there known split bounded shape
  obtain ⟨front, taken, rfl, opensThere⟩ := bounded.opens
  obtain ⟨wayThere, present⟩ := recognizes.complete (front ++ taken) shape
  have later : passed.length ≤ front.length := by
    refine Nat.le_of_not_lt fun shorter => ?_
    have nothing := none front (taken ++ there) (by simpa using split) shorter
    have way : wayThere ∈ (boundary cls >>= fun _ => p) (.after front (taken ++ there)) :=
      boundary_then.mpr ⟨taken, there, rfl, opensThere, present⟩
    rw [nothing] at way
    cases way
  have short := opens.length_le
  rw [List.length_append, List.length_append]
  rcases opensThere with ⟨rfl, rfl⟩ | ⟨c, rfl, -⟩
  · -- The shape at the start of the text would have been taken.
    obtain rfl := List.length_eq_zero_iff.mp (Nat.le_zero.mp later)
    obtain rfl : opening = [] := by
      refine Decidable.byContradiction fun filled => ?_
      have nothing := bare rfl filled
      obtain rfl : opening ++ here = there := split
      rw [List.append_nil, nothing] at present
      cases present
    exact Nat.le_refl _
  · exact Nat.add_le_add later short

theorem Recognizes.exists_match (recognizes : Recognizes p result Shape) {here : Text} (bounded : Bounded cls before)
    (shape : Shape value here) : ∃ found, first? (boundary cls >>= fun _ => p) (before ++ here) = some found := by
  obtain ⟨front, opening, rfl, opens⟩ := bounded.opens
  obtain ⟨way, present⟩ := recognizes.complete (front ++ opening) shape
  have more : opening ++ here ≠ [] := by simp [recognizes.filled shape]
  have behind : way ∈ (boundary cls >>= fun _ => p) (.after front (opening ++ here)) :=
    boundary_then.mpr ⟨opening, here, rfl, opens, present⟩
  rw [first?_eq_head?, List.append_assoc, ← Option.isSome_iff_exists, List.isSome_head?]
  exact everywhere_ne_nil more behind

theorem Recognizes.exists_first (recognizes : Recognizes p result Shape) {here : Text} (bounded : Bounded cls before)
    (shape : Shape value here) : ∃ known, First cls Shape (before ++ here) known := by
  obtain ⟨found, search⟩ := recognizes.exists_match bounded shape
  exact ⟨_, recognizes.first search⟩

-- The value at the leftmost place is what the search finds.
theorem Recognizes.first_iff (recognizes : Recognizes p result Shape) :
    (first? (boundary cls >>= fun _ => p) text).map (fun found => result found.value found.stop) = some value ↔
      First cls Shape text value := by
  constructor
  · intro search
    obtain ⟨found, first, rfl⟩ := Option.map_eq_some_iff.mp search
    exact recognizes.first first
  · intro first
    have ⟨_, _, split, bounded, shape, _⟩ := first
    obtain ⟨found, search⟩ := recognizes.exists_match bounded shape
    rw [← split] at search
    rw [search, Option.map_some, recognizes.unique_first (recognizes.first search) first]

end shapes
end StreamLinks.Pattern
