import StreamLinks.Proofs.Search.Found
/-!
Matches that do not overlap.

A search for all matches takes the leftmost one and goes on behind it. So a match is found exactly if no
match that is found reaches over its start. A replacement goes through the text in the same way: what no
match begins at stays, and behind a match it goes on with the rest.
-/
namespace StreamLinks.Pattern
variable {α : Type} {p : Pattern α} {read rest text : Text}

section order

theorem matchesFrom_next (p : Pattern α) (read : Text) (c : Char) (rest : Text) :
    matchesFrom p (read.length + 1) (some c) rest =
      matchesFrom p (read ++ [c]).length (read ++ [c]).getLast? rest := by simp

theorem le_start_of_mem {found : Match α}
    (present : found ∈ matchesFrom p read.length read.getLast? rest) : read.length ≤ found.start := by
  obtain ⟨passed, tail, -, starts, -⟩ := way_of_mem_matchesFrom present
  rw [starts, List.length_append]
  exact Nat.le_add_right _ _

theorem pairwise_matchesFrom (p : Pattern α) (read rest : Text) :
    (matchesFrom p read.length read.getLast? rest).Pairwise (·.start < ·.start) := by
  induction rest generalizing read with
  | nil => exact .nil
  | cons c rest ih =>
    have later := ih (read ++ [c])
    rw [← matchesFrom_next] at later
    simp only [matchesFrom]
    split
    · refine .cons ?_ later
      intro other present
      rw [matchesFrom_next] at present
      have behind := le_start_of_mem present
      rwa [List.length_append] at behind
    · exact later

theorem pairwise_everywhere (p : Pattern α) (text : Text) :
    (everywhere p text).Pairwise (·.start < ·.start) := pairwise_matchesFrom p [] text

-- Where the ways all agree, they are the match at their place.
theorem mem_matchesFrom {passed tail : Text} {way : α × Cursor} (more : tail ≠ [])
    (present : way ∈ p (.after (read ++ passed) tail))
    (same : ∀ other ∈ p (.after (read ++ passed) tail), other = way) :
    ⟨(read ++ passed).length, way.2, way.1⟩ ∈
      matchesFrom p read.length read.getLast? (passed ++ tail) := by
  induction passed generalizing read with
  | nil =>
    obtain ⟨c, tail, rfl⟩ := List.exists_cons_of_ne_nil more
    rw [List.append_nil] at present same ⊢
    obtain ⟨first, others, ways⟩ := List.exists_cons_of_ne_nil (List.ne_nil_of_mem present)
    obtain rfl := same first (by rw [ways]; exact List.mem_cons_self)
    have here : p ⟨read.length, read.getLast?, c :: tail⟩ = first :: others := ways
    simp only [List.nil_append, matchesFrom, here]
    exact List.mem_cons_self
  | cons c passed ih =>
    have whole : read ++ c :: passed = (read ++ [c]) ++ passed := by simp
    rw [whole] at present same ⊢
    have later := ih present same
    rw [← matchesFrom_next] at later
    simp only [List.cons_append, matchesFrom]
    split
    · exact List.mem_cons_of_mem _ later
    · exact later

theorem mem_everywhere {passed tail : Text} {way : α × Cursor} (more : tail ≠ [])
    (present : way ∈ p (.after passed tail)) (same : ∀ other ∈ p (.after passed tail), other = way) :
    ⟨passed.length, way.2, way.1⟩ ∈ everywhere p (passed ++ tail) :=
  @mem_matchesFrom _ p [] passed tail way more present same

theorem apart_sublist (least : Nat) (candidates : List (Match α)) : (apart least candidates).Sublist candidates := by
  induction candidates generalizing least with
  | nil => exact .slnil
  | cons first later ih =>
    unfold apart
    split
    · exact (ih first.stop.offset).cons_cons first
    · exact (ih least).cons first

theorem mem_apart_iff {candidates : List (Match α)} (sorted : candidates.Pairwise (·.start < ·.start))
    {least : Nat} {found : Match α} : found ∈ apart least candidates ↔
      found ∈ candidates ∧ least ≤ found.start ∧
        ∀ other ∈ apart least candidates, other.start < found.start → other.stop.offset ≤ found.start := by
  induction sorted generalizing least found with
  | nil => simp [apart]
  | @cons first later before _ ih =>
    unfold apart
    by_cases reached : least ≤ first.start
    · rw [if_pos reached]
      constructor
      · intro kept
        rcases List.mem_cons.mp kept with rfl | kept
        · refine ⟨List.mem_cons_self, reached, ?_⟩
          intro other present earlier
          rcases List.mem_cons.mp present with rfl | present
          · exact absurd earlier (Nat.lt_irrefl _)
          · exact absurd earlier (Nat.lt_asymm (before other (ih.mp present).1))
        · obtain ⟨present, behind, free⟩ := ih.mp kept
          refine ⟨List.mem_cons_of_mem _ present, Nat.le_trans reached (Nat.le_of_lt (before found present)), ?_⟩
          intro other present earlier
          rcases List.mem_cons.mp present with rfl | present
          · exact behind
          · exact free other present earlier
      · rintro ⟨present, -, free⟩
        rcases List.mem_cons.mp present with rfl | present
        · exact List.mem_cons_self
        · refine List.mem_cons_of_mem _ (ih.mpr ⟨present, ?_, ?_⟩)
          · exact free first List.mem_cons_self (before found present)
          · intro other kept
            exact free other (List.mem_cons_of_mem _ kept)
    · rw [if_neg reached, ih]
      constructor
      · rintro ⟨present, known⟩
        exact ⟨List.mem_cons_of_mem _ present, known⟩
      · rintro ⟨present, behind, free⟩
        rcases List.mem_cons.mp present with rfl | present
        · exact absurd behind reached
        · exact ⟨present, behind, free⟩

-- A candidate that no earlier one reaches over is kept.
theorem mem_apart_of_alone {candidates : List (Match α)} (sorted : candidates.Pairwise (·.start < ·.start))
    {found : Match α} (present : found ∈ candidates)
    (alone : ∀ other ∈ candidates, other.start < found.start → other.stop.offset ≤ found.start) :
    found ∈ apart 0 candidates :=
  (mem_apart_iff sorted).mpr ⟨present, Nat.zero_le _, fun other kept => alone other ((mem_apart_iff sorted).mp kept).1⟩

-- A candidate that one earlier candidate reaches over, and no other, is kept exactly if this one is not.
theorem mem_apart_behind {candidates : List (Match α)} (sorted : candidates.Pairwise (·.start < ·.start))
    {found around : Match α} (present : found ∈ candidates) (earlier : around.start < found.start)
    (reaches : found.start < around.stop.offset)
    (only : ∀ other ∈ candidates, other.start < found.start → found.start < other.stop.offset → other = around) :
    found ∈ apart 0 candidates ↔ around ∉ apart 0 candidates := by
  rw [mem_apart_iff sorted]
  constructor
  · rintro ⟨-, -, free⟩ kept
    exact Nat.not_le_of_lt reaches (free around kept earlier)
  · intro passed
    refine ⟨present, Nat.zero_le _, fun other kept before => Nat.le_of_not_lt fun across => ?_⟩
    obtain rfl := only other ((mem_apart_iff sorted).mp kept).1 before across
    exact passed kept

theorem mem_all_iff {found : Match α} : found ∈ all p text ↔ found ∈ everywhere p text ∧
    ∀ other ∈ all p text, other.start < found.start → other.stop.offset ≤ found.start := by
  rw [all, mem_apart_iff (pairwise_everywhere p text)]
  simp only [Nat.zero_le, true_and]

theorem pairwise_all (p : Pattern α) (text : Text) : (all p text).Pairwise (·.start < ·.start) :=
  (pairwise_everywhere p text).sublist (apart_sublist 0 _)

end order

section replacement
variable {new : Text}

-- The matches from a place on.
def allFrom (p : Pattern α) (read rest : Text) : List (Match α) :=
  apart read.length (matchesFrom p read.length read.getLast? rest)

theorem apart_of_le {candidates : List (Match α)} {least bound : Nat} (within : least ≤ bound)
    (behind : ∀ found ∈ candidates, bound ≤ found.start) :
    apart least candidates = apart bound candidates := by
  cases candidates with
  | nil => rfl
  | cons first later =>
    have reached := behind first List.mem_cons_self
    rw [apart, apart, if_pos reached, if_pos (Nat.le_trans within reached)]

theorem allFrom_next {c : Char} (none : p (.after read (c :: rest)) = []) :
    allFrom p read (c :: rest) = allFrom p (read ++ [c]) rest := by
  have here : p ⟨read.length, read.getLast?, c :: rest⟩ = [] := none
  rw [allFrom, matchesFrom, here]
  dsimp only
  rw [matchesFrom_next]
  exact apart_of_le (by simp) fun _ => le_start_of_mem

-- What begins within a stretch that is passed over is left out.
theorem apart_skip (p : Pattern α) (read skipped rest : Text) :
    apart (read ++ skipped).length (matchesFrom p read.length read.getLast? (skipped ++ rest)) =
      allFrom p (read ++ skipped) rest := by
  induction skipped generalizing read with
  | nil => rw [List.append_nil]; rfl
  | cons c skipped ih =>
    have whole : read ++ c :: skipped = (read ++ [c]) ++ skipped := by simp
    have later := ih (read ++ [c])
    rw [← matchesFrom_next] at later
    rw [whole, ← later, List.cons_append, matchesFrom]
    split
    · rw [apart, if_neg (by simp)]
    · rfl

theorem allFrom_match {mark : Text} {value : α} (filled : mark ≠ [])
    (first : (p (.after read (mark ++ rest))).head? = some (value, .after (read ++ mark) rest)) :
    allFrom p read (mark ++ rest) =
      ⟨read.length, .after (read ++ mark) rest, value⟩ :: allFrom p (read ++ mark) rest := by
  obtain ⟨c, mark, rfl⟩ := List.exists_cons_of_ne_nil filled
  obtain ⟨others, ways⟩ := List.head?_eq_some_iff.mp first
  have here : p ⟨read.length, read.getLast?, c :: (mark ++ rest)⟩ = (value, _) :: others := ways
  have whole : read ++ c :: mark = (read ++ [c]) ++ mark := by simp
  have later := apart_skip p (read ++ [c]) mark rest
  rw [allFrom, List.cons_append, matchesFrom, here]
  dsimp only
  rw [apart, if_pos (Nat.le_refl _), matchesFrom_next, whole]
  exact congrArg (_ :: ·) later

theorem start_of_mem_allFrom {found : Match α} (present : found ∈ allFrom p read rest) :
    read.length ≤ found.start :=
  le_start_of_mem ((mem_apart_iff (pairwise_matchesFrom p read rest)).mp present).1

-- The rest of a text with its matches replaced.
def replaceFrom (p : Pattern α) (new read rest : Text) : Text :=
  replaceAll new read.length rest (allFrom p read rest)

theorem replace_eq (p : Pattern α) (new text : Text) : replace p new text = replaceFrom p new [] text := rfl

theorem replaceFrom_nil : replaceFrom p new read [] = [] := rfl

theorem replaceFrom_next {c : Char} (none : p (.after read (c :: rest)) = []) :
    replaceFrom p new read (c :: rest) = c :: replaceFrom p new (read ++ [c]) rest := by
  unfold replaceFrom
  rw [allFrom_next none, List.length_append, List.length_singleton]
  cases found : allFrom p (read ++ [c]) rest with
  | nil => rfl
  | cons first later =>
    have behind := start_of_mem_allFrom (found ▸ List.mem_cons_self : first ∈ allFrom p (read ++ [c]) rest)
    rw [List.length_append, List.length_singleton] at behind
    obtain ⟨more, starts⟩ := Nat.exists_eq_add_of_le behind
    have fromHere : first.start - read.length = more + 1 := by omega
    have fromNext : first.start - (read.length + 1) = more := by omega
    simp only [replaceAll, fromHere, fromNext, List.take_succ_cons, List.cons_append]

theorem replaceFrom_match {mark : Text} {value : α} (filled : mark ≠ [])
    (first : (p (.after read (mark ++ rest))).head? = some (value, .after (read ++ mark) rest)) :
    replaceFrom p new read (mark ++ rest) = new ++ replaceFrom p new (read ++ mark) rest := by
  unfold replaceFrom
  rw [allFrom_match filled first, replaceAll, Nat.sub_self, List.take_zero, List.nil_append]
  rfl

end replacement
end StreamLinks.Pattern
