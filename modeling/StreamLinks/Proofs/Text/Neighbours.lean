import StreamLinks.Proofs.Text.Cutting
/-!
Replacing a piece together with the separators on both sides of it.

Two pieces that stand next to each other share the separator between them, and an occurrence that was
replaced has used up both of its own. So of equal pieces in a row only every other one is replaced, the
first among them.
-/
namespace StreamLinks.Text

variable {sep : Char} {mark old new first piece rest : Text} {pieces : List Text}

theorem replaceAll_here (filled : mark ≠ []) (rest : Text) :
    replaceAll mark new (mark ++ rest) = new ++ replaceAll mark new rest := by
  have found : cut mark (mark ++ rest) = some ([], rest) :=
    cut_eq_some.2 ⟨rfl, fun front back _ => Nat.zero_le _⟩
  rw [replaceAll_of_cut filled found, List.nil_append]

theorem replaceAll_cons {c : Char} (other : ¬ mark <+: c :: rest) :
    replaceAll mark new (c :: rest) = c :: replaceAll mark new rest := by
  have nothing : startsWith mark (c :: rest) = false := by
    rw [startsWith, after?_eq_none.mpr other]
    rfl
  simp only [replaceAll, splitOn, splitFrom, nothing, Bool.false_eq_true, if_false]
  exact join_consPiece new c (splitFrom_ne_nil mark 0 rest)

theorem replaceAll_piece (absent : sep ∉ piece) (rest : Text) :
    replaceAll (sep :: mark) new (piece ++ rest) = piece ++ replaceAll (sep :: mark) new rest := by
  induction piece with
  | nil => rfl
  | cons c piece ih =>
    rw [List.mem_cons, not_or] at absent
    obtain ⟨different, absent⟩ := absent
    have other : ¬ sep :: mark <+: c :: (piece ++ rest) :=
      fun begins => different (List.cons_prefix_cons.mp begins).1
    rw [List.cons_append, replaceAll_cons other, ih absent, List.cons_append]

-- A piece is told by the separator behind it.
theorem piece_unique (absentOld : sep ∉ old) (absent : sep ∉ piece)
    (begins : old ++ [sep] <+: piece ++ sep :: rest) : piece = old := by
  obtain ⟨behind, same⟩ := begins
  rw [List.append_assoc, List.singleton_append] at same
  have cutPiece := cut_piece absent rest
  rw [← same, cut_piece absentOld] at cutPiece
  exact (Prod.mk.inj (Option.some.inj cutPiece)).1.symm

-- What becomes of the pieces behind the first one. A piece that is put in place of another one leaves no
-- separator for the piece behind it.
def exchange (old new : Text) : List Text → List Text
  | [] => []
  | [last] => [last]
  | piece :: next :: pieces =>
    if piece = old then new :: next :: exchange old new pieces
    else piece :: exchange old new (next :: pieces)

theorem replaceAll_pieces (absent : sep ∉ old) (new : Text)
    (clean : ∀ piece ∈ first :: pieces, sep ∉ piece) :
    replaceAll (sep :: (old ++ [sep])) (sep :: (new ++ [sep])) (first ++ pieces.flatMap (sep :: ·)) =
      first ++ (exchange old new pieces).flatMap (sep :: ·) := by
  fun_induction exchange old new pieces generalizing first with
  | case1 =>
    rw [replaceAll_piece (clean first List.mem_cons_self)]
    rfl
  | case2 last =>
    obtain ⟨cleanFirst, cleanLast⟩ := List.forall_mem_cons.mp clean
    have cleanLast : sep ∉ last := cleanLast last List.mem_cons_self
    have other : ¬ sep :: (old ++ [sep]) <+: sep :: last := by
      intro begins
      have ends : sep ∈ old ++ [sep] := List.mem_append_right _ List.mem_cons_self
      exact cleanLast ((List.cons_prefix_cons.mp begins).2.subset ends)
    have plain : replaceAll (sep :: (old ++ [sep])) (sep :: (new ++ [sep])) (last ++ []) =
        last ++ replaceAll (sep :: (old ++ [sep])) (sep :: (new ++ [sep])) [] :=
      replaceAll_piece cleanLast []
    rw [List.append_nil] at plain
    rw [replaceAll_piece cleanFirst, List.flatMap_singleton, replaceAll_cons other, plain]
    simp [replaceAll, splitOn, splitFrom, join]
  | case3 next pieces ih =>
    obtain ⟨cleanFirst, cleanOthers⟩ := List.forall_mem_cons.mp clean
    obtain ⟨-, cleanNext⟩ := List.forall_mem_cons.mp cleanOthers
    have here : (old :: next :: pieces).flatMap (sep :: ·) =
        sep :: (old ++ [sep]) ++ (next ++ pieces.flatMap (sep :: ·)) := by simp
    rw [replaceAll_piece cleanFirst, here, replaceAll_here (by simp), ih cleanNext]
    simp
  | case4 piece next pieces different ih =>
    obtain ⟨cleanFirst, cleanOthers⟩ := List.forall_mem_cons.mp clean
    have cleanPiece : sep ∉ piece := cleanOthers piece List.mem_cons_self
    have other : ¬ sep :: (old ++ [sep]) <+: sep :: (piece ++ (next :: pieces).flatMap (sep :: ·)) := by
      intro begins
      exact different (piece_unique absent cleanPiece (List.cons_prefix_cons.mp begins).2)
    rw [replaceAll_piece cleanFirst, List.flatMap_cons, List.cons_append, replaceAll_cons other,
      ih cleanOthers]
    rfl

-- How many pieces equal to this one stand directly before a place.
def runBefore (old : Text) (pieces : List Text) : (place : Nat) → Nat
  | 0 => 0
  | place + 1 => if pieces[place]? = some old then runBefore old pieces place + 1 else 0

theorem runBefore_of_ne (different : piece ≠ old) (pieces : List Text) (place : Nat) :
    runBefore old (piece :: pieces) (place + 1) = runBefore old pieces place := by
  induction place with
  | zero => simp [runBefore, different]
  | succ place ih => rw [runBefore, List.getElem?_cons_succ, ih, runBefore]

-- Two pieces further to the left change nothing about whether a run is even, if it reaches to them at all.
theorem runBefore_parity (old next : Text) (pieces : List Text) (place : Nat) :
    runBefore old (old :: next :: pieces) (place + 2) % 2 = runBefore old pieces place % 2 := by
  induction place with
  | zero => by_cases same : next = old <;> simp [runBefore, same]
  | succ place ih =>
    rw [runBefore, List.getElem?_cons_succ, List.getElem?_cons_succ, runBefore.eq_2 old pieces]
    split
    · omega
    · rfl

theorem getElem?_exchange (old new : Text) (pieces : List Text) (place : Nat) :
    (exchange old new pieces)[place]? = pieces[place]?.map fun piece =>
      if place + 1 < pieces.length ∧ piece = old ∧ runBefore old pieces place % 2 = 0 then new
      else piece := by
  fun_induction exchange old new pieces generalizing place with
  | case1 => rfl
  | case2 last => cases place <;> simp
  | case3 next pieces ih =>
    match place with
    | 0 => simp [runBefore]
    | 1 =>
      have odd : runBefore old (old :: next :: pieces) 1 = 1 := by simp [runBefore]
      simp [odd]
    | place + 2 =>
      have inside : place + 2 + 1 < pieces.length + 1 + 1 ↔ place + 1 < pieces.length := by omega
      simp only [List.getElem?_cons_succ, ih, List.length_cons, runBefore_parity, inside]
  | case4 piece next pieces different ih =>
    match place with
    | 0 => simp [different]
    | place + 1 =>
      rw [List.getElem?_cons_succ, List.getElem?_cons_succ, ih]
      simp [runBefore_of_ne different]

theorem not_mem_exchange (absent : sep ∉ new) (clean : ∀ piece ∈ pieces, sep ∉ piece) :
    ∀ piece ∈ exchange old new pieces, sep ∉ piece := by
  intro piece present
  obtain ⟨place, found⟩ := List.mem_iff_getElem?.mp present
  rw [getElem?_exchange] at found
  obtain ⟨source, here, rfl⟩ := Option.map_eq_some_iff.mp found
  split
  · exact absent
  · exact clean source (List.mem_of_getElem? here)

theorem splitAtChar_replaceAll (absentOld : sep ∉ old) (absentNew : sep ∉ new) (text : Text) :
    ∃ first pieces, splitAtChar sep text = first :: pieces ∧
      splitAtChar sep (replaceAll (sep :: (old ++ [sep])) (sep :: (new ++ [sep])) text) =
        first :: exchange old new pieces := by
  obtain ⟨first, pieces, clean, rfl⟩ := exists_pieces sep text
  refine ⟨first, pieces, splitAtChar_pieces clean, ?_⟩
  rw [replaceAll_pieces absentOld new clean]
  apply splitAtChar_pieces
  obtain ⟨cleanFirst, cleanOthers⟩ := List.forall_mem_cons.mp clean
  exact List.forall_mem_cons.mpr ⟨cleanFirst, not_mem_exchange absentNew cleanOthers⟩

end StreamLinks.Text
