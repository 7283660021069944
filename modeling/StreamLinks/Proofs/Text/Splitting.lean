import StreamLinks.Proofs.Text.Classes
/-!
Cutting and splitting a text at a character, and trimming.

A piece in which the character does not occur is what comes before its first occurrence. Trimming
leaves a text alone that neither begins nor ends with a blank.
-/
namespace StreamLinks.Text

variable {sep : Char} {piece rest : Text}

theorem cut_piece (absent : sep ∉ piece) (rest : Text) :
    cut [sep] (piece ++ sep :: rest) = some (piece, rest) := by
  induction piece with
  | nil => simp [cut, after?]
  | cons c piece ih =>
    rw [List.mem_cons, not_or] at absent
    obtain ⟨different, absent⟩ := absent
    simp only [List.cons_append, cut, after?, if_neg different, ih absent, Option.map_some]

theorem splitAtChar_piece (absent : sep ∉ piece) (rest : Text) :
    splitAtChar sep (piece ++ sep :: rest) = piece :: splitAtChar sep rest := by
  induction piece with
  | nil => simp [splitAtChar]
  | cons c piece ih =>
    rw [List.mem_cons, not_or] at absent
    obtain ⟨different, absent⟩ := absent
    simp only [List.cons_append, splitAtChar, if_neg (Ne.symm different), ih absent, consPiece]

theorem splitAtChar_last (absent : sep ∉ piece) : splitAtChar sep piece = [piece] := by
  induction piece with
  | nil => rfl
  | cons c piece ih =>
    rw [List.mem_cons, not_or] at absent
    obtain ⟨different, absent⟩ := absent
    simp only [splitAtChar, if_neg (Ne.symm different), ih absent, consPiece]

theorem splitAtChar_ne_nil (sep : Char) (text : Text) : splitAtChar sep text ≠ [] := by
  cases text with
  | nil => exact List.cons_ne_nil _ _
  | cons c text =>
    unfold splitAtChar
    split
    · exact List.cons_ne_nil _ _
    · cases splitAtChar sep text <;> exact List.cons_ne_nil _ _

theorem splitAtChar_append (front back : Text) :
    splitAtChar sep (front ++ sep :: back) = splitAtChar sep front ++ splitAtChar sep back := by
  induction front with
  | nil => simp [splitAtChar]
  | cons c front ih =>
    obtain ⟨piece, pieces, split⟩ := List.exists_cons_of_ne_nil (splitAtChar_ne_nil sep front)
    rw [List.cons_append, splitAtChar, splitAtChar, ih, split]
    split <;> rfl

theorem exists_pieces (sep : Char) (text : Text) : ∃ first pieces, (∀ piece ∈ first :: pieces, sep ∉ piece) ∧
    text = first ++ pieces.flatMap (sep :: ·) := by
  induction text with
  | nil => exact ⟨[], [], by simp, rfl⟩
  | cons c text ih =>
    obtain ⟨first, pieces, clean, rfl⟩ := ih
    by_cases same : c = sep
    · subst same
      exact ⟨[], first :: pieces, List.forall_mem_cons.mpr ⟨List.not_mem_nil, clean⟩, rfl⟩
    · obtain ⟨cleanFirst, cleanOthers⟩ := List.forall_mem_cons.mp clean
      refine ⟨c :: first, pieces, List.forall_mem_cons.mpr ⟨?_, cleanOthers⟩, rfl⟩
      rw [List.mem_cons, not_or]
      exact ⟨Ne.symm same, cleanFirst⟩

theorem splitAtChar_pieces {first : Text} {pieces : List Text}
    (clean : ∀ piece ∈ first :: pieces, sep ∉ piece) :
    splitAtChar sep (first ++ pieces.flatMap (sep :: ·)) = first :: pieces := by
  induction pieces generalizing first with
  | nil => simpa using splitAtChar_last (clean first List.mem_cons_self)
  | cons next pieces ih =>
    obtain ⟨cleanFirst, cleanOthers⟩ := List.forall_mem_cons.mp clean
    rw [List.flatMap_cons, List.cons_append, splitAtChar_piece cleanFirst, ih cleanOthers]

theorem splitAtChar_between {items : List Text} (clean : ∀ item ∈ items, sep ∉ item) (before after : Text) :
    splitAtChar sep (before ++ (items.flatMap (sep :: ·) ++ sep :: after)) =
      splitAtChar sep before ++ (items ++ splitAtChar sep after) := by
  induction items generalizing before with
  | nil => exact splitAtChar_append before after
  | cons item items ih =>
    obtain ⟨cleanItem, cleanOthers⟩ := List.forall_mem_cons.mp clean
    rw [List.flatMap_cons, List.cons_append, List.cons_append, List.append_assoc, splitAtChar_append,
      ih cleanOthers, splitAtChar_last cleanItem]
    rfl

-- Pieces that stand next to each other in a text, each with the character before and behind it.
theorem between_iff {first : Text} {pieces items : List Text}
    (clean : ∀ piece ∈ first :: pieces, sep ∉ piece) (cleanItems : ∀ item ∈ items, sep ∉ item) :
    (∃ before after, first ++ pieces.flatMap (sep :: ·) =
      before ++ (items.flatMap (sep :: ·) ++ sep :: after)) ↔
        ∃ front last back, pieces = front ++ (items ++ last :: back) := by
  constructor
  · rintro ⟨before, after, same⟩
    have split := congrArg (splitAtChar sep) same
    rw [splitAtChar_pieces clean, splitAtChar_between cleanItems] at split
    obtain ⟨_, front, splitBefore⟩ := List.exists_cons_of_ne_nil (splitAtChar_ne_nil sep before)
    obtain ⟨last, back, splitAfter⟩ := List.exists_cons_of_ne_nil (splitAtChar_ne_nil sep after)
    rw [splitBefore, splitAfter] at split
    exact ⟨front, last, back, (List.cons.inj split).2⟩
  · rintro ⟨front, last, back, rfl⟩
    exact ⟨first ++ front.flatMap (sep :: ·), last ++ back.flatMap (sep :: ·), by simp⟩

-- Lines that each end with a break are the text with a break behind it.
theorem flatMap_splitAtChar (sep : Char) (text : Text) :
    (splitAtChar sep text).flatMap (· ++ [sep]) = text ++ [sep] := by
  induction text with
  | nil => rfl
  | cons c text ih =>
    by_cases same : c = sep
    · subst same
      simp [splitAtChar, ih]
    · cases pieces : splitAtChar sep text <;> simp_all [splitAtChar, consPiece]

theorem trimStart_of_head (outside : ∀ c ∈ piece.head?, isBlank c = false) : trimStart piece = piece := by
  cases piece with
  | nil => rfl
  | cons c piece => simp [trimStart, outside c rfl]

theorem trim_of_ends (first : ∀ c ∈ piece.head?, isBlank c = false)
    (last : ∀ c ∈ piece.getLast?, isBlank c = false) : trim piece = piece := by
  rw [trim, trimStart_of_head first, trimEnd]
  have reversed : piece.reverse.dropWhile isBlank = piece.reverse :=
    trimStart_of_head (by simpa using last)
  rw [reversed, List.reverse_reverse]

theorem trim_between {piece front back : Text} (before : ∀ c ∈ front, isBlank c = true)
    (behind : ∀ c ∈ back, isBlank c = true) (filled : piece ≠ []) (clean : ∀ c ∈ piece, isBlank c = false) :
    trim (front ++ (piece ++ back)) = piece := by
  have starts : trimStart (front ++ (piece ++ back)) = piece ++ back := by
    refine dropWhile_of_all before ?_
    intro c present
    cases piece with
    | nil => exact absurd rfl filled
    | cons d piece =>
      cases present
      exact clean _ List.mem_cons_self
  have ends : (piece ++ back).reverse.dropWhile isBlank = piece.reverse := by
    rw [List.reverse_append]
    refine dropWhile_of_all (by simpa using behind) ?_
    intro c present
    exact clean c (by simpa using List.mem_of_mem_head? present)
  rw [trim, starts, trimEnd, ends, List.reverse_reverse]

end StreamLinks.Text
