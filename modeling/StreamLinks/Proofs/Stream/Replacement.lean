import Mathlib.Data.List.TakeWhile
import StreamLinks.Proofs.Stream.Address
import StreamLinks.Proofs.Text.Neighbours
/-!
What replacing the `n` token does to an address.

The token that is read from an address is always among those that are replaced, so the new token is read
instead. Of other places with the same token those are left out that stand directly behind a replaced one.
-/
namespace StreamLinks.Address

variable {address old new : Text} {pieces : List Text}

-- What is read of the new token ends at its first ampersand.
theorem token?_replaceToken_takeWhile (found : token? address = some old) (new : Text) :
    token? (replaceToken old new address) = some (new.takeWhile (· ≠ '&')) := by
  obtain ⟨head, rest, first⟩ := cut_replaceToken found new
  have plain : '&' ∉ new.takeWhile (· ≠ '&') := by
    intro present
    simpa using List.mem_takeWhile_imp present
  have split : new ++ '&' :: rest =
      new.takeWhile (· ≠ '&') ++ (new.dropWhile (· ≠ '&') ++ '&' :: rest) := by
    rw [← List.append_assoc, List.takeWhile_append_dropWhile]
  refine token?_eq_some.2 ⟨plain, head, ?_⟩
  cases left : new.dropWhile (· ≠ '&') with
  | nil => exact ⟨rest, by rw [first, split, left, List.nil_append]⟩
  | cons c behind =>
    have closing : c = '&' := by
      have outside := List.head?_dropWhile_not (· ≠ '&') new
      rw [left] at outside
      simpa using outside
    exact ⟨behind ++ '&' :: rest, by rw [first, split, left, closing, List.cons_append]⟩

-- Whatever the old token is and however often it occurs. A new one with an ampersand is cut short.
theorem replaced_read (found : token? address = some old) (new : Text) :
    (token? (replaceToken old new address) = some new ↔ '&' ∉ new) ∧
      token? (replaceToken old new address) = some (new.takeWhile (· ≠ '&')) := by
  refine ⟨⟨fun read => (token?_eq_some.1 read).1, token?_replaceToken found⟩, ?_⟩
  exact token?_replaceToken_takeWhile found new

-- An empty token that occurs three times, and a new one that looks like a parameter of its own.
theorem replaced_read_empty :
    let address := "https://h/v?a=1&n=&n=&b=2&n=&n=n=&c".toList
    let new := "n=n=".toList
    (token? address = some [] ∧ '&' ∉ new) ∧ token? (replaceToken [] new address) = some new := by
  intro address new
  have found : token? address = some [] := by decide
  have plain : '&' ∉ new := by decide
  exact ⟨⟨found, plain⟩, (replaced_read found new).1.mpr plain⟩

-- A piece that gives the token its value.
def assignment (token : Text) : Text := "n=".toList ++ token

theorem tokenField_eq (token : Text) : tokenField token = '&' :: (assignment token ++ ['&']) := rfl

theorem assignment_injective (same : assignment new = assignment old) : new = old :=
  List.append_cancel_left same

theorem ampersand_not_mem_assignment (plain : '&' ∉ old) : '&' ∉ assignment old := by
  rw [assignment, List.mem_append, not_or]
  exact ⟨by decide, plain⟩

-- The pieces with the new token in every place but the first and the last that has the old one.
def renamed (old new : Text) (pieces : List Text) : List Text :=
  pieces.mapIdx fun place piece =>
    if 0 < place ∧ place + 1 < pieces.length ∧ piece = assignment old then assignment new else piece

-- Two neighbours between the first piece and the last one have the token.
def Repeated (token : Text) (pieces : List Text) : Prop :=
  ∃ place, 0 < place ∧ place + 2 < pieces.length ∧ pieces[place]? = some (assignment token) ∧
    pieces[place + 1]? = some (assignment token)

-- The same without the pieces that stand behind an odd number of their like in a row. The first piece is
-- not counted, as nothing separates it from what stands before.
def alternated (old new : Text) (pieces : List Text) : List Text :=
  pieces.mapIdx fun place piece =>
    if 0 < place ∧ place + 1 < pieces.length ∧ piece = assignment old ∧
        Text.runBefore (assignment old) pieces.tail (place - 1) % 2 = 0 then assignment new
    else piece

theorem splitAtChar_replaceToken (plainOld : '&' ∉ old) (plainNew : '&' ∉ new) (address : Text) :
    Text.splitAtChar '&' (replaceToken old new address) =
      alternated old new (Text.splitAtChar '&' address) := by
  obtain ⟨first, pieces, split, replaced⟩ := Text.splitAtChar_replaceAll
    (ampersand_not_mem_assignment plainOld) (ampersand_not_mem_assignment plainNew) address
  rw [← tokenField_eq, ← tokenField_eq] at replaced
  rw [replaceToken, replaced, split, alternated]
  apply List.ext_getElem?
  intro place
  cases place with
  | zero => simp
  | succ place =>
    rw [List.getElem?_cons_succ, Text.getElem?_exchange, List.getElem?_mapIdx, List.getElem?_cons_succ]
    simp

-- Between neighbours the count goes up by one, so both are renamed only if it need not be even.
theorem not_repeated_of_alternated (different : new ≠ old)
    (same : alternated old new pieces = renamed old new pieces) : ¬ Repeated old pieces := by
  have even {place : Nat} (behind : 0 < place) (before : place + 1 < pieces.length)
      (here : pieces[place]? = some (assignment old)) :
      Text.runBefore (assignment old) pieces.tail (place - 1) % 2 = 0 := by
    have both := congrArg (·[place]?) same
    simp only [alternated, renamed, List.getElem?_mapIdx, here, behind, before, true_and, if_true,
      Option.map_some, Option.some.injEq] at both
    by_contra odd
    rw [if_neg odd] at both
    exact different (assignment_injective both.symm)
  rintro ⟨place, behind, before, here, next⟩
  obtain ⟨place, rfl⟩ := Nat.exists_eq_add_one.mpr behind
  have evenHere : Text.runBefore (assignment old) pieces.tail place % 2 = 0 :=
    even behind (by omega) here
  have evenNext : Text.runBefore (assignment old) pieces.tail (place + 1) % 2 = 0 :=
    even (Nat.succ_pos _) before next
  rw [Text.runBefore, List.getElem?_tail, if_pos here] at evenNext
  omega

theorem alternated_of_not_repeated (unrepeated : ¬ Repeated old pieces) :
    alternated old new pieces = renamed old new pieces := by
  apply List.ext_getElem?
  intro place
  rw [alternated, renamed, List.getElem?_mapIdx, List.getElem?_mapIdx]
  cases here : pieces[place]? with
  | none => rfl
  | some piece =>
    refine congrArg some (if_congr ?_ rfl rfl)
    refine and_congr_right fun behind => and_congr_right fun before => and_iff_left_of_imp ?_
    rintro rfl
    match place with
    | 1 => rfl
    | place + 2 =>
      have alone : pieces.tail[place]? ≠ some (assignment old) := by
        rw [List.getElem?_tail]
        exact fun left => unrepeated ⟨place + 1, Nat.succ_pos place, before, left, here⟩
      change Text.runBefore (assignment old) pieces.tail (place + 1) % 2 = 0
      rw [Text.runBefore, if_neg alone]

-- All places but the first and the last are renamed exactly if no two neighbours among them have the token.
theorem replaceToken_renames_iff (plainOld : '&' ∉ old) (plainNew : '&' ∉ new) (different : new ≠ old)
    (address : Text) :
    let pieces := Text.splitAtChar '&' address
    let replaced := Text.splitAtChar '&' (replaceToken old new address)
    replaced = alternated old new pieces ∧
      (replaced = renamed old new pieces ↔ ¬ Repeated old pieces) := by
  have replaced := splitAtChar_replaceToken plainOld plainNew address
  refine ⟨replaced, ?_⟩
  rw [replaced]
  exact ⟨not_repeated_of_alternated different, alternated_of_not_repeated⟩

-- Three neighbours, of which the one in the middle keeps the old token, and one more at the end.
theorem replaceToken_renames_iff_three :
    let pieces := ["n=x", "n=x", "n=x", "n=x", "a=n=x", "n=x"].map String.toList
    let address := Text.join ['&'] pieces
    let new := "n=y".toList
    ('&' ∉ ['x'] ∧ '&' ∉ new ∧ new ≠ ['x'] ∧ Text.splitAtChar '&' address = pieces ∧
        Repeated ['x'] pieces) ∧
      Text.splitAtChar '&' (replaceToken ['x'] new address) = alternated ['x'] new pieces ∧
      alternated ['x'] new pieces =
        ["n=x", "n=n=y", "n=x", "n=n=y", "a=n=x", "n=x"].map String.toList ∧
      Text.splitAtChar '&' (replaceToken ['x'] new address) ≠ renamed ['x'] new pieces := by
  intro pieces address new
  have plainOld : '&' ∉ ['x'] := by decide
  have plainNew : '&' ∉ new := by decide
  have different : new ≠ ['x'] := by decide
  have split : Text.splitAtChar '&' address = pieces := by decide
  have repeated : Repeated ['x'] pieces := ⟨1, by decide, by decide, by decide, by decide⟩
  have replaced := replaceToken_renames_iff plainOld plainNew different address
  rw [split] at replaced
  exact ⟨⟨plainOld, plainNew, different, split, repeated⟩, replaced.1, by decide,
    fun same => replaced.2.mp same repeated⟩

-- The second of two neighbours keeps the old token.
theorem neighbour_keeps_token :
    let address := "https://h/v?a=1&n=x&n=x&b=2".toList
    let pieces := Text.splitAtChar '&' address
    let replaced := Text.splitAtChar '&' (replaceToken ['x'] ['y'] address)
    replaced ≠ renamed ['x'] ['y'] pieces ∧ replaced[2]? = some (assignment ['x']) := by
  decide

end StreamLinks.Address
