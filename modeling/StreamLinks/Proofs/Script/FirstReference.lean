import Mathlib.Data.List.Induction
import StreamLinks.Proofs.Script.Dependencies
/-!
The order of the helpers that a function needs.

Calls and reads by index are looked for one after the other. So a name of which a call is found comes before
every name that is only indexed, wherever they stand in the body, and a call that the search passes over does
not count for the order. Among the names of one sort the first place in the body decides.
-/
namespace StreamLinks.Script
open Pattern

section occurrences
variable {α : Type} {items front back : List α} {item other : α}

-- The first place of the item in the list is before all places of the other one.
def AheadIn (items : List α) (item other : α) : Prop := ∃ front back, items = front ++ item :: back ∧
  item ∉ front ∧ other ∉ front ∧ other ≠ item

theorem AheadIn.concat (ahead : AheadIn items item other) (last : α) : AheadIn (items ++ [last]) item other := by
  obtain ⟨front, back, rfl, absent⟩ := ahead
  exact ⟨front, back ++ [last], by simp, absent⟩

theorem AheadIn.of_append (ahead : AheadIn (front ++ back) item other) :
    AheadIn front item other ∨ item ∉ front ∧ other ∉ front ∧ AheadIn back item other := by
  obtain ⟨passed, rest, whole, new, absent, different⟩ := ahead
  rcases List.append_eq_append_iff.mp whole with ⟨between, rfl, behind⟩ | ⟨between, rfl, behind⟩
  · rw [List.mem_append, not_or] at new absent
    exact .inr ⟨new.1, absent.1, between, rest, behind, new.2, absent.2, different⟩
  · cases between with
    | nil =>
      rw [List.append_nil]
      exact .inr ⟨new, absent, [], rest, behind.symm, List.not_mem_nil, List.not_mem_nil, different⟩
    | cons first between =>
      obtain ⟨rfl, rfl⟩ := List.cons.inj behind
      exact .inl ⟨passed, between, rfl, new, absent, different⟩

variable [BEq α] [LawfulBEq α]

-- By induction from the end: one more item comes behind all that are kept, or is kept already.
theorem pairwise_firstOccurrences (items : List α) : (firstOccurrences items).Pairwise (AheadIn items) := by
  induction items using List.reverseRecOn with
  | nil => exact .nil
  | append_singleton items last ih =>
    have kept : (firstOccurrences items).Pairwise (AheadIn (items ++ [last])) := ih.imp fun ahead => ahead.concat last
    have next : firstOccurrences (items ++ [last]) = keepNew (firstOccurrences items) last := by
      rw [firstOccurrences_eq, firstOccurrences_eq, List.foldl_append, List.foldl_cons, List.foldl_nil]
    rw [next, keepNew]
    split
    · exact kept
    · next unknown =>
      rw [List.contains_iff_mem, mem_firstOccurrences] at unknown
      refine List.pairwise_append.mpr ⟨kept, List.pairwise_singleton _ last, fun item present other new => ?_⟩
      obtain rfl := List.mem_singleton.mp new
      have known := mem_firstOccurrences.mp present
      obtain ⟨front, back, rfl, first⟩ := List.eq_append_cons_of_mem known
      refine ⟨front, back ++ [other], by simp, first, fun early => unknown (List.mem_append_left _ early), ?_⟩
      rintro rfl
      exact unknown known

theorem filter_keepNew (keeps : α → Bool) (kept : List α) (item : α) : (keepNew kept item).filter keeps =
    if keeps item then keepNew (kept.filter keeps) item else kept.filter keeps := by
  unfold keepNew
  by_cases wanted : keeps item = true <;> by_cases known : item ∈ kept <;> simp [wanted, known]

theorem filter_foldl_keepNew (keeps : α → Bool) (items kept : List α) :
    (items.foldl keepNew kept).filter keeps = (items.filter keeps).foldl keepNew (kept.filter keeps) := by
  induction items generalizing kept with
  | nil => rfl
  | cons first items ih =>
    rw [List.foldl_cons, ih, filter_keepNew, List.filter_cons]
    split
    · rw [List.foldl_cons]
    · rfl

theorem filter_firstOccurrences (keeps : α → Bool) (items : List α) :
    (firstOccurrences items).filter keeps = firstOccurrences (items.filter keeps) :=
  filter_foldl_keepNew keeps items []

end occurrences

section places
variable {name other body : Text}

-- A member of the name is called there, whether the search finds the call or not.
def CalledAt (name body : Text) (place : Nat) : Prop := ∃ object member before after,
  Word.text object = name ∧ body = before ++ (callOf object member ++ after) ∧ Free before ∧ before.length = place

def ReferredAt (name body : Text) (place : Nat) : Prop := CalledAt name body place ∨ IndexedAt name body place

-- One of these places is before all the others.
def Precedes (places others : Nat → Prop) : Prop :=
  ∃ place, places place ∧ ∀ later, others later → place < later

def ReferredBefore (body name other : Text) : Prop := Precedes (ReferredAt name body) (ReferredAt other body)

-- The order of the search.
inductive FoundBefore (body name other : Text) : Prop where
  | called (first : Precedes (CallFoundAt name body) (CallFoundAt other body))
  | indexed (uncalled : ∀ place, ¬ CallFoundAt name body place) (unmet : ∀ place, ¬ CallFoundAt other body place)
      (first : Precedes (IndexedAt name body) (IndexedAt other body))

theorem Precedes.asymm {places others : Nat → Prop} (here : Precedes places others) : ¬ Precedes others places := by
  rintro ⟨later, present, behind⟩
  obtain ⟨place, first, before⟩ := here
  exact Nat.lt_asymm (before later present) (behind place first)

theorem FoundBefore.asymm (here : FoundBefore body name other) : ¬ FoundBefore body other name := by
  intro there
  cases here with
  | called first =>
    cases there with
    | called second => exact first.asymm second
    | indexed _ unmet _ =>
      obtain ⟨place, found, -⟩ := first
      exact unmet place found
  | indexed uncalled unmet first =>
    cases there with
    | called second =>
      obtain ⟨place, found, -⟩ := second
      exact unmet place found
    | indexed _ _ second => exact first.asymm second

-- The matches of a pattern are in order, so what is ahead among the names is ahead in the body.
theorem precedes_of_ahead {p : Pattern Text} (ahead : AheadIn ((all p ('{' :: body)).map (·.value)) name other) :
    Precedes (FoundAt p name body) (FoundAt p other body) := by
  have sorted := pairwise_all p ('{' :: body)
  obtain ⟨_, _, whole, -, absent, different⟩ := ahead
  obtain ⟨earlier, rest, split, rfl, tail⟩ := List.map_eq_append_iff.mp whole
  obtain ⟨here, later, rfl, rfl, rfl⟩ := List.map_eq_cons_iff.mp tail
  rw [split] at sorted
  refine ⟨here.start, ⟨here, by simp [split], rfl, rfl⟩, ?_⟩
  rintro _ ⟨there, present, rfl, rfl⟩
  rw [split] at present
  rcases List.mem_append.mp present with before | behind
  · exact absurd (List.mem_map_of_mem before) absent
  · rcases List.mem_cons.mp behind with rfl | behind
    · exact absurd rfl different
    · exact (List.pairwise_cons.mp (List.pairwise_append.mp sorted).2.1).1 there behind

theorem foundBefore_of_ahead (ahead : AheadIn (referencedNames body) name other) : FoundBefore body name other := by
  rw [referencedNames, List.map_append] at ahead
  have absent {name : Text} (uncalled : name ∉ (all memberCall ('{' :: body)).map (·.value)) (place : Nat) :
      ¬ CallFoundAt name body place := by
    rw [callFoundAt_eq]
    rintro ⟨found, kept, named, -⟩
    exact uncalled (List.mem_map.mpr ⟨found, kept, named⟩)
  rcases ahead.of_append with first | ⟨uncalled, unmet, first⟩
  · refine .called ?_
    rw [callFoundAt_eq, callFoundAt_eq]
    exact precedes_of_ahead first
  · refine .indexed (absent uncalled) (absent unmet) ?_
    rw [indexedAt_eq, indexedAt_eq]
    exact precedes_of_ahead first

end places

section order
variable {α : Type} {items : List α} {order given : α → α → Prop}

-- A list that is in an order is also in another one exactly if the two agree on it.
theorem pairwise_iff_agree (asymm : ∀ {item other}, given item other → ¬ given other item)
    (sorted : items.Pairwise given) :
    items.Pairwise order ↔ ∀ item ∈ items, ∀ other ∈ items, given item other → order item other := by
  constructor
  · intro ordered
    refine List.Pairwise.forall_of_forall_of_flip ?_ (ordered.imp ?_) (sorted.imp ?_)
    · exact fun _ _ itself => absurd itself (asymm itself)
    · exact fun ahead _ => ahead
    · exact fun ahead back => absurd back (asymm ahead)
  · intro agree
    exact sorted.imp_of_mem fun present known ahead => agree _ present _ known ahead

-- The names come as the search finds them, and so in the order of the body exactly if the search meets no two of
-- them in another order than the body.
theorem dependencies_inOrder_iff (function : Function) (script : Text) :
    let names := (dependencies function script).map (·.name)
    names.Pairwise (FoundBefore function.body) ∧
      (names.Pairwise (ReferredBefore function.body) ↔ ∀ name ∈ names, ∀ other ∈ names,
        FoundBefore function.body name other → ReferredBefore function.body name other) := by
  intro names
  have found : names.Pairwise (FoundBefore function.body) := by
    rw [show names = _ from names_dependencies function script, Function.freeNames, ← filter_firstOccurrences]
    exact (((pairwise_firstOccurrences _).filter _).filter _).imp foundBefore_of_ahead
  exact ⟨found, pairwise_iff_agree FoundBefore.asymm found⟩

-- A table that is read before the first call and found behind it.
def tableFirst : Text :=
  ("var Tb=[\"x\"];var Hq=\x7bab:function(a)\x7ba.reverse()\x7d\x7d;" ++
    "Pk=function(a)\x7bTb[0];Hq.ab(a);return a\x7d;").toList

def tableReader : Function := ⟨"Pk".toList, [['a']], "Tb[0];Hq.ab(a);return a".toList,
  "var Pk=function(a)\x7bTb[0];Hq.ab(a);return a\x7d;".toList⟩

theorem tableFirst_turned : function? "Pk".toList tableFirst = some tableReader ∧
    (dependencies tableReader tableFirst).map (·.name) = ["Hq".toList, "Tb".toList] ∧
      ¬ ((dependencies tableReader tableFirst).map (·.name)).Pairwise (ReferredBefore tableReader.body) := by
  have characters : tableFirst = _ := Text.toList_append rfl rfl
  obtain ⟨located, names⟩ : function? "Pk".toList tableFirst = some tableReader ∧
      (dependencies tableReader tableFirst).map (·.name) = ["Hq".toList, "Tb".toList] := by
    rw [characters]
    exact ⟨by decide, by decide⟩
  refine ⟨located, names, ?_⟩
  rw [names, List.pairwise_pair]
  rintro ⟨place, -, first⟩
  have table : IndexedAt "Tb".toList tableReader.body 0 :=
    ⟨⟨"Tb".toList, List.cons_ne_nil _ _, List.all_eq_true.mp rfl⟩, [], "0];Hq.ab(a);return a".toList, rfl, rfl,
      by simp, rfl⟩
  exact Nat.not_lt_zero _ (first 0 (.inr table))

end order
end StreamLinks.Script
