import StreamLinks.Stream.Ranking
/-!
The order behind a ranked list, and what is left of a sorted list without repeats.

Ranking is a total preorder, and entries that it does not tell apart belong to the same stream and
client. Dropping repeats keeps the first link of every stretch of links of one stream.
-/
namespace StreamLinks

-- What makes two links repeats of each other.
def Link.stream (link : Link) : Nat × Bool := (link.itag, link.isDrc)

namespace Ranking

theorem sameStream_iff (a b : Link) : sameStream a b = true ↔ a.stream = b.stream := by
  simp [sameStream, Link.stream]

instance compareEntries_trans : Std.TransCmp compareEntries := by
  have lexicographic : compareEntries =
      compareLex (compareOn fun entry => tier entry.link) (compareLex
        (compareOn fun entry => rank entry.link) (compareLex
          (fun a b => compareOn (fun entry : Entry => entry.link.height.getD 0) b a) (compareLex
            (compareOn fun entry => entry.link.itag) (compareLex
              (compareOn fun entry => entry.link.isDrc.toNat)
              (compareOn fun entry => entry.client))))) := rfl
  rw [lexicographic]
  infer_instance

theorem before_trans {a b c : Entry} (first : before a b = true) (second : before b c = true) :
    before a c = true := Std.TransCmp.isLE_trans first second

theorem before_total (a b : Entry) : (before a b || before b a) = true := by
  have swapped : compareEntries b a = (compareEntries a b).swap := Std.OrientedCmp.eq_swap
  unfold before
  rw [swapped]
  cases compareEntries a b <;> rfl

theorem before_refl (a : Entry) : before a a = true := by
  simpa using before_total a a

-- Two entries that may stand either way round agree on everything that ranking looks at.
theorem agree_of_before {a b : Entry} (first : before a b = true) (second : before b a = true) :
    a.link.stream = b.link.stream ∧ a.client = b.client := by
  have equal : compareEntries a b = .eq := Std.OrientedCmp.isLE_antisymm first second
  simp only [compareEntries, Ordering.then_eq_eq, Nat.compare_eq_eq] at equal
  obtain ⟨-, -, -, itag, drc, client⟩ := equal
  have sameDrc : a.link.isDrc = b.link.isDrc := by
    revert drc
    cases a.link.isDrc <;> cases b.link.isDrc <;> simp
  exact ⟨Prod.ext itag sameDrc, client⟩

theorem client_le_of_before {client other : Nat} {link : Link}
    (ordered : before ⟨client, link⟩ ⟨other, link⟩ = true) : client ≤ other := by
  simpa [before, compareEntries, Nat.isLE_compare] using ordered

-- The entries in the order in which their links are ranked.
def ranked (perClient : List (List Link)) : List Entry := (entries perClient).mergeSort before

theorem ranked_sorted (perClient : List (List Link)) :
    (ranked perClient).Pairwise fun a b => before a b = true := by
  have trans (a b c : Entry) : before a b = true → before b c = true → before a c = true :=
    before_trans
  exact List.pairwise_mergeSort trans before_total (entries perClient)

theorem mem_ranked {entry : Entry} {perClient : List (List Link)} :
    entry ∈ ranked perClient ↔ entry ∈ entries perClient :=
  List.mem_mergeSort

theorem mem_entries {entry : Entry} {perClient : List (List Link)} :
    entry ∈ entries perClient ↔
      ∃ links, perClient[entry.client]? = some links ∧ entry.link ∈ links := by
  simp only [entries, List.mem_flatMap, List.mem_map, Prod.exists, List.mem_zipIdx_iff_getElem?]
  constructor
  · rintro ⟨links, client, found, link, present, rfl⟩
    exact ⟨links, found, present⟩
  · rintro ⟨links, found, present⟩
    exact ⟨links, entry.client, found, entry.link, present, rfl⟩

theorem repeats_iff (last : Option Link) (link : Link) :
    last.any (sameStream · link) = true ↔ last.map Link.stream = some link.stream := by
  cases last <;> simp [sameStream_iff]

-- Of the last link kept only its stream counts.
theorem dropRepeats_congr {last other : Option Link} (same : last.map Link.stream = other.map Link.stream)
    (links : List Link) : dropRepeats last links = dropRepeats other links := by
  induction links with
  | nil => rfl
  | cons link links ih => simp only [dropRepeats, repeats_iff, same, ih]

-- So a link goes exactly when the one right before it is of the same stream.
theorem dropRepeats_cons (last : Option Link) (link : Link) (links : List Link) :
    dropRepeats last (link :: links) =
      (if last.map Link.stream = some link.stream then [] else [link]) ++
        dropRepeats (some link) links := by
  simp only [dropRepeats, repeats_iff]
  split
  · next same => exact dropRepeats_congr same links
  · rfl

-- What is left of one stream.
def keptOf (stream : Nat × Bool) (last : Option Link) (entries : List Entry) : List Link :=
  (dropRepeats last (entries.map (·.link))).filter (·.stream = stream)

section
variable {stream : Nat × Bool} {last : Option Link} {entries : List Entry}

theorem keptOf_cons (stream : Nat × Bool) (last : Option Link) (entry : Entry) (entries : List Entry) :
    keptOf stream last (entry :: entries) =
      (if entry.link.stream = stream ∧ last.map Link.stream ≠ some stream then [entry.link] else []) ++
        keptOf stream (some entry.link) entries := by
  unfold keptOf
  rw [List.map_cons, dropRepeats_cons, List.filter_append]
  congr 1
  by_cases same : entry.link.stream = stream
  · by_cases again : last.map Link.stream = some stream <;> simp [same, again]
  · split <;> simp [same]

theorem keptOf_append (front back : List Entry) :
    keptOf stream last (front ++ back) =
      keptOf stream last front ++ keptOf stream ((front.getLast?.map (·.link)).or last) back := by
  induction front generalizing last with
  | nil => simp [keptOf, dropRepeats]
  | cons entry front ih =>
    rw [List.cons_append, keptOf_cons, keptOf_cons, ih, List.append_assoc]
    cases front <;> simp [List.getLast?_cons]

-- The first link of a stream stays.
theorem head?_keptOf (fresh : last.map Link.stream ≠ some stream) (entries : List Entry) :
    (keptOf stream last entries).head? =
      (entries.find? (·.link.stream = stream)).map (·.link) := by
  induction entries generalizing last with
  | nil => rfl
  | cons entry entries ih =>
    rw [keptOf_cons]
    by_cases same : entry.link.stream = stream
    · simp [same, fresh]
    · simpa [same] using ih (by simpa using same)

theorem keptOf_ne_nil (fresh : last.map Link.stream ≠ some stream) {entry : Entry}
    (present : entry ∈ entries) (same : entry.link.stream = stream) :
    keptOf stream last entries ≠ [] := by
  intro empty
  have first := head?_keptOf fresh entries
  rw [empty, List.head?_nil, eq_comm, Option.map_eq_none_iff, List.find?_eq_none] at first
  exact first entry present (by simpa using same)

-- A second link of a stream stays only behind a link of another one.
theorem split_of_kept {first : Link} (same : first.stream = stream)
    (kept : keptOf stream (some first) entries ≠ []) :
    ∃ front between back later, entries = front ++ between :: back ∧ later ∈ back ∧
      between.link.stream ≠ stream ∧ later.link.stream = stream := by
  induction entries generalizing first with
  | nil => exact absurd rfl kept
  | cons entry entries ih =>
    rw [keptOf_cons] at kept
    by_cases sameHere : entry.link.stream = stream
    · have rest : keptOf stream (some entry.link) entries ≠ [] := by simpa [same] using kept
      obtain ⟨front, between, back, later, rfl, found⟩ := ih sameHere rest
      exact ⟨entry :: front, between, back, later, rfl, found⟩
    · have rest : keptOf stream (some entry.link) entries ≠ [] := by simpa [sameHere] using kept
      obtain ⟨later, present, sameLater⟩ : ∃ later ∈ entries, later.link.stream = stream := by
        have fresh : (some entry.link).map Link.stream ≠ some stream := by simpa using sameHere
        have head := head?_keptOf fresh entries
        cases found : entries.find? (·.link.stream = stream) with
        | none =>
          rw [found, Option.map_none, List.head?_eq_none_iff] at head
          exact absurd head rest
        | some later =>
          exact ⟨later, List.mem_of_find?_eq_some found, by simpa using List.find?_some found⟩
      exact ⟨[], entry, entries, later, rfl, present, sameHere, sameLater⟩
end

end Ranking
end StreamLinks
