import StreamLinks.Proofs.Stream.Merging
import StreamLinks.Proofs.Stream.Order
/-!
What merging leaves as it is.

A later client that only repeats what earlier ones describe adds nothing: its entries rank right behind
those that they repeat, and are dropped there. A merged list is ranked and free of repeats already, so
merging it again changes nothing.
-/
namespace StreamLinks.Ranking

section stability
variable {α : Type} {front back other rest : List α}

-- A list splits in one way into what fulfils a condition and what does not.
theorem split_unique (holds : α → Bool) (same : front ++ back = other ++ rest)
    (inside : ∀ item ∈ front, holds item = true) (outside : ∀ item ∈ back, holds item = false)
    (insideOther : ∀ item ∈ other, holds item = true) (outsideRest : ∀ item ∈ rest, holds item = false) :
    front = other ∧ back = rest := by
  have fronts : front = other := by
    have kept := congrArg (List.filter holds) same
    rwa [List.filter_append, List.filter_append, List.filter_eq_self.mpr inside,
      List.filter_eq_self.mpr insideOther, List.filter_eq_nil_iff.mpr (by simpa using outside),
      List.filter_eq_nil_iff.mpr (by simpa using outsideRest), List.append_nil, List.append_nil] at kept
  subst fronts
  exact ⟨rfl, List.append_cancel_left same⟩

-- An entry is ranked into those behind it where it stands before the first that it may stand before.
theorem mergeSort_entry (entry : Entry) (others : List Entry) : ∃ front back,
    (entry :: others).mergeSort before = front ++ entry :: back ∧ others.mergeSort before = front ++ back ∧
      (∀ other ∈ front, before entry other = false) ∧ ∀ other ∈ back, before entry other = true := by
  have trans (a b c : Entry) : before a b = true → before b c = true → before a c = true := before_trans
  obtain ⟨front, back, whole, split, ahead⟩ := List.mergeSort_cons trans before_total entry others
  have sorted := List.pairwise_mergeSort trans before_total (entry :: others)
  rw [whole, List.pairwise_append, List.pairwise_cons] at sorted
  exact ⟨front, back, whole, split, fun other present => by simpa using ahead other present, sorted.2.1.1⟩

-- Entries that are left out leave the order of the others as it is, that of equal ones included.
theorem filter_mergeSort (keep : Entry → Bool) (all : List Entry) :
    (all.mergeSort before).filter keep = (all.filter keep).mergeSort before := by
  induction all with
  | nil => simp
  | cons entry others ih =>
    obtain ⟨front, back, whole, split, ahead, behind⟩ := mergeSort_entry entry others
    rw [split, List.filter_append] at ih
    rw [whole, List.filter_append]
    by_cases kept : keep entry = true
    · obtain ⟨frontKept, backKept, wholeKept, splitKept, aheadKept, behindKept⟩ :=
        mergeSort_entry entry (others.filter keep)
      obtain ⟨rfl, rfl⟩ : front.filter keep = frontKept ∧ back.filter keep = backKept := by
        refine split_unique (fun other => !before entry other) (ih.trans splitKept) ?_ ?_ ?_ ?_
        · intro other present
          simpa using ahead other (List.mem_filter.mp present).1
        · intro other present
          simpa using behind other (List.mem_filter.mp present).1
        · simpa using aheadKept
        · simpa using behindKept
      rw [List.filter_cons_of_pos kept, List.filter_cons_of_pos kept, wholeKept]
    · rw [List.filter_cons_of_neg kept, List.filter_cons_of_neg kept, ih]

end stability

section absorption

-- The links agree on everything that ranking looks at, apart from the clients.
structure SameKey (a b : Link) : Prop where
  tier : tier a = tier b
  rank : rank a = rank b
  height : a.height.getD 0 = b.height.getD 0
  itag : a.itag = b.itag
  isDrc : a.isDrc = b.isDrc

theorem SameKey.symm {a b : Link} (same : SameKey a b) : SameKey b a :=
  ⟨same.tier.symm, same.rank.symm, same.height.symm, same.itag.symm, same.isDrc.symm⟩

variable {a b : Entry} {last : Option Link} {keep : Entry → Bool} {all : List Entry}
  {perClient : List (List Link)} {later : List Link}

theorem SameKey.before_iff (same : SameKey a.link b.link) : before a b = true ↔ a.client ≤ b.client :=
  before_of_alike same.tier same.rank same.height (Prod.ext same.itag same.isDrc)

-- What ranks between two entries of one key is of their stream.
theorem SameKey.stream_between {between : Entry} (same : SameKey a.link b.link)
    (ahead : before a between = true) (behind : before between b = true) :
    between.link.stream = b.link.stream := by
  have back : before ⟨0, b.link⟩ ⟨0, a.link⟩ = true :=
    (SameKey.before_iff (a := ⟨0, b.link⟩) (b := ⟨0, a.link⟩) same.symm).mpr (Nat.le_refl 0)
  have ahead := before_trans back (before_of_before ahead)
  exact (agree_of_before (before_of_before behind) ahead).1

-- Entries that stand right behind one of their own stream are dropped anyway.
theorem dropRepeats_filter (repeated : ∀ front entry back, all = front ++ entry :: back → keep entry = false →
      ((front.getLast?.map (·.link)).or last).map Link.stream = some entry.link.stream) :
    dropRepeats last (all.map (·.link)) = dropRepeats last ((all.filter keep).map (·.link)) := by
  induction all generalizing last with
  | nil => rfl
  | cons entry others ih =>
    have rest : dropRepeats (some entry.link) (others.map (·.link)) =
        dropRepeats (some entry.link) ((others.filter keep).map (·.link)) := by
      refine ih ?_
      intro front other back split out
      have here := repeated (entry :: front) other back (by rw [split, List.cons_append]) out
      cases front <;> simpa [List.getLast?_cons] using here
    rw [List.map_cons, dropRepeats_cons, rest]
    cases kept : keep entry with
    | true => rw [List.filter_cons_of_pos kept, List.map_cons, dropRepeats_cons]
    | false =>
      have same : last.map Link.stream = some entry.link.stream := repeated [] entry others rfl kept
      rw [List.filter_cons_of_neg (by simp [kept]), if_pos same, List.nil_append]
      exact dropRepeats_congr (by rw [same, Option.map_some]) _

theorem entries_concat (perClient : List (List Link)) (later : List Link) :
    entries (perClient ++ [later]) = entries perClient ++ later.map (⟨perClient.length, ·⟩) := by
  simp [entries, List.zipIdx_append]

theorem client_lt_of_mem {entry : Entry} (present : entry ∈ entries perClient) :
    entry.client < perClient.length := by
  obtain ⟨links, found, -⟩ := mem_entries.mp present
  exact (List.getElem?_eq_some_iff.mp found).1

theorem ranked_filter (perClient : List (List Link)) (later : List Link) :
    (ranked (perClient ++ [later])).filter (·.client < perClient.length) = ranked perClient := by
  rw [ranked, filter_mergeSort, entries_concat, List.filter_append, ranked]
  have kept : (entries perClient).filter (·.client < perClient.length) = entries perClient :=
    List.filter_eq_self.mpr fun entry present => decide_eq_true (client_lt_of_mem present)
  have left : (later.map (⟨perClient.length, ·⟩ : Link → Entry)).filter (·.client < perClient.length) = [] := by
    simp [List.filter_eq_nil_iff]
  rw [kept, left, List.append_nil]

-- What a last client repeats ranks before the repeat.
theorem repeated_in_front {front back : List Entry} {entry : Entry}
    (known : ∀ link ∈ later, ∃ links ∈ perClient, ∃ earlier ∈ links, SameKey link earlier)
    (split : ranked (perClient ++ [later]) = front ++ entry :: back) (last : ¬ entry.client < perClient.length) :
    ∃ earlier ∈ front, SameKey entry.link earlier.link := by
  have present : entry ∈ entries (perClient ++ [later]) := by
    rw [← mem_ranked, split]
    simp
  have repeats : entry.link ∈ later := by
    rw [entries_concat, List.mem_append, List.mem_map] at present
    rcases present with old | ⟨link, here, rfl⟩
    · exact absurd (client_lt_of_mem old) last
    · exact here
  obtain ⟨links, client, earlier, described, same⟩ := known _ repeats
  obtain ⟨place, found⟩ := List.mem_iff_getElem?.mp client
  have first : (⟨place, earlier⟩ : Entry) ∈ entries perClient := mem_entries.mpr ⟨links, found, described⟩
  have ahead : place < entry.client := Nat.lt_of_lt_of_le (client_lt_of_mem first) (Nat.not_lt.mp last)
  have sorted := ranked_sorted (perClient ++ [later])
  rw [split, List.pairwise_append, List.pairwise_cons] at sorted
  have ranked : (⟨place, earlier⟩ : Entry) ∈ ranked (perClient ++ [later]) := by
    rw [mem_ranked, entries_concat]
    exact List.mem_append_left _ first
  rw [split, List.mem_append, List.mem_cons] at ranked
  rcases ranked with here | rfl | behind
  · exact ⟨_, here, same⟩
  · exact absurd ahead (Nat.lt_irrefl _)
  · exact absurd (same.before_iff (a := entry) |>.mp (sorted.2.1.1 _ behind)) (Nat.not_le.mpr ahead)

-- A repeat by the last client has the entry that it repeats, or another of its stream, right before it.
theorem stream_before_repeat {front back : List Entry} {entry : Entry}
    (known : ∀ link ∈ later, ∃ links ∈ perClient, ∃ earlier ∈ links, SameKey link earlier)
    (split : ranked (perClient ++ [later]) = front ++ entry :: back) (last : ¬ entry.client < perClient.length) :
    ∃ neighbour, front.getLast? = some neighbour ∧ neighbour.link.stream = entry.link.stream := by
  obtain ⟨earlier, inFront, same⟩ := repeated_in_front known split last
  have sorted := ranked_sorted (perClient ++ [later])
  rw [split, List.pairwise_append] at sorted
  obtain rfl | ⟨init, neighbour, rfl⟩ := List.eq_nil_or_concat front
  · cases inFront
  · rw [List.concat_eq_append] at sorted inFront ⊢
    have ahead : before earlier neighbour = true := by
      rcases List.mem_append.mp inFront with inside | here
      · exact (List.pairwise_append.mp sorted.1).2.2 _ inside neighbour (by simp)
      · rw [List.mem_singleton.mp here]
        exact before_refl neighbour
    have behind : before neighbour entry = true := sorted.2.2 neighbour (by simp) entry (by simp)
    exact ⟨neighbour, by simp, same.symm.stream_between ahead behind⟩

-- A client whose links all repeat the key of an earlier client's link leaves the merged list as it was.
theorem merge_absorbs (perClient : List (List Link)) (later : List Link)
    (known : ∀ link ∈ later, ∃ links ∈ perClient, ∃ earlier ∈ links, SameKey link earlier) :
    merge (perClient ++ [later]) = merge perClient := by
  have repeated : ∀ front entry back, ranked (perClient ++ [later]) = front ++ entry :: back →
      decide (entry.client < perClient.length) = false →
        ((front.getLast?.map (·.link)).or none).map Link.stream = some entry.link.stream := by
    intro front entry back split out
    obtain ⟨neighbour, last, same⟩ := stream_before_repeat known split (by simpa using out)
    rw [last, Option.map_some, Option.some_or, Option.map_some, same]
  calc merge (perClient ++ [later])
      = dropRepeats none ((ranked (perClient ++ [later])).map (·.link)) := rfl
    _ = dropRepeats none (((ranked (perClient ++ [later])).filter (·.client < perClient.length)).map (·.link)) :=
        dropRepeats_filter repeated
    _ = merge perClient := by rw [ranked_filter]; rfl

-- A later client with other addresses for a picture with sound and for a sound, in another order.
theorem merge_absorbs_readdressed :
    let movie (address : String) : Link :=
      { itag := 18, mimeType := "video/mp4; codecs=\"avc1, mp4a\"".toList, url := some address.toList }
    let sound (quality address : String) : Link :=
      { itag := 251, mimeType := "audio/webm".toList, audioQuality := some quality.toList,
        url := some address.toList }
    let perClient := [[sound "AUDIO_QUALITY_LOW" "a"], [movie "b", sound "AUDIO_QUALITY_HIGH" "c"]]
    let later := [{ movie "d" with height := some 0 }, sound "AUDIO_QUALITY_LOW" "e"]
    (∀ link ∈ later, ∃ links ∈ perClient, ∃ earlier ∈ links, SameKey link earlier) ∧
      merge (perClient ++ [later]) = merge perClient := by
  intro movie sound perClient later
  have known : ∀ link ∈ later, ∃ links ∈ perClient, ∃ earlier ∈ links, SameKey link earlier := by
    intro link present
    simp only [later, List.mem_cons, List.not_mem_nil, or_false] at present
    rcases present with rfl | rfl
    · exact ⟨_, .tail _ (.head _), movie "b", .head _, ⟨rfl, rfl, rfl, rfl, rfl⟩⟩
    · exact ⟨_, .head _, sound "AUDIO_QUALITY_LOW" "a", .head _, ⟨rfl, rfl, rfl, rfl, rfl⟩⟩
  exact ⟨known, merge_absorbs perClient later known⟩

end absorption

section again
variable {last : Option Link} {links : List Link}

theorem entries_single (links : List Link) : entries [links] = links.map (⟨0, ·⟩) := by simp [entries]

-- Where no link is of the same stream as the one before it, none is dropped.
theorem dropRepeats_of_isChain (fresh : ∀ first ∈ links.head?, last.map Link.stream ≠ some first.stream)
    (chain : links.IsChain fun link next => link.stream ≠ next.stream) : dropRepeats last links = links := by
  induction links generalizing last with
  | nil => rfl
  | cons link links ih =>
    obtain ⟨next, behind⟩ := List.isChain_cons.mp chain
    have rest : dropRepeats (some link) links = links :=
      ih (fun first here same => next first here (Option.some.inj same)) behind
    rw [dropRepeats_cons, if_neg (fresh link rfl), rest, List.singleton_append]

theorem merge_sorted (perClient : List (List Link)) :
    (entries [merge perClient]).Pairwise fun a b => before a b = true := by
  rw [entries_single, List.pairwise_map]
  refine List.Pairwise.sublist (merge_sublist perClient) (List.pairwise_map.mpr ?_)
  exact (ranked_sorted perClient).imp before_of_before

theorem merge_merged (perClient : List (List Link)) : merge [merge perClient] = merge perClient := by
  have links : (entries [merge perClient]).map (·.link) = merge perClient := by
    rw [map_link_entries, List.flatten_singleton]
  obtain ⟨fresh, chain⟩ := isChain_dropRepeats none ((ranked perClient).map (·.link))
  calc merge [merge perClient]
      = dropRepeats none (((entries [merge perClient]).mergeSort before).map (·.link)) := rfl
    _ = dropRepeats none (merge perClient) := by rw [List.mergeSort_of_pairwise (merge_sorted perClient), links]
    _ = merge perClient := dropRepeats_of_isChain fresh chain

end again
end StreamLinks.Ranking
