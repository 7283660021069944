import Mathlib.Data.List.Chain
import Mathlib.Data.List.Perm.Subperm
import StreamLinks.Proofs.Stream.Ranking
/-!
What a ranked list holds, and in which order.

The order is told by the links themselves, group by group. Ranking brings the links of all clients into
that order, and dropping repeats takes links away without leaving a stream out.
-/
namespace StreamLinks.Ranking

-- The known qualities of sound, from the lowest to the highest.
def knownQualities : List Text :=
  ["AUDIO_QUALITY_ULTRALOW", "AUDIO_QUALITY_LOW", "AUDIO_QUALITY_MEDIUM", "AUDIO_QUALITY_HIGH"].map
    String.toList

-- The place of a quality of sound; one that is missing or unknown stands before all others.
def soundPlace (quality : Option Text) : Nat :=
  (quality.bind knownQualities.idxOf?).elim 0 (· + 1)

theorem audioTier_eq (quality : Option Text) : audioTier quality = soundPlace quality := by
  cases quality with
  | none => rfl
  | some name =>
    simp only [audioTier, soundPlace, knownQualities, Option.getD_some, Option.bind_some, List.map_cons,
      List.map_nil, List.idxOf?_cons, List.idxOf?_nil, beq_iff_eq, eq_comm (b := name)]
    split_ifs <;> rfl

-- The first link has the smaller key, or the keys are equal and the tie is decided for it.
def Ahead (key : Link → Nat) (first second : Link) (tied : Prop) : Prop :=
  key first < key second ∨ key first = key second ∧ tied

theorem Ahead.imp {key : Link → Nat} {first second : Link} {tied weaker : Prop}
    (ahead : Ahead key first second tied) (follows : tied → weaker) : Ahead key first second weaker :=
  Or.imp_right (And.imp_right follows) ahead

def shownHeight (link : Link) : Nat := link.height.getD 0

-- Compressed sound comes behind uncompressed.
def CompressedLast (first second : Link) : Prop := first.isDrc = true → second.isDrc = true

-- The first link may stand before the second: pictures with sound run by number, pictures alone by
-- height, all else by the quality of sound. Heights run downwards.
inductive InOrder (first second : Link) : Prop where
  | combinedFirst (combined : first.isCombined = true) (other : second.isCombined = false)
  | combined (both : first.isCombined = true ∧ second.isCombined = true)
      (order : Ahead Link.itag first second (Ahead shownHeight second first
        (CompressedLast first second)))
  | videoFirst (video : first.isVideoOnly = true)
      (other : second.isCombined = false ∧ second.isVideoOnly = false)
  | video (both : first.isVideoOnly = true ∧ second.isVideoOnly = true)
      (order : Ahead shownHeight second first (Ahead Link.itag first second
        (CompressedLast first second)))
  | rest (neither : ∀ link ∈ [first, second], link.isCombined = false ∧ link.isVideoOnly = false)
      (order : Ahead (fun link => soundPlace link.audioQuality) first second
        (Ahead shownHeight second first (Ahead Link.itag first second
          (CompressedLast first second))))

theorem isLE_then_compare {m n : Nat} {rest : Ordering} :
    ((compare m n).then rest).isLE = true ↔ m < n ∨ m = n ∧ rest.isLE = true := by
  rw [Ordering.isLE_then_iff_or, Nat.compare_eq_lt, Nat.compare_eq_eq]

-- The comparison of entries, key by key; the client is left out.
theorem ahead_of_before {a b : Entry} (ordered : before a b = true) :
    Ahead tier a.link b.link (Ahead rank a.link b.link (Ahead shownHeight b.link a.link
      (Ahead Link.itag a.link b.link (CompressedLast a.link b.link)))) := by
  simp only [before, compareEntries, isLE_then_compare] at ordered
  have compression (less : a.link.isDrc.toNat < b.link.isDrc.toNat ∨
      a.link.isDrc.toNat = b.link.isDrc.toNat ∧ (compare a.client b.client).isLE = true) :
      CompressedLast a.link b.link := by
    intro compressed
    rw [compressed] at less
    cases other : b.link.isDrc with
    | true => rfl
    | false => simp [other] at less
  exact Ahead.imp ordered (Ahead.imp · (Ahead.imp · (Ahead.imp · compression)))

-- The group of a link and what ranks next in it.
theorem tier_cases (link : Link) :
    (link.isCombined = true ∧ tier link = 0 ∧ rank link = link.itag) ∨
      (link.isCombined = false ∧ link.isVideoOnly = true ∧ tier link = 1 ∧ rank link = 0) ∨
      (link.isCombined = false ∧ link.isVideoOnly = false ∧ tier link = 2 ∧
        rank link = soundPlace link.audioQuality) := by
  cases combined : link.isCombined with
  | true => simp [rank, tier, combined]
  | false =>
    cases video : link.isVideoOnly with
    | true => simp [rank, tier, combined, video]
    | false => simp [rank, tier, combined, video, audioTier_eq]

-- Of two links in one group the keys of the group decide, else the group does.
theorem inOrder_of_before {a b : Entry} (ordered : before a b = true) : InOrder a.link b.link := by
  have ahead := ahead_of_before ordered
  rcases tier_cases a.link with ⟨combined, tierA, rankA⟩ | ⟨other, video, tierA, rankA⟩ |
      ⟨other, silent, tierA, rankA⟩
  · rcases tier_cases b.link with ⟨combinedB, tierB, rankB⟩ | ⟨otherB, -⟩ | ⟨otherB, -⟩
    · refine .combined ⟨combined, combinedB⟩ ?_
      simp only [Ahead, tierA, tierB, rankA, rankB] at ahead ⊢
      grind
    · exact .combinedFirst combined otherB
    · exact .combinedFirst combined otherB
  · rcases tier_cases b.link with ⟨-, tierB, -⟩ | ⟨-, videoB, tierB, rankB⟩ | ⟨otherB, silentB, -⟩
    · simp [Ahead, tierA, tierB] at ahead
    · refine .video ⟨video, videoB⟩ ?_
      simpa [Ahead, tierA, tierB, rankA, rankB] using ahead
    · exact .videoFirst video ⟨otherB, silentB⟩
  · rcases tier_cases b.link with ⟨-, tierB, -⟩ | ⟨-, -, tierB, -⟩ | ⟨otherB, silentB, tierB, rankB⟩
    · simp [Ahead, tierA, tierB] at ahead
    · simp [Ahead, tierA, tierB] at ahead
    · refine .rest (by simp [other, silent, otherB, silentB]) ?_
      simpa [Ahead, tierA, tierB, rankA, rankB] using ahead

theorem dropRepeats_sublist (last : Option Link) (links : List Link) :
    (dropRepeats last links).Sublist links := by
  induction links generalizing last with
  | nil => exact .slnil
  | cons link links ih =>
    simp only [dropRepeats]
    split
    · exact (ih last).cons link
    · exact (ih (some link)).cons_cons link

-- What is left begins with another stream than the last one kept, and so on along the list.
theorem isChain_dropRepeats (last : Option Link) (links : List Link) :
    (∀ first ∈ (dropRepeats last links).head?, last.map Link.stream ≠ some first.stream) ∧
      (dropRepeats last links).IsChain fun link next => link.stream ≠ next.stream := by
  induction links generalizing last with
  | nil => simp [dropRepeats]
  | cons link links ih =>
    simp only [dropRepeats, repeats_iff]
    split
    · exact ih last
    · next fresh =>
      obtain ⟨behind, chain⟩ := ih (some link)
      refine ⟨by simpa using fresh, List.isChain_cons.mpr ⟨?_, chain⟩⟩
      intro next first same
      exact behind next first (congrArg some same)

theorem map_link_entries (perClient : List (List Link)) :
    (entries perClient).map (·.link) = perClient.flatten := by
  rw [entries, List.map_flatMap]
  simp only [List.map_map, Function.comp_def, List.map_id']
  rw [List.flatMap_def]
  exact congrArg List.flatten (List.zipIdx_map_fst 0 perClient)

theorem merge_sublist (perClient : List (List Link)) :
    (merge perClient).Sublist ((ranked perClient).map (·.link)) :=
  dropRepeats_sublist none _

theorem merge_subperm (perClient : List (List Link)) : (merge perClient).Subperm perClient.flatten := by
  have sorted : ((ranked perClient).map (·.link)).Perm perClient.flatten := by
    rw [← map_link_entries]
    exact (List.mergeSort_perm (entries perClient) before).map _
  exact (merge_sublist perClient).subperm.trans sorted.subperm

theorem exists_mem_merge {perClient : List (List Link)} {link : Link} (present : link ∈ perClient.flatten) :
    ∃ kept ∈ merge perClient, kept.stream = link.stream := by
  rw [← map_link_entries, List.mem_map] at present
  obtain ⟨entry, inEntries, rfl⟩ := present
  have kept : keptOf entry.link.stream none (ranked perClient) ≠ [] :=
    keptOf_ne_nil (by simp) (mem_ranked.mpr inEntries) rfl
  obtain ⟨link, left⟩ := List.exists_mem_of_ne_nil _ kept
  obtain ⟨merged, same⟩ := List.mem_filter.mp left
  exact ⟨link, merged, by simpa using same⟩

theorem merge_inOrder (perClient : List (List Link)) : (merge perClient).Pairwise InOrder := by
  refine List.Pairwise.sublist (merge_sublist perClient) (List.pairwise_map.mpr ?_)
  exact (ranked_sorted perClient).imp inOrder_of_before

-- Nothing is made up or used twice, no stream is lost, neighbours differ, and the order is kept.
theorem merge_ranks (perClient : List (List Link)) :
    (merge perClient).Subperm perClient.flatten ∧
      (∀ links ∈ perClient, ∀ link ∈ links,
        ∃ kept ∈ merge perClient, kept.itag = link.itag ∧ kept.isDrc = link.isDrc) ∧
      (merge perClient).IsChain (fun link next => ¬ (link.itag = next.itag ∧ link.isDrc = next.isDrc)) ∧
      (merge perClient).Pairwise InOrder := by
  refine ⟨merge_subperm perClient, ?_, ?_, merge_inOrder perClient⟩
  · intro links client link present
    obtain ⟨kept, merged, same⟩ := exists_mem_merge (List.mem_flatten_of_mem client present)
    exact ⟨kept, merged, Prod.mk.inj same⟩
  · refine (isChain_dropRepeats none _).2.imp ?_
    intro link next different same
    exact different (Prod.ext same.1 same.2)

end StreamLinks.Ranking
