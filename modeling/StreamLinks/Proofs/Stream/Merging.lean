import StreamLinks.Proofs.Stream.Ranking
/-!
What merging keeps of a stream that several clients describe.

Repeats are dropped next to each other only, so one link of a stream is left exactly when the ranking
holds the links of the stream together, and it is the preferred client's exactly when that client's
description ranks first. Clients that describe the stream alike give both.
-/
namespace StreamLinks.Ranking
variable {perClient : List (List Link)} {stream : Nat × Bool}

-- One link of the stream is left, and it is one of the first client that has any.
def KeepsPreferred (perClient : List (List Link)) (stream : Nat × Bool) : Prop :=
  ∃ client links link, perClient[client]? = some links ∧ link ∈ links ∧
    (∀ (earlier : Nat) (others : List Link), earlier < client → perClient[earlier]? = some others →
      ∀ other ∈ others, other.stream ≠ stream) ∧
    (merge perClient).filter (·.stream = stream) = [link]

-- Nothing that ranks between two links of the stream is of another stream.
def Unbroken (perClient : List (List Link)) (stream : Nat × Bool) : Prop :=
  ∀ first ∈ entries perClient, ∀ between ∈ entries perClient, ∀ last ∈ entries perClient,
    first.link.stream = stream → last.link.stream = stream →
      before first between = true → before between last = true → between.link.stream = stream

-- Of the links of the stream, one of the first client that has any ranks before the others.
def Led (perClient : List (List Link)) (stream : Nat × Bool) : Prop :=
  ∃ first ∈ entries perClient, first.link.stream = stream ∧
    ∀ other ∈ entries perClient, other.link.stream = stream →
      before first other = true ∧ first.client ≤ other.client

theorem kept_eq (perClient : List (List Link)) (stream : Nat × Bool) :
    (merge perClient).filter (·.stream = stream) = keptOf stream none (ranked perClient) := rfl

-- The ranking up to the first link of the stream, and what is left of the stream.
theorem ranked_split {present : Entry} (found : present ∈ entries perClient)
    (same : present.link.stream = stream) :
    ∃ front first back, ranked perClient = front ++ first :: back ∧
      first ∈ entries perClient ∧ first.link.stream = stream ∧
      (∀ other ∈ entries perClient, other.link.stream = stream → before first other = true) ∧
      keptOf stream none (ranked perClient) =
        first.link :: keptOf stream (some first.link) back := by
  cases search : (ranked perClient).find? (·.link.stream = stream) with
  | none =>
    rw [List.find?_eq_none] at search
    exact absurd (decide_eq_true same) (search present (mem_ranked.mpr found))
  | some first =>
    obtain ⟨sameFirst, front, back, split, others⟩ := List.find?_eq_some_iff_append.mp search
    have sameFirst : first.link.stream = stream := by simpa using sameFirst
    have others (entry) (inFront : entry ∈ front) : entry.link.stream ≠ stream := by
      simpa using others entry inFront
    have sorted := ranked_sorted perClient
    rw [split, List.pairwise_append, List.pairwise_cons] at sorted
    refine ⟨front, first, back, split, mem_ranked.mp (List.mem_of_find?_eq_some search), sameFirst,
      ?_, ?_⟩
    · intro other present sameOther
      rw [← mem_ranked, split, List.mem_append, List.mem_cons] at present
      rcases present with inFront | rfl | inBack
      · exact absurd sameOther (others other inFront)
      · exact before_refl other
      · exact sorted.2.1.1 other inBack
    · have nothing : keptOf stream none front = [] := by
        rw [← List.head?_eq_none_iff, head?_keptOf (by simp), Option.map_eq_none_iff,
          List.find?_eq_none]
        simpa using others
      have fresh : (front.getLast?.map (·.link)).map Link.stream ≠ some stream := by
        cases last : front.getLast? with
        | none => simp
        | some entry => simpa using others entry (List.mem_of_getLast? last)
      rw [split, keptOf_append, nothing, keptOf_cons, if_pos ⟨sameFirst, by simpa using fresh⟩]
      rfl

-- A second link is left when another stream ranks in between, and only then.
theorem unbroken_of_kept {link : Link}
    (kept : keptOf stream none (ranked perClient) = [link]) : Unbroken perClient stream := by
  intro first firstIn between betweenIn last lastIn sameFirst sameLast ahead behind
  apply Classical.byContradiction
  intro different
  obtain ⟨front, back, split⟩ := List.append_of_mem (mem_ranked.mpr betweenIn)
  have sorted := ranked_sorted perClient
  rw [split, List.pairwise_append, List.pairwise_cons] at sorted
  have inFront : first ∈ front := by
    rw [← mem_ranked, split, List.mem_append, List.mem_cons] at firstIn
    rcases firstIn with here | rfl | there
    · exact here
    · exact absurd sameFirst different
    · have agree := agree_of_before ahead (sorted.2.1.1 first there)
      exact absurd (agree.1.symm.trans sameFirst) different
  have inBack : last ∈ back := by
    rw [← mem_ranked, split, List.mem_append, List.mem_cons] at lastIn
    rcases lastIn with here | rfl | there
    · have agree := agree_of_before behind (sorted.2.2 last here between List.mem_cons_self)
      exact absurd (agree.1.trans sameLast) different
    · exact absurd sameLast different
    · exact there
  have keptFront : keptOf stream none front ≠ [] := keptOf_ne_nil (by simp) inFront sameFirst
  have keptBack : keptOf stream (some between.link) back ≠ [] :=
    keptOf_ne_nil (by simpa using different) inBack sameLast
  rw [split, keptOf_append, keptOf_cons] at kept
  simp only [different, false_and, if_false, List.nil_append] at kept
  have long := congrArg List.length kept
  rw [List.length_append, List.length_singleton] at long
  have lengthFront := List.length_pos_iff.mpr keptFront
  have lengthBack := List.length_pos_iff.mpr keptBack
  omega

theorem kept_of_unbroken (unbroken : Unbroken perClient stream) {present : Entry}
    (found : present ∈ entries perClient) (same : present.link.stream = stream) :
    ∃ first ∈ entries perClient, first.link.stream = stream ∧
      (∀ other ∈ entries perClient, other.link.stream = stream → before first other = true) ∧
      keptOf stream none (ranked perClient) = [first.link] := by
  obtain ⟨front, first, back, split, firstIn, sameFirst, leads, kept⟩ := ranked_split found same
  have inRanked (entry : Entry) (inBack : entry ∈ back) : entry ∈ entries perClient := by
    rw [← mem_ranked, split]
    exact List.mem_append_right _ (List.mem_cons_of_mem _ inBack)
  refine ⟨first, firstIn, sameFirst, leads, ?_⟩
  rw [kept]
  apply congrArg
  apply Classical.byContradiction
  intro more
  obtain ⟨front', between, back', last, rfl, lastIn, different, sameLast⟩ :=
    split_of_kept sameFirst more
  have sorted := ranked_sorted perClient
  rw [split, List.pairwise_append, List.pairwise_cons, List.pairwise_append,
    List.pairwise_cons] at sorted
  have betweenIn : between ∈ front' ++ between :: back' := by simp
  have lastIn' : last ∈ front' ++ between :: back' := by simp [lastIn]
  exact different (unbroken first firstIn between (inRanked _ betweenIn) last (inRanked _ lastIn')
    sameFirst sameLast (sorted.2.1.1 between betweenIn) (sorted.2.1.2.2.1.1 last lastIn))

theorem entry_of_link {client : Nat} {links : List Link} {link : Link}
    (found : perClient[client]? = some links) (present : link ∈ links) :
    ⟨client, link⟩ ∈ entries perClient := mem_entries.mpr ⟨links, found, present⟩

-- No client before the first one that has the stream.
theorem no_earlier {client : Nat}
    (first : ∀ other ∈ entries perClient, other.link.stream = stream → client ≤ other.client)
    (earlier : Nat) (others : List Link) (less : earlier < client)
    (found : perClient[earlier]? = some others) (other : Link) (present : other ∈ others) :
    other.stream ≠ stream := by
  intro same
  exact Nat.not_lt.mpr (first _ (entry_of_link found present) same) less

theorem keepsPreferred_of_led (unbroken : Unbroken perClient stream) (led : Led perClient stream) :
    KeepsPreferred perClient stream := by
  obtain ⟨leader, leaderIn, sameLeader, leads⟩ := led
  obtain ⟨first, firstIn, sameFirst, ahead, kept⟩ := kept_of_unbroken unbroken leaderIn sameLeader
  -- Both rank before the other, so they are of the same client.
  have agree := agree_of_before (ahead leader leaderIn sameLeader) (leads first firstIn sameFirst).1
  obtain ⟨links, found, present⟩ := mem_entries.mp firstIn
  refine ⟨first.client, links, first.link, found, present, no_earlier ?_, kept⟩
  intro other otherIn sameOther
  rw [agree.2]
  exact (leads other otherIn sameOther).2

theorem led_of_keepsPreferred {client : Nat} {links : List Link} {link : Link}
    (found : perClient[client]? = some links) (present : link ∈ links)
    (preferred : ∀ (earlier : Nat) (others : List Link), earlier < client →
      perClient[earlier]? = some others → ∀ other ∈ others, other.stream ≠ stream)
    (kept : keptOf stream none (ranked perClient) = [link]) : Led perClient stream := by
  have same : link.stream = stream := by
    have inKept : link ∈ keptOf stream none (ranked perClient) := by simp [kept]
    simpa using (List.mem_filter.mp inKept).2
  obtain ⟨front, first, back, split, firstIn, sameFirst, leads, keptHere⟩ :=
    ranked_split (entry_of_link found present) same
  have leader : first.link = link := (List.cons.inj (keptHere.symm.trans kept)).1
  -- The same link of the first client ranks no later than that of any other.
  have client_le : first.client ≤ client := by
    have ordered := leads ⟨client, link⟩ (entry_of_link found present) same
    rw [← leader] at ordered
    exact client_le_of_before ordered
  refine ⟨first, firstIn, sameFirst, ?_⟩
  intro other otherIn sameOther
  refine ⟨leads other otherIn sameOther, Nat.le_trans client_le ?_⟩
  obtain ⟨others, foundOther, presentOther⟩ := mem_entries.mp otherIn
  apply Nat.not_lt.mp
  intro less
  exact preferred other.client others less foundOther other.link presentOther sameOther

-- Exactly when one link of a stream is left and it is the preferred client's.
theorem merge_keepsPreferred_iff (perClient : List (List Link)) (stream : Nat × Bool) :
    KeepsPreferred perClient stream ↔ Unbroken perClient stream ∧ Led perClient stream := by
  constructor
  · rintro ⟨client, links, link, found, present, preferred, kept⟩
    rw [kept_eq] at kept
    exact ⟨unbroken_of_kept kept, led_of_keepsPreferred found present preferred kept⟩
  · rintro ⟨unbroken, led⟩
    exact keepsPreferred_of_led unbroken led

-- A later client that knows a greater height displaces the first one, and a stream of a height in
-- between leaves both.
theorem merge_keeps_displaced :
    let video (itag height : Nat) : Link :=
      { itag := itag, mimeType := "video/mp4".toList, height := some height }
    (137, false) ∈ [video 137 720].map Link.stream ∧
      merge [[video 137 720], [video 137 1080]] = [video 137 1080] ∧
      ¬ KeepsPreferred [[video 137 720], [video 137 1080]] (137, false) ∧
      merge [[video 137 1080, video 248 720], [video 137 480]] =
        [video 137 1080, video 248 720, video 137 480] ∧
      ¬ KeepsPreferred [[video 137 1080, video 248 720], [video 137 480]] (137, false) := by
  intro video
  have displaced : merge [[video 137 720], [video 137 1080]] = [video 137 1080] := by
    have behind : before ⟨0, video 137 720⟩ ⟨1, video 137 1080⟩ = false := by decide
    have two : entries [[video 137 720], [video 137 1080]] =
        [⟨0, video 137 720⟩, ⟨1, video 137 1080⟩] := rfl
    rw [merge, two]
    simp [List.mergeSort, behind]
    rfl
  have parted : merge [[video 137 1080, video 248 720], [video 137 480]] =
      [video 137 1080, video 248 720, video 137 480] := by
    have sorted : (entries [[video 137 1080, video 248 720], [video 137 480]]).Pairwise
        (fun a b => before a b = true) := by decide
    rw [merge, List.mergeSort_of_pairwise sorted]
    rfl
  refine ⟨by decide, displaced, ?_, parted, ?_⟩
  · rintro ⟨client, links, link, found, present, preferred, kept⟩
    rw [displaced] at kept
    obtain rfl : video 137 1080 = link := (List.cons.inj kept).1
    match client with
    | 0 =>
      cases found
      exact absurd present (by decide)
    | client + 1 => exact preferred 0 _ (Nat.succ_pos client) rfl (video 137 720) (by decide) rfl
  · rintro ⟨client, links, link, found, present, preferred, kept⟩
    rw [parted] at kept
    cases kept

-- The links of one stream are described alike when they differ in nothing that ranks before the stream.
def Alike (perClient : List (List Link)) (stream : Nat × Bool) : Prop :=
  ∀ a ∈ entries perClient, ∀ b ∈ entries perClient, a.link.stream = stream → b.link.stream = stream →
    tier a.link = tier b.link ∧ rank a.link = rank b.link ∧
      a.link.height.getD 0 = b.link.height.getD 0

theorem before_of_alike {a b : Entry} (sameTier : tier a.link = tier b.link)
    (sameRank : rank a.link = rank b.link) (sameHeight : a.link.height.getD 0 = b.link.height.getD 0)
    (same : a.link.stream = b.link.stream) : before a b = true ↔ a.client ≤ b.client := by
  obtain ⟨sameItag, sameDrc⟩ := Prod.mk.inj same
  simp [before, compareEntries, sameTier, sameRank, sameHeight, sameItag, sameDrc, Nat.isLE_compare]

-- Apart from the clients the order is still there.
theorem before_of_before {a b : Entry} (ordered : before a b = true) :
    before ⟨0, a.link⟩ ⟨0, b.link⟩ = true := by
  have sameClient : (compare 0 0).isLE = true := rfl
  simp only [before, compareEntries, Ordering.isLE_then_iff_or] at ordered ⊢
  grind

theorem unbroken_of_alike (alike : Alike perClient stream) : Unbroken perClient stream := by
  intro first firstIn between betweenIn last lastIn sameFirst sameLast ahead behind
  obtain ⟨sameTier, sameRank, sameHeight⟩ := alike last lastIn first firstIn sameLast sameFirst
  have back : before ⟨0, last.link⟩ ⟨0, first.link⟩ = true :=
    (before_of_alike (a := ⟨0, last.link⟩) (b := ⟨0, first.link⟩) sameTier sameRank sameHeight
      (sameLast.trans sameFirst.symm)).mpr (Nat.le_refl 0)
  have agree := agree_of_before (before_of_before ahead) (before_trans (before_of_before behind) back)
  exact agree.1.symm.trans sameFirst

theorem led_of_alike (alike : Alike perClient stream) {present : Entry}
    (found : present ∈ entries perClient) (same : present.link.stream = stream) :
    Led perClient stream := by
  obtain ⟨front, first, back, -, firstIn, sameFirst, leads, -⟩ := ranked_split found same
  refine ⟨first, firstIn, sameFirst, ?_⟩
  intro other otherIn sameOther
  obtain ⟨sameTier, sameRank, sameHeight⟩ := alike first firstIn other otherIn sameFirst sameOther
  have ahead := leads other otherIn sameOther
  exact ⟨ahead, (before_of_alike sameTier sameRank sameHeight
    (sameFirst.trans sameOther.symm)).mp ahead⟩

theorem keepsPreferred_of_alike (alike : Alike perClient stream) {client : Nat} {links : List Link}
    {link : Link} (found : perClient[client]? = some links) (present : link ∈ links)
    (same : link.stream = stream) : KeepsPreferred perClient stream :=
  keepsPreferred_of_led (unbroken_of_alike alike)
    (led_of_alike alike (entry_of_link found present) same)

end StreamLinks.Ranking
