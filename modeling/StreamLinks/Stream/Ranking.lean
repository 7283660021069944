import StreamLinks.Stream.Link
/-!
One ranked list from the links that several clients were given for the same video.

Links are sorted by a key, with links of equal key in their old order, and a link that repeats the
stream number and the compression of the one before it is dropped.
-/
namespace StreamLinks.Ranking

/-- Picture and sound before picture alone before all else. -/
def tier (link : Link) : Nat :=
  if link.isCombined then 0 else if link.isVideoOnly then 1 else 2

/-- The quality of sound; unknown ones are the lowest. -/
def audioTier (quality : Option Text) : Nat :=
  let quality := quality.getD []
  if quality = "AUDIO_QUALITY_ULTRALOW".toList then 1
  else if quality = "AUDIO_QUALITY_LOW".toList then 2
  else if quality = "AUDIO_QUALITY_MEDIUM".toList then 3
  else if quality = "AUDIO_QUALITY_HIGH".toList then 4
  else 0

/-- What comes next after the tier: the number, nothing, or the quality of sound. -/
def rank (link : Link) : Nat :=
  match tier link with
  | 0 => link.itag
  | 1 => 0
  | _ => audioTier link.audioQuality

/-- A link together with the place of its client; earlier clients are preferred. -/
structure Entry where
  client : Nat
  link : Link
  deriving Repr, DecidableEq

/-- The first of the comparisons that tells two entries apart decides. Heights run downwards, all
else upwards. -/
def compareEntries (a b : Entry) : Ordering :=
  (compare (tier a.link) (tier b.link)).then <|
  (compare (rank a.link) (rank b.link)).then <|
  (compare (b.link.height.getD 0) (a.link.height.getD 0)).then <|
  (compare a.link.itag b.link.itag).then <|
  (compare a.link.isDrc.toNat b.link.isDrc.toNat).then <|
  compare a.client b.client

/-- The first entry may stand before the second. -/
def before (a b : Entry) : Bool := (compareEntries a b).isLE

/-- The entries of all clients, client by client. -/
def entries (perClient : List (List Link)) : List Entry :=
  perClient.zipIdx.flatMap fun (links, client) => links.map (⟨client, ·⟩)

/-- Both links are of the same stream. -/
def sameStream (a b : Link) : Bool := a.itag == b.itag && a.isDrc == b.isDrc

/-- Without the links that are of the same stream as the last one kept. -/
def dropRepeats (last : Option Link) : List Link → List Link
  | [] => []
  | link :: links =>
    if last.any (sameStream · link) then dropRepeats last links
    else link :: dropRepeats (some link) links

/-- The links of all clients in one ranked list. -/
def merge (perClient : List (List Link)) : List Link :=
  dropRepeats none (((entries perClient).mergeSort before).map (·.link))

end StreamLinks.Ranking
