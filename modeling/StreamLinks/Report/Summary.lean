import StreamLinks.Report.Paint
import StreamLinks.Report.Size
import StreamLinks.Stream.Itag
import StreamLinks.Stream.Link
/-!
A link on one line, without its address.
-/
namespace StreamLinks.Link

/-- The parts of a summary: the number and what it stands for, the media type, and the figures that
are known. -/
def summaryParts (coloured : Bool) (link : Link) : List Text :=
  [Paint.apply coloured [.yellow] ("itag=".toList ++ Text.ofNat link.itag),
    (Itag.describe link.itag).toList,
    Mime.bare link.mimeType] ++
  link.qualityLabel.toList ++
  (link.bitrate.map fun bitrate => Text.ofNat (bitrate / 1000) ++ " kbps".toList).toList ++
  (link.contentLength.map Size.toText).toList ++
  (if link.isDrc then ["DRC".toList] else []) ++
  (if link.isEnlarged then [Paint.apply coloured [.magenta] "SR".toList] else [])

def summary (coloured : Bool) (link : Link) : Text :=
  Text.join " | ".toList (link.summaryParts coloured)

end StreamLinks.Link
