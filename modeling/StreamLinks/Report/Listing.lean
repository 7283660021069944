import StreamLinks.Report.Summary
/-!
The lines that are printed for a set of links.
-/
namespace StreamLinks

/-- How much is printed. -/
inductive Verbosity where
  | quiet
  | normal
  | verbose
  deriving Repr, DecidableEq

namespace LinkSet

/-- The lines of one link: its summary, its address, and its warnings unless they are unwanted. -/
def linkLines (coloured : Bool) (verbosity : Verbosity) (link : Link) : List Text :=
  let indent (depth : Nat) (line : Text) : Text := List.replicate (2 * depth) ' ' ++ line
  [indent 1 (link.summary coloured),
    indent 2 (match link.url with
      | some url => url
      | none => Paint.apply coloured [.red] "(no url)".toList)] ++
  if verbosity = .quiet then []
  else link.warnings.map fun warning =>
    indent 2 (Paint.apply coloured [.bold, .yellow] ['!'] ++ ' ' ::
      Paint.apply coloured [.yellow] warning)

/-- The lines of a group under its title, with an empty line behind; an empty group has none. -/
def groupLines (coloured : Bool) (verbosity : Verbosity) (title : String) (links : List Link) :
    List Text :=
  if links.isEmpty then []
  else
    [Paint.apply coloured [.bold, .underlined] title.toList] ++
    links.flatMap (linkLines coloured verbosity) ++ [[]]

/-- A heading and what it is about. -/
def headed (coloured : Bool) (heading : String) (rest : Text) : Text :=
  Paint.apply coloured [.bold] heading.toList ++ ' ' :: rest

/-- All lines: the groups, the best link with picture and sound, and the manifests. -/
def lines (coloured : Bool) (verbosity : Verbosity) (set : LinkSet) : List Text :=
  groupLines coloured verbosity "Combined" (Link.combined set.links) ++
  groupLines coloured verbosity "Video only" (Link.videoOnly set.links) ++
  groupLines coloured verbosity "Audio only" (Link.audioOnly set.links) ++
  groupLines coloured verbosity "Other" (Link.other set.links) ++
  ((Link.firstCombined? set.links).map fun link =>
    headed coloured "Best muxed:" (link.summary coloured)).toList ++
  (set.manifests.dash.map (headed coloured "DASH:")).toList ++
  (set.manifests.hls.map (headed coloured "HLS:")).toList ++
  (set.manifests.adaptive.map (headed coloured "SABR:")).toList

end LinkSet
end StreamLinks
