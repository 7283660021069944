import StreamLinks.Json.Printer
import StreamLinks.Player.Response
import StreamLinks.Stream.Mime
/-!
Resolved links: each stream with the address that it can be had from, and what went wrong on the way
to it.
-/
namespace StreamLinks

/-- A stream with its address. -/
structure Link where
  itag : Nat
  mimeType : Text := []
  bitrate : Option Nat := none
  width : Option Nat := none
  height : Option Nat := none
  contentLength : Option Nat := none
  quality : Option Text := none
  qualityLabel : Option Text := none
  audioQuality : Option Text := none
  audioSampleRate : Option Nat := none
  fps : Option Nat := none
  isDrc : Bool := false
  url : Option Text := none
  /-- The stream was enlarged by the server. -/
  isEnlarged : Bool := false
  warnings : List Text := []
  deriving Repr, DecidableEq

namespace Link

/-- The figures of a descriptor, without an address. -/
def ofDescriptor (descriptor : Descriptor) : Link :=
  { itag := descriptor.itag
    mimeType := descriptor.mimeType.getD []
    bitrate := descriptor.bitrate
    width := descriptor.width
    height := descriptor.height
    contentLength := descriptor.size
    quality := descriptor.quality
    qualityLabel := descriptor.qualityLabel
    audioQuality := descriptor.audioQuality
    audioSampleRate := descriptor.sampleRate
    fps := descriptor.fps
    isDrc := descriptor.isDrc }

/-- The stream has a known quality of sound. -/
def hasAudioQuality (link : Link) : Bool :=
  match link.audioQuality with
  | some quality => !quality.isEmpty
  | none => false

/-- Picture and sound. -/
def isCombined (link : Link) : Bool := Mime.isVideo link.mimeType && link.hasAudioQuality

/-- Picture alone. -/
def isVideoOnly (link : Link) : Bool := Mime.isVideo link.mimeType && !link.hasAudioQuality

/-- Sound alone. -/
def isAudioOnly (link : Link) : Bool := Mime.isAudio link.mimeType

/-- Something went wrong. -/
def isWarned (link : Link) : Bool := !link.warnings.isEmpty

/-- A value, or null. -/
def jsonOr (toJson : α → Json.Value) : Option α → Json.Value
  | some value => toJson value
  | none => .null

def jsonNat (n : Nat) : Json.Value := .number (.natural n)

/-- The link as a value. Warnings are left out when there are none. -/
def toJson (link : Link) : Json.Value :=
  .object ([
    ("itag".toList, jsonNat link.itag),
    ("mimeType".toList, .string link.mimeType),
    ("bitrate".toList, jsonOr jsonNat link.bitrate),
    ("width".toList, jsonOr jsonNat link.width),
    ("height".toList, jsonOr jsonNat link.height),
    ("contentLength".toList, jsonOr jsonNat link.contentLength),
    ("quality".toList, jsonOr .string link.quality),
    ("qualityLabel".toList, jsonOr .string link.qualityLabel),
    ("audioQuality".toList, jsonOr .string link.audioQuality),
    ("audioSampleRate".toList, jsonOr jsonNat link.audioSampleRate),
    ("fps".toList, jsonOr jsonNat link.fps),
    ("isDrc".toList, .bool link.isDrc),
    ("url".toList, jsonOr .string link.url),
    ("isSuperResolution".toList, .bool link.isEnlarged)] ++
    if link.warnings.isEmpty then []
    else [("warnings".toList, .array (link.warnings.map .string))])

/-- The fields of a link in the order of their declaration. -/
def wanted : List Json.Field := [
  ⟨"itag", false⟩, ⟨"mimeType", false⟩, ⟨"bitrate", false⟩, ⟨"width", false⟩, ⟨"height", false⟩,
  ⟨"contentLength", false⟩, ⟨"quality", false⟩, ⟨"qualityLabel", false⟩, ⟨"audioQuality", false⟩,
  ⟨"audioSampleRate", false⟩, ⟨"fps", false⟩, ⟨"isDrc", false⟩, ⟨"url", false⟩,
  ⟨"isSuperResolution", false⟩, ⟨"warnings", true⟩]

def ofJson? (value : Json.Value) : Option Link := do
  match ← Json.fields wanted value with
  | [itag, mimeType, bitrate, width, height, contentLength, quality, qualityLabel, audioQuality,
      audioSampleRate, fps, isDrc, url, isEnlarged, warnings] =>
    return {
      itag := ← Json.required Json.word32? itag
      mimeType := ← Json.required Json.text? mimeType
      bitrate := ← Json.optional Json.word64? bitrate
      width := ← Json.optional Json.word32? width
      height := ← Json.optional Json.word32? height
      contentLength := ← Json.optional Json.word64? contentLength
      quality := ← Json.optional Json.text? quality
      qualityLabel := ← Json.optional Json.text? qualityLabel
      audioQuality := ← Json.optional Json.text? audioQuality
      audioSampleRate := ← Json.optional Json.word32? audioSampleRate
      fps := ← Json.optional Json.word32? fps
      isDrc := ← Json.required Json.bool? isDrc
      url := ← Json.optional Json.text? url
      isEnlarged := ← Json.required Json.bool? isEnlarged
      warnings := ← Json.defaulted [] (Json.listOf? Json.text?) warnings }
  | _ => none

/-- Reads a document that is one link. -/
def read (document : Text) : Option Link := (Json.read document).bind ofJson?

/-- Links with picture and sound. -/
def combined (links : List Link) : List Link := links.filter isCombined

/-- Links with picture alone. -/
def videoOnly (links : List Link) : List Link := links.filter isVideoOnly

/-- Links with sound alone. -/
def audioOnly (links : List Link) : List Link := links.filter isAudioOnly

/-- Links with neither picture nor sound that is known. -/
def other (links : List Link) : List Link :=
  links.filter fun link => !link.isCombined && !link.isVideoOnly && !link.isAudioOnly

/-- The first link with picture, sound and an address. -/
def firstCombined? (links : List Link) : Option Link :=
  links.find? fun link => link.isCombined && link.url.isSome

end Link

/-- All that is found for one video. -/
structure LinkSet where
  links : List Link := []
  manifests : Manifests := {}
  deriving Repr, DecidableEq

namespace LinkSet

/-- How many links carry warnings. -/
def warnedCount (set : LinkSet) : Nat := (set.links.filter Link.isWarned).length

def toJson (set : LinkSet) : Json.Value :=
  .object [
    ("formats".toList, .array (set.links.map Link.toJson)),
    ("dashManifestUrl".toList, Link.jsonOr .string set.manifests.dash),
    ("hlsManifestUrl".toList, Link.jsonOr .string set.manifests.hls),
    ("serverAbrStreamingUrl".toList, Link.jsonOr .string set.manifests.adaptive)]

def ofJson? (value : Json.Value) : Option LinkSet := do
  let wanted : List Json.Field := [⟨"formats", false⟩, ⟨"dashManifestUrl", false⟩,
    ⟨"hlsManifestUrl", false⟩, ⟨"serverAbrStreamingUrl", false⟩]
  match ← Json.fields wanted value with
  | [links, dash, hls, adaptive] =>
    return {
      links := ← Json.required (Json.listOf? Link.ofJson?) links
      manifests := {
        dash := ← Json.optional Json.text? dash
        hls := ← Json.optional Json.text? hls
        adaptive := ← Json.optional Json.text? adaptive } }
  | _ => none

/-- Reads a document that is a set of links. -/
def read (document : Text) : Option LinkSet := (Json.read document).bind ofJson?

end LinkSet
end StreamLinks
