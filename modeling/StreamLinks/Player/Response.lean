import StreamLinks.Failure
import StreamLinks.Stream.Descriptor
/-!
What a provider answers when it is asked for the streams of a video.
-/
namespace StreamLinks

/-- Whether the video can be played, in the provider's words. -/
structure Playability where
  status : Text := []
  reason : Option Text := none
  messages : List Text := []
  deriving Repr, DecidableEq

/-- The addresses of the manifests beside the single streams. -/
structure Manifests where
  dash : Option Text := none
  hls : Option Text := none
  adaptive : Option Text := none
  deriving Repr, DecidableEq

/-- Each address of the first, or of the second where the first has none. -/
def Manifests.or (first second : Manifests) : Manifests :=
  { dash := first.dash.or second.dash
    hls := first.hls.or second.hls
    adaptive := first.adaptive.or second.adaptive }

/-- The streams of a video. -/
structure Offer where
  /-- Streams with picture and sound. -/
  combined : List Descriptor := []
  /-- Streams with either of them. -/
  single : List Descriptor := []
  manifests : Manifests := {}
  deriving Repr

/-- An answer of the provider. -/
structure PlayerResponse where
  playability : Option Playability := none
  /-- The video that the answer is about. -/
  video : Option Text := none
  offer : Option Offer := none
  deriving Repr

/-- Why an answer is of no use. -/
inductive ResponseError where
  | otherVideo (actual asked : Text)
  | unplayable (status : Text) (reason : Option Text)
  deriving Repr, DecidableEq

def ResponseError.message : ResponseError → Text
  | otherVideo actual asked =>
    "Invalid player response: got player response for video \"".toList ++ actual ++
      "\" instead of \"".toList ++ asked ++ ['"']
  | unplayable status none => "Video is not playable (".toList ++ status ++ [')']
  | unplayable _ (some reason) => reason

def ResponseError.failure (error : ResponseError) : Failure := .own .validation error.message

namespace PlayerResponse

/-- All streams, those with picture and sound first. -/
def descriptors (response : PlayerResponse) : List Descriptor :=
  match response.offer with
  | some offer => offer.combined ++ offer.single
  | none => []

def manifests (response : PlayerResponse) : Manifests :=
  (response.offer.map (·.manifests)).getD {}

/-- The reason that the provider gives, or else its messages. -/
def reason (response : PlayerResponse) : Option Text := do
  let playability ← response.playability
  (Descriptor.nonEmpty playability.reason).or
    (Descriptor.nonEmpty (some (Text.join [' '] playability.messages)))

/-- The answer is about the video and lets it be played. -/
def check (response : PlayerResponse) (video : Text) : Except ResponseError Unit :=
  let actual := response.video.getD []
  if actual ≠ video then .error (.otherVideo actual video)
  else
    match response.playability with
    | none => .ok ()
    | some playability =>
      if playability.status = [] ∨ playability.status = "OK".toList then .ok ()
      else .error (.unplayable playability.status response.reason)

end PlayerResponse

namespace Playability

/-- Reads the verdict on a video. -/
def ofJson? (value : Json.Value) : Option Playability := do
  match ← Json.fields [⟨"status", true⟩, ⟨"reason", false⟩, ⟨"messages", true⟩] value with
  | [status, reason, messages] =>
    return {
      status := ← Json.defaulted [] Json.text? status
      reason := ← Json.optional Json.text? reason
      messages := ← Json.defaulted [] (Json.listOf? Json.text?) messages }
  | _ => none

end Playability

namespace Offer

/-- A kept value nests this deep in a descriptor of an answer. -/
def room : Nat := 123

/-- Reads the streams of a video. -/
def ofJson? (value : Json.Value) : Option Offer := do
  let wanted : List Json.Field := [⟨"formats", true⟩, ⟨"adaptiveFormats", true⟩,
    ⟨"dashManifestUrl", false⟩, ⟨"hlsManifestUrl", false⟩, ⟨"serverAbrStreamingUrl", false⟩]
  match ← Json.fields wanted value with
  | [combined, single, dash, hls, adaptive] =>
    return {
      combined := ← Json.defaulted [] (Json.listOf? (Descriptor.ofJson? room)) combined
      single := ← Json.defaulted [] (Json.listOf? (Descriptor.ofJson? room)) single
      manifests := {
        dash := ← Json.optional Json.text? dash
        hls := ← Json.optional Json.text? hls
        adaptive := ← Json.optional Json.text? adaptive } }
  | _ => none

end Offer

namespace PlayerResponse

/-- Reads the identifier from the details of a video. -/
def videoOfJson? (value : Json.Value) : Option Text := do
  match ← Json.fields [⟨"videoId", false⟩] value with
  | [video] => Json.required Json.text? video
  | _ => none

def ofJson? (value : Json.Value) : Option PlayerResponse := do
  let wanted : List Json.Field :=
    [⟨"playabilityStatus", false⟩, ⟨"videoDetails", false⟩, ⟨"streamingData", false⟩]
  match ← Json.fields wanted value with
  | [playability, video, offer] =>
    return {
      playability := ← Json.optional Playability.ofJson? playability
      video := ← Json.optional videoOfJson? video
      offer := ← Json.optional Offer.ofJson? offer }
  | _ => none

/-- Reads an answer from its text. -/
def read (document : Text) : Option PlayerResponse := (Json.read document).bind ofJson?

end PlayerResponse
end StreamLinks
