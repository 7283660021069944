import StreamLinks.Json.Decode
import StreamLinks.Json.Reader
import StreamLinks.Text.Numeral
/-!
Streams as a provider lists them: the figures of each, and where its address is to be found.
-/
namespace StreamLinks

/-- One stream as the provider lists it. -/
structure Descriptor where
  itag : Nat
  url : Option Text := none
  mimeType : Option Text := none
  bitrate : Option Nat := none
  width : Option Nat := none
  height : Option Nat := none
  /-- A numeral, if the provider is right. -/
  contentLength : Option Text := none
  quality : Option Text := none
  qualityLabel : Option Text := none
  audioQuality : Option Text := none
  /-- A numeral or a number, if the provider is right. -/
  audioSampleRate : Option Json.Value := none
  fps : Option Nat := none
  isDrc : Bool := false
  cipher : Option Text := none
  signatureCipher : Option Text := none
  deriving Repr

namespace Descriptor

/-- The text, unless it is empty. -/
def nonEmpty : Option Text → Option Text
  | some [] => none
  | other => other

/-- The cipher query. The field `cipher` hides the other one even when it is empty. -/
def cipherQuery (descriptor : Descriptor) : Option Text :=
  nonEmpty (descriptor.cipher.or descriptor.signatureCipher)

/-- The address that needs no signature. -/
def directUrl (descriptor : Descriptor) : Option Text := nonEmpty descriptor.url

/-- The samples a second, given as a numeral or as a number, which is taken modulo the word size. -/
def sampleRate (descriptor : Descriptor) : Option Nat :=
  match descriptor.audioSampleRate with
  | some (.string numeral) => Text.readSigned? (Nat.pow 2 32) numeral
  | some (.number (.natural n)) => if n < Nat.pow 2 64 then some (n % Nat.pow 2 32) else none
  | _ => none

/-- The size in bytes. -/
def size (descriptor : Descriptor) : Option Nat :=
  descriptor.contentLength.bind (Text.readSigned? (Nat.pow 2 64))

/-- The fields of a descriptor in the order of their declaration. -/
def wanted : List Json.Field := [
  ⟨"itag", false⟩, ⟨"url", false⟩, ⟨"mimeType", false⟩, ⟨"bitrate", false⟩, ⟨"width", false⟩,
  ⟨"height", false⟩, ⟨"contentLength", false⟩, ⟨"quality", false⟩, ⟨"qualityLabel", false⟩,
  ⟨"audioQuality", false⟩, ⟨"audioSampleRate", false⟩, ⟨"fps", false⟩, ⟨"isDrc", true⟩,
  ⟨"cipher", false⟩, ⟨"signatureCipher", false⟩]

/-- The value itself, if it nests at most `room` deep. -/
def kept? (room : Nat) (value : Json.Value) : Option Json.Value :=
  if value.isKept room then some value else none

/-- Reads a descriptor from a value inside which a kept value may nest `room` deep. -/
def ofJson? (room : Nat) (value : Json.Value) : Option Descriptor := do
  match ← Json.fields wanted value with
  | [itag, url, mimeType, bitrate, width, height, contentLength, quality, qualityLabel,
      audioQuality, audioSampleRate, fps, isDrc, cipher, signatureCipher] =>
    return {
      itag := ← Json.required Json.word32? itag
      url := ← Json.optional Json.text? url
      mimeType := ← Json.optional Json.text? mimeType
      bitrate := ← Json.optional Json.word64? bitrate
      width := ← Json.optional Json.word32? width
      height := ← Json.optional Json.word32? height
      contentLength := ← Json.optional Json.text? contentLength
      quality := ← Json.optional Json.text? quality
      qualityLabel := ← Json.optional Json.text? qualityLabel
      audioQuality := ← Json.optional Json.text? audioQuality
      audioSampleRate := ← Json.optional (kept? room) audioSampleRate
      fps := ← Json.optional Json.word32? fps
      isDrc := ← Json.defaulted false Json.bool? isDrc
      cipher := ← Json.optional Json.text? cipher
      signatureCipher := ← Json.optional Json.text? signatureCipher }
  | _ => none

/-- A kept value nests this deep in a document that is one descriptor. -/
def roomAlone : Nat := 126

/-- Reads a document that is one descriptor. -/
def read (document : Text) : Option Descriptor :=
  (Json.read document).bind (ofJson? roomAlone)

end Descriptor
end StreamLinks
