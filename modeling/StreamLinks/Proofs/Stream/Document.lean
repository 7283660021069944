import StreamLinks.CommandLine.Session
import StreamLinks.Proofs.Json.Indented
import StreamLinks.Proofs.Json.Records
import StreamLinks.Proofs.Text.Splitting
/-!
Documents of links: what is written for a set of links, on one line or over several, is read as the same
set. So a set that was read once stays as it is, however often it is written and read again.
-/
namespace StreamLinks

namespace Link
variable {link : Link}

-- Every number fits in the word that holds it, of 32 or of 64 bits.
structure Fits (link : Link) : Prop where
  itag : link.itag < Nat.pow 2 32
  bitrate : ∀ n ∈ link.bitrate, n < Nat.pow 2 64
  width : ∀ n ∈ link.width, n < Nat.pow 2 32
  height : ∀ n ∈ link.height, n < Nat.pow 2 32
  contentLength : ∀ n ∈ link.contentLength, n < Nat.pow 2 64
  audioSampleRate : ∀ n ∈ link.audioSampleRate, n < Nat.pow 2 32
  fps : ∀ n ∈ link.fps, n < Nat.pow 2 32

theorem optional_text (text : Option Text) :
    Json.optional Json.text? (some (jsonOr .string text)) = some text := by
  cases text <;> rfl

theorem below?_natural {bound n : Nat} (fits : n < bound) :
    Json.below? bound (jsonNat n) = some n := if_pos fits

theorem optional_below {bound : Nat} {number : Option Nat} (fits : ∀ n ∈ number, n < bound) :
    Json.optional (Json.below? bound) (some (jsonOr jsonNat number)) = some number := by
  cases number with
  | none => rfl
  | some n => exact congrArg (Option.map some) (below?_natural (fits n rfl))

theorem listOf?_texts (texts : List Text) :
    Json.listOf? Json.text? (.array (texts.map .string)) = some texts :=
  Json.listOf?_map fun _ _ => rfl

theorem wanted_nodup : (wanted.map (·.name.toList)).Nodup := by decide

-- The members stand in the order of the fields; only the last one may be left out.
theorem fields_toJson (link : Link) :
    Json.fields wanted link.toJson = some [
      some (jsonNat link.itag), some (.string link.mimeType), some (jsonOr jsonNat link.bitrate),
      some (jsonOr jsonNat link.width), some (jsonOr jsonNat link.height),
      some (jsonOr jsonNat link.contentLength), some (jsonOr .string link.quality),
      some (jsonOr .string link.qualityLabel), some (jsonOr .string link.audioQuality),
      some (jsonOr jsonNat link.audioSampleRate), some (jsonOr jsonNat link.fps),
      some (.bool link.isDrc), some (jsonOr .string link.url), some (.bool link.isEnlarged),
      if link.warnings.isEmpty then none else some (.array (link.warnings.map .string))] := by
  unfold toJson
  split
  · have shorter : ((wanted.map (·.name.toList)).take 14).Nodup :=
      wanted_nodup.sublist (List.take_sublist 14 _)
    refine Json.fields_of_nodup ?_ wanted
    exact shorter
  · refine Json.fields_of_nodup ?_ wanted
    exact wanted_nodup

theorem ofJson?_toJson (fits : link.Fits) : ofJson? link.toJson = some link := by
  have warnings : Json.defaulted [] (Json.listOf? Json.text?)
      (if link.warnings.isEmpty then none else some (.array (link.warnings.map .string))) =
        some link.warnings := by
    split
    · next empty => rw [List.isEmpty_iff.mp empty]; rfl
    · exact listOf?_texts link.warnings
  unfold ofJson?
  rw [fields_toJson]
  -- The reads of the fields stand one inside the other, so they are made from the outside.
  dsimp only [Option.bind_eq_bind, Option.bind_some, Json.required, Json.word32?, Json.word64?]
  rw [below?_natural fits.itag, optional_below fits.bitrate, optional_below fits.width,
    optional_below fits.height, optional_below fits.contentLength, optional_below fits.audioSampleRate,
    optional_below fits.fps, optional_text, optional_text, optional_text, optional_text, warnings]
  rfl

-- The bounds are those of the reader, so no other numbers get in.
theorem fits_of_ofJson? {value : Json.Value} (read : ofJson? value = some link) : link.Fits := by
  unfold ofJson? at read
  obtain ⟨given, -, read⟩ := Option.bind_eq_some_iff.mp read
  split at read
  · dsimp only [Option.bind_eq_bind] at read
    simp only [↓Option.bind_eq_some_iff, Option.pure_def, Option.some.injEq] at read
    obtain ⟨itag, itagRead, mimeType, -, bitrate, bitrateRead, width, widthRead, height, heightRead,
      contentLength, lengthRead, quality, -, label, -, audioQuality, -, rate, rateRead, fps, fpsRead,
      isDrc, -, url, -, isEnlarged, -, warnings, -, rfl⟩ := read
    obtain ⟨number, itagRead⟩ := Json.of_required itagRead
    exact {
      itag := Json.lt_of_below? itagRead
      bitrate := Json.lt_of_optional bitrateRead
      width := Json.lt_of_optional widthRead
      height := Json.lt_of_optional heightRead
      contentLength := Json.lt_of_optional lengthRead
      audioSampleRate := Json.lt_of_optional rateRead
      fps := Json.lt_of_optional fpsRead }
  · cases read

theorem isPlain_jsonOr_string (text : Option Text) : (jsonOr .string text).IsPlain := by
  cases text <;> trivial

theorem isPlain_jsonOr_natural {bound : Nat} {number : Option Nat} (fits : ∀ n ∈ number, n < bound)
    (word : bound ≤ Json.wordBound) : (jsonOr jsonNat number).IsPlain := by
  cases number with
  | none => trivial
  | some n => exact Nat.lt_of_lt_of_le (fits n rfl) word

theorem isPlain_toJson (fits : link.Fits) : link.toJson.IsPlain := by
  have small : Nat.pow 2 32 ≤ Json.wordBound := by decide
  have itag : link.itag < Json.wordBound := Nat.lt_of_lt_of_le fits.itag small
  have bitrate := isPlain_jsonOr_natural fits.bitrate (Nat.le_refl _)
  have width := isPlain_jsonOr_natural fits.width small
  have height := isPlain_jsonOr_natural fits.height small
  have contentLength := isPlain_jsonOr_natural fits.contentLength (Nat.le_refl _)
  have audioSampleRate := isPlain_jsonOr_natural fits.audioSampleRate small
  have fps := isPlain_jsonOr_natural fits.fps small
  have warnings := Json.arePlain_strings link.warnings
  unfold toJson
  split <;> simp_all [Json.Value.IsPlain, Json.membersPlain, jsonNat, isPlain_jsonOr_string]

end Link

namespace LinkSet
variable {set : LinkSet}

def Fits (set : LinkSet) : Prop := ∀ link ∈ set.links, link.Fits

theorem fields_toJson (set : LinkSet) :
    Json.fields [⟨"formats", false⟩, ⟨"dashManifestUrl", false⟩, ⟨"hlsManifestUrl", false⟩,
        ⟨"serverAbrStreamingUrl", false⟩] set.toJson = some [
      some (.array (set.links.map Link.toJson)), some (Link.jsonOr .string set.manifests.dash),
      some (Link.jsonOr .string set.manifests.hls),
      some (Link.jsonOr .string set.manifests.adaptive)] := by
  have distinct : ["formats".toList, "dashManifestUrl".toList, "hlsManifestUrl".toList,
      "serverAbrStreamingUrl".toList].Nodup := by decide
  refine Json.fields_of_nodup ?_ _
  exact distinct

theorem ofJson?_toJson (fits : set.Fits) : ofJson? set.toJson = some set := by
  have links := Json.listOf?_map fun link present => Link.ofJson?_toJson (fits link present)
  simp only [ofJson?, fields_toJson, Option.bind_eq_bind, Option.bind_some, Json.required, links,
    Link.optional_text]
  rfl

theorem fits_of_ofJson? {value : Json.Value} (read : ofJson? value = some set) : set.Fits := by
  unfold ofJson? at read
  obtain ⟨given, -, read⟩ := Option.bind_eq_some_iff.mp read
  split at read
  · simp only [Option.bind_eq_bind, Option.bind_eq_some_iff, Option.pure_def, Option.some.injEq] at read
    obtain ⟨links, linksRead, dash, -, hls, -, adaptive, -, rfl⟩ := read
    obtain ⟨value, linksRead⟩ := Json.of_required linksRead
    intro link present
    obtain ⟨part, partRead⟩ := Json.of_mem_listOf? linksRead link present
    exact Link.fits_of_ofJson? partRead
  · cases read

theorem isPlain_toJson (fits : set.Fits) : set.toJson.IsPlain := by
  have links := Json.arePlain_map fun link present => Link.isPlain_toJson (fits link present)
  exact ⟨links, Link.isPlain_jsonOr_string _, Link.isPlain_jsonOr_string _,
    Link.isPlain_jsonOr_string _, trivial⟩

-- The set is read from what is written for it: on one line, over several lines, and as the lines that
-- the program puts out.
def Survives (set : LinkSet) : Prop :=
  read set.toJson.compact = some set ∧ read (set.toJson.pretty 0) = some set ∧
    ∀ coloured (arguments : CommandLine.Arguments), arguments.has .json = true →
      read ((CommandLine.linkOutput coloured arguments set).flatMap (· ++ ['\n'])) = some set

theorem survives_of_fits (fits : set.Fits) : set.Survives := by
  have plain := isPlain_toJson fits
  have indented := Json.reads_pretty 0 set.toJson plain
  refine ⟨?_, ?_, ?_⟩
  · rw [read, Json.read_compact plain]
    exact ofJson?_toJson fits
  · rw [read, indented.read]
    exact ofJson?_toJson fits
  · intro coloured arguments asked
    rw [CommandLine.linkOutput, if_pos asked, Text.flatMap_splitAtChar, read, indented.read_line]
    exact ofJson?_toJson fits

-- What was accepted once is written and read again without a change.
theorem document_kept :
    (∀ set : LinkSet, set.Fits → set.Survives) ∧
      ∀ document set, read document = some set → set.Survives := by
  refine ⟨fun set => survives_of_fits, ?_⟩
  intro document set accepted
  obtain ⟨value, -, found⟩ := Option.bind_eq_some_iff.mp accepted
  exact survives_of_fits (fits_of_ofJson? found)

-- Numbers at their limits, a text of escapes, and a document in which a record is an array.
theorem document_kept_limits :
    let link : Link := {
      itag := 4294967295, mimeType := "\"\\\x01\n\u2028😀".toList
      bitrate := some 18446744073709551615, width := some 0, url := some [], isDrc := true
      warnings := ["a".toList, []] }
    let document := "\x7b\"formats\":[[1,\"m\",null,2,null,null,null,null,null,null,null,true,null,".toList ++
      "false]], \"dashManifestUrl\": \"\\ud83d\\ude00\"\x7d".toList
    let set : LinkSet := ⟨[link, { itag := 0 }], { hls := some "h".toList }⟩
    let accepted : LinkSet :=
      ⟨[{ itag := 1, mimeType := "m".toList, width := some 2, isDrc := true }],
        { dash := some "😀".toList }⟩
    (set.Fits ∧ set.Survives) ∧ read document = some accepted ∧ accepted.Survives := by
  intro link document set accepted
  have fits : set.Fits := by
    intro other present
    rcases List.mem_cons.mp present with rfl | last
    · constructor <;> simp [link]
    · cases List.mem_singleton.mp last
      constructor <;> simp
  have found : read document = some accepted := by decide +kernel
  exact ⟨⟨fits, document_kept.1 set fits⟩, found, document_kept.2 document accepted found⟩

end LinkSet
end StreamLinks
