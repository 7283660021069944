import StreamLinks.Digest.Sha3
import StreamLinks.Http.Fetch
import StreamLinks.Json.Decode
import StreamLinks.Json.Reader
/-!
The helper scripts behind the batch solver.

A manifest gives the digest of each published helper. A helper is used only if it has that digest:
from the cache if the copy there is right, else from one download, which then goes into the cache.
-/
namespace StreamLinks

/-- The two helpers. -/
inductive HelperFile where
  | library
  | core
  deriving Repr, DecidableEq

namespace HelperFile

/-- The name under which the manifest lists the helper. -/
def name : HelperFile → Text
  | library => "lib.json".toList
  | core => "yt.solver.core.js".toList

/-- The name of the helper's copy in the cache. -/
def cacheName : HelperFile → Text
  | library => "yt.lib.json".toList
  | core => "yt.solver.core.js".toList

end HelperFile

/-- The published digests; of several for one name the last counts. -/
abbrev Manifest := List (Text × Text)

namespace Manifest

def digest? (manifest : Manifest) (file : HelperFile) : Option Text :=
  manifest.reverse.lookup file.name

/-- Reads a manifest from its text. -/
def read (document : Text) : Option Manifest :=
  (Json.read document).bind (Json.mapOf? Json.text?)

end Manifest

/-- What is wrong with a helper. -/
inductive HelperError where
  | unlisted (file : HelperFile)
  | altered (file : HelperFile)
  deriving Repr, DecidableEq

def HelperError.message : HelperError → Text
  | unlisted file => "No published digest for ".toList ++ file.name
  | altered file => file.name ++ " does not match its published digest".toList

def HelperError.failure (error : HelperError) : Failure := .own .verification error.message

/-- Where the helpers and their manifest are published. -/
structure HelperSource where
  server : Http.Server
  libraryUrl : Text
  coreUrl : Text
  manifestUrl : Text

namespace HelperSource

def url (source : HelperSource) : HelperFile → Text
  | .library => source.libraryUrl
  | .core => source.coreUrl

/-- The content has the digest, whatever the case of its digits and the blanks around it. -/
def matchesDigest (content digest : Text) : Bool :=
  Text.sameIgnoringCase (Sha3.hexDigest content) (Text.trim digest)

/-- The cached copy if it has the published digest. -/
def trusted? (world : World) (file : HelperFile) (digest : Text) : Option Text :=
  (world.cached? file.cacheName).filter (matchesDigest · digest)

/-- Loads one helper. -/
def load (source : HelperSource) (manifest : Manifest) (file : HelperFile) : Call Text :=
  fun world =>
    match manifest.digest? file with
    | none => (.error (HelperError.unlisted file).failure, world)
    | some digest =>
      match trusted? world file digest with
      | some content => (.ok content, world)
      | none =>
        match World.outside (Http.fetch source.server (source.url file)) world with
        | (.error failure, world) => (.error failure, world)
        | (.ok content, world) =>
          if matchesDigest content digest then
            (.ok content, world.store file.cacheName content)
          else (.error (HelperError.altered file).failure, world)

/-- The source inside the library's document. -/
def libraryCode? (document : Text) : Option Text := do
  match ← Json.fields [⟨"data", false⟩] (← Json.read document) with
  | [some data] =>
    match ← Json.fields [⟨"code", false⟩] data with
    | [code] => Json.required Json.text? code
    | _ => none
  | _ => none

/-- What is said of a document that is not in the expected form. -/
def malformed : Text := "unexpected document".toList

/-- Loads the manifest and then both helpers. -/
def loadAll (source : HelperSource) : Call Helpers := fun world =>
  match World.outside (Http.fetch source.server source.manifestUrl) world with
  | (.error failure, world) => (.error failure, world)
  | (.ok document, world) =>
    match Manifest.read document with
    | none => (.error (.document malformed), world)
    | some manifest =>
      match source.load manifest .library world with
      | (.error failure, world) => (.error failure, world)
      | (.ok library, world) =>
        match source.load manifest .core world with
        | (.error failure, world) => (.error failure, world)
        | (.ok core, world) =>
          match libraryCode? library with
          | none => (.error (.document malformed), world)
          | some library => (.ok ⟨library, core⟩, world)

/-- The helpers, loaded at most once. -/
def ready (source : HelperSource) : Call Helpers := fun world =>
  match world.helpers with
  | some helpers => (.ok helpers, world)
  | none =>
    match source.loadAll world with
    | (.error failure, world) => (.error failure, world)
    | (.ok helpers, world) => (.ok helpers, { world with helpers := some helpers })

end HelperSource
end StreamLinks
