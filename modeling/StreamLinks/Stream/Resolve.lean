import StreamLinks.Challenge.Solver
import StreamLinks.Decoder.Basic
import StreamLinks.Stream.Address
import StreamLinks.Stream.CipherQuery
import StreamLinks.Stream.Ranking
/-!
From descriptors to links.

No stream is dropped: whatever fails on the way becomes a warning of the link, which keeps the best
address that could be had. Links stand in the order of their descriptors.
-/
namespace StreamLinks

/-- Where the address of a stream comes from. -/
inductive Source where
  | direct (url : Text)
  | ciphered (query : CipherQuery)
  | missing
  deriving Repr, DecidableEq

namespace Source

def ofDescriptor (descriptor : Descriptor) : Source :=
  match descriptor.directUrl, descriptor.cipherQuery with
  | some url, _ => .direct url
  | none, some query => .ciphered (.read query)
  | none, none => .missing

/-- The address before any token is decoded. -/
def url : Source → Option Text
  | direct url => some url
  | ciphered query => query.url
  | missing => none

/-- The obfuscated signature. -/
def signature : Source → Option Text
  | ciphered query => query.signature
  | _ => none

/-- The parameter that the signature goes into. -/
def signatureParam : Source → Text
  | ciphered query => query.param
  | _ => CipherQuery.defaultParam

/-- The `n` token of the address. -/
def token (source : Source) : Option Text := source.url.bind Address.token?

end Source

/-- What can go wrong with one link. -/
inductive LinkWarning where
  | noSource
  | noUrl
  /-- A token could not be decoded. The address may be refused by the server. -/
  | undecoded (kind : TokenKind) (reason playerUrl : Text)
  deriving Repr, DecidableEq

/-- The parameter that carries tokens of a kind. -/
def TokenKind.param : TokenKind → String
  | signature => "s"
  | throttle => "n"

def LinkWarning.message : LinkWarning → Text
  | noSource => "Format has neither url nor cipher".toList
  | noUrl => "Cipher carries no url".toList
  | undecoded kind reason playerUrl =>
    "Unable to decrypt ".toList ++ kind.param.toList ++ ": ".toList ++ reason ++
      ". This URL may yield HTTP 403 Forbidden error. (player: ".toList ++ playerUrl ++ [')']

/-- What links are made with. -/
structure Resolver where
  /-- Missing when there is no script. -/
  decoder : Option Decoder
  solver : Option Solver
  playerUrl : Text

namespace Resolver

/-- The outcome of decoding the token of a kind, if there is one. -/
def decodeToken (decoder : Decoder) (kind : TokenKind) (token : Option Text) (memo : Memo)
    (world : World) : Option (Except Failure Text) × Memo × World :=
  match token with
  | none => (none, memo, world)
  | some token =>
    match decoder.decode kind token memo world with
    | (outcome, memo, world) => (some outcome, memo, world)

/-- The warning for a failed outcome. -/
def warnings (kind : TokenKind) (playerUrl : Text) : Option (Except Failure Text) → List Text
  | some (.error failure) => [(LinkWarning.undecoded kind failure.message playerUrl).message]
  | _ => []

/-- The address with the decoded `n` token in place of the old one. -/
def withToken (source : Source) (outcome : Option (Except Failure Text)) (url : Text) : Text :=
  match source.token, outcome with
  | some token, some (.ok decoded) =>
    if decoded = token then url else Address.replaceToken token decoded url
  | _, _ => url

/-- The address with the decoded signature behind it. -/
def withSignature (source : Source) (outcome : Option (Except Failure Text)) (url : Text) : Text :=
  match outcome with
  | some (.ok decoded) => Address.append source.signatureParam decoded url
  | _ => url

/-- The link with its address. -/
def finish (link : Link) (url : Text) (warnings : List Text) : Link :=
  { link with url := some url, isEnlarged := Address.isEnlarged url, warnings }

/-- The link of one descriptor. The `n` token is decoded before the signature. -/
def resolveOne (resolver : Resolver) (descriptor : Descriptor) (memo : Memo) (world : World) :
    Link × Memo × World :=
  let link := Link.ofDescriptor descriptor
  let source := Source.ofDescriptor descriptor
  match source.url with
  | none =>
    let warning := match source with
      | .missing => LinkWarning.noSource
      | _ => LinkWarning.noUrl
    ({ link with warnings := [warning.message] }, memo, world)
  | some url =>
    match resolver.decoder with
    | none =>
      let warnings := match source.signature with
        | some _ => [(LinkWarning.undecoded .signature "no player script available".toList
            resolver.playerUrl).message]
        | none => []
      (finish link url warnings, memo, world)
    | some decoder =>
      let (token, memo, world) := decodeToken decoder .throttle source.token memo world
      let (signature, memo, world) := decodeToken decoder .signature source.signature memo world
      (finish link (withSignature source signature (withToken source token url))
        (warnings .throttle resolver.playerUrl token ++
          warnings .signature resolver.playerUrl signature), memo, world)

/-- The links of descriptors in their order. -/
def resolveEach (resolver : Resolver) :
    List Descriptor → Memo → World → List Link × Memo × World
  | [], memo, world => ([], memo, world)
  | descriptor :: descriptors, memo, world =>
    let (link, memo, world) := resolver.resolveOne descriptor memo world
    let (links, memo, world) := resolver.resolveEach descriptors memo world
    (link :: links, memo, world)

/-- The memo with all answers of a kind. -/
def remember (kind : TokenKind) (answers : Answers) (memo : Memo) : Memo :=
  answers.foldl (fun memo (token, value) => memo.insert kind token value) memo

/-- Decodes all tokens in one batch if there are any. What the batch leaves out is decoded later on,
link by link. -/
def solveAll (solver : Solver) (decoder : Decoder) (sources : List Source) (memo : Memo)
    (world : World) : Memo × World :=
  let tokens := sources.filterMap Source.token
  let signatures := sources.filterMap Source.signature
  if tokens.isEmpty && signatures.isEmpty then (memo, world)
  else
    match solver.solve tokens signatures decoder.script world with
    | (none, world) => (memo, world)
    | (some solved, world) =>
      (remember .signature solved.signature (remember .throttle solved.throttle memo), world)

/-- The links of descriptors in their order, with a batch before them unless the script is guarded. -/
def resolve (resolver : Resolver) (descriptors : List Descriptor) (memo : Memo) (world : World) :
    List Link × Memo × World :=
  match resolver.decoder, resolver.solver with
  | some decoder, some solver =>
    if decoder.guarded then resolver.resolveEach descriptors memo world
    else
      let (memo, world) := solveAll solver decoder (descriptors.map .ofDescriptor) memo world
      resolver.resolveEach descriptors memo world
  | _, _ => resolver.resolveEach descriptors memo world

/-- The links of each client; all share what has been decoded. -/
def resolveClients (resolver : Resolver) :
    List (List Descriptor) → Memo → World → List (List Link) × World
  | [], _, world => ([], world)
  | descriptors :: clients, memo, world =>
    let (links, memo, world) := resolver.resolve descriptors memo world
    let (others, world) := resolver.resolveClients clients memo world
    (links :: others, world)

/-- The links of all clients in one list, which is ranked if there is more than one client. -/
def gather : List (List Link) → List Link
  | [links] => links
  | perClient => Ranking.merge perClient

/-- All answers are about the video and let it be played; the first that is not decides. -/
def checkAll (video : Text) : List PlayerResponse → Except ResponseError Unit
  | [] => .ok ()
  | response :: responses =>
    match response.check video with
    | .error error => .error error
    | .ok () => checkAll video responses

/-- The failure when there is nothing to resolve. -/
def nothingToResolve : Failure := .own .validation "No player responses to resolve".toList

/-- All that the answers of several clients offer for one video. -/
def resolveVideo (resolver : Resolver) (responses : List PlayerResponse) (video : Text) :
    Call LinkSet := fun world =>
  if responses.isEmpty then (.error nothingToResolve, world)
  else
    match checkAll video responses with
    | .error error => (.error error.failure, world)
    | .ok () =>
      let (perClient, world) :=
        resolver.resolveClients (responses.map (·.descriptors)) {} world
      (.ok {
        links := gather perClient
        manifests := (responses.map (·.manifests)).foldl Manifests.or {} }, world)

end Resolver
end StreamLinks
