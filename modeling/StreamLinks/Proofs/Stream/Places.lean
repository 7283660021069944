import StreamLinks.Stream.Resolve
/-!
Every link in its place.

Streams are resolved one after the other, so the link in a place is that of the stream in the same
place, made with the memo and in the world that the streams before it have left. It keeps the figures
of the stream, and what could not be decoded is told by its warnings, whatever the outcomes are.
-/
namespace StreamLinks.Resolver
variable {resolver : Resolver}

-- The memo and the world when the batch is done, or from the start if there is none.
def afterBatch (resolver : Resolver) (descriptors : List Descriptor) (memo : Memo) (world : World) :
    Memo × World :=
  match resolver.decoder, resolver.solver with
  | some decoder, some solver =>
    if decoder.guarded then (memo, world)
    else solveAll solver decoder (descriptors.map .ofDescriptor) memo world
  | _, _ => (memo, world)

-- The memo and the world when the turn comes to the stream in a place.
def turn (resolver : Resolver) (descriptors : List Descriptor) (place : Nat) (memo : Memo)
    (world : World) : Memo × World :=
  let (memo, world) := resolver.afterBatch descriptors memo world
  (resolver.resolveEach (descriptors.take place) memo world).2

theorem resolve_afterBatch (resolver : Resolver) (descriptors : List Descriptor) (memo : Memo)
    (world : World) :
    resolver.resolve descriptors memo world =
      resolver.resolveEach descriptors (resolver.afterBatch descriptors memo world).1
        (resolver.afterBatch descriptors memo world).2 := by
  unfold resolve afterBatch
  cases resolver.decoder with
  | none => rfl
  | some decoder =>
    cases resolver.solver with
    | none => rfl
    | some solver =>
      dsimp only
      split <;> rfl

section
variable {decoder : Decoder} {memo : Memo} {world : World}

-- What every decoding keeps is kept by all that is done for a stream, and for a list of streams.
theorem decodeToken_keeps (Kept : Memo × World → Prop)
    (step : ∀ kind token memo world, Kept (memo, world) → Kept (decoder.decode kind token memo world).2)
    (kind : TokenKind) (token : Option Text) (start : Kept (memo, world)) :
    Kept (decodeToken decoder kind token memo world).2 := by
  cases token with
  | none => exact start
  | some token => exact step kind token memo world start

theorem resolveOne_keeps (Kept : Memo × World → Prop) (decodes : resolver.decoder = some decoder)
    (step : ∀ kind token memo world, Kept (memo, world) → Kept (decoder.decode kind token memo world).2)
    (descriptor : Descriptor) (start : Kept (memo, world)) :
    Kept (resolver.resolveOne descriptor memo world).2 := by
  cases found : (Source.ofDescriptor descriptor).url with
  | none =>
    simp only [resolveOne, found]
    exact start
  | some url =>
    simp only [resolveOne, found, decodes]
    exact decodeToken_keeps Kept step .signature _ (decodeToken_keeps Kept step .throttle _ start)

theorem resolveEach_keeps (Kept : Memo × World → Prop) (decodes : resolver.decoder = some decoder)
    (step : ∀ kind token memo world, Kept (memo, world) → Kept (decoder.decode kind token memo world).2)
    (descriptors : List Descriptor) (start : Kept (memo, world)) :
    Kept (resolver.resolveEach descriptors memo world).2 := by
  induction descriptors generalizing memo world with
  | nil => exact start
  | cons descriptor descriptors ih => exact ih (resolveOne_keeps Kept decodes step descriptor start)

end

theorem length_resolveEach (resolver : Resolver) (descriptors : List Descriptor) (memo : Memo)
    (world : World) : (resolver.resolveEach descriptors memo world).1.length = descriptors.length := by
  induction descriptors generalizing memo world with
  | nil => rfl
  | cons descriptor descriptors ih => exact congrArg (· + 1) (ih _ _)

theorem getElem?_resolveEach (resolver : Resolver) (descriptors : List Descriptor) (memo : Memo)
    (world : World) (place : Nat) :
    (resolver.resolveEach descriptors memo world).1[place]? =
      descriptors[place]?.map fun descriptor =>
        let (memo, world) := (resolver.resolveEach (descriptors.take place) memo world).2
        (resolver.resolveOne descriptor memo world).1 := by
  induction descriptors generalizing memo world place with
  | nil => rfl
  | cons descriptor descriptors ih =>
    cases place with
    | zero => rfl
    | succ place => exact ih _ _ place

theorem getElem?_resolve (resolver : Resolver) (descriptors : List Descriptor) (memo : Memo)
    (world : World) (place : Nat) :
    (resolver.resolve descriptors memo world).1[place]? =
      descriptors[place]?.map fun descriptor =>
        let (memo, world) := resolver.turn descriptors place memo world
        (resolver.resolveOne descriptor memo world).1 := by
  rw [resolve_afterBatch, getElem?_resolveEach]
  rfl

-- The outcomes for the `n` token and for the signature, each if there is one.
def outcomes (decoder : Decoder) (source : Source) (memo : Memo) (world : World) :
    Option (Except Failure Text) × Option (Except Failure Text) :=
  let (token, memo, world) := decodeToken decoder .throttle source.token memo world
  let (signature, _, _) := decodeToken decoder .signature source.signature memo world
  (token, signature)

theorem outcomes_fst (decoder : Decoder) (source : Source) (memo : Memo) (world : World) :
    (outcomes decoder source memo world).1 =
      source.token.map fun token => (decoder.decode .throttle token memo world).1 := by
  unfold outcomes decodeToken
  cases source.token <;> rfl

-- Without an `n` token the signature is the first to be decoded.
theorem outcomes_snd (decoder : Decoder) {source : Source} (missing : source.token = none)
    (memo : Memo) (world : World) :
    (outcomes decoder source memo world).2 =
      source.signature.map fun signature => (decoder.decode .signature signature memo world).1 := by
  unfold outcomes decodeToken
  rw [missing]
  cases source.signature <;> rfl

-- The signature is decoded in a state that the decoding of the token has left.
theorem outcomes_snd_keeps {decoder : Decoder} {memo : Memo} {world : World} (Kept : Memo × World → Prop)
    (step : ∀ kind token memo world, Kept (memo, world) → Kept (decoder.decode kind token memo world).2)
    (source : Source) (start : Kept (memo, world)) :
    ∃ memoNext worldNext, Kept (memoNext, worldNext) ∧
      (outcomes decoder source memo world).2 = source.signature.map fun signature =>
        (decoder.decode .signature signature memoNext worldNext).1 := by
  refine ⟨_, _, decodeToken_keeps Kept step .throttle source.token start, ?_⟩
  unfold outcomes decodeToken
  cases source.signature <;> rfl

-- One warning with the reason if decoding failed, and nothing else.
def Warned (kind : TokenKind) (playerUrl : Text) (outcome : Option (Except Failure Text))
    (told : List Text) : Prop :=
  (∀ failure, outcome = some (.error failure) →
      told = [(LinkWarning.undecoded kind failure.message playerUrl).message]) ∧
    ((∀ failure, outcome ≠ some (.error failure)) → told = [])

theorem warned_warnings (kind : TokenKind) (playerUrl : Text)
    (outcome : Option (Except Failure Text)) :
    Warned kind playerUrl outcome (warnings kind playerUrl outcome) := by
  refine ⟨?_, ?_⟩
  · rintro failure rfl
    rfl
  · intro unfailed
    match outcome with
    | none => rfl
    | some (.ok decoded) => rfl
    | some (.error failure) => exact absurd rfl (unfailed failure)

-- How every warning about a token begins, and where it tells the kind.
theorem message_undecoded (kind : TokenKind) (reason playerUrl : Text) :
    ∃ rest, (LinkWarning.undecoded kind reason playerUrl).message =
      "Unable to decrypt ".toList ++ (kind.param.toList ++ rest) := by
  refine ⟨": ".toList ++ (reason ++
    (". This URL may yield HTTP 403 Forbidden error. (player: ".toList ++ (playerUrl ++ [')']))), ?_⟩
  unfold LinkWarning.message
  simp only [List.append_assoc]

theorem exists_of_mem_warnings {kind : TokenKind} {playerUrl told : Text}
    {outcome : Option (Except Failure Text)} (present : told ∈ warnings kind playerUrl outcome) :
    ∃ reason, told = (LinkWarning.undecoded kind reason playerUrl).message := by
  match outcome with
  | none => cases present
  | some (.ok decoded) => cases present
  | some (.error failure) => exact ⟨failure.message, List.mem_singleton.mp present⟩

section
variable {descriptor : Descriptor} {memo : Memo} {world : World}

-- A stream with an address, resolved with a script.
theorem resolveOne_of_decoder {decoder : Decoder} {url : Text}
    (decodes : resolver.decoder = some decoder)
    (found : (Source.ofDescriptor descriptor).url = some url) :
    let source := Source.ofDescriptor descriptor
    let decoded := outcomes decoder source memo world
    (resolver.resolveOne descriptor memo world).1 =
      finish (.ofDescriptor descriptor)
        (withSignature source decoded.2 (withToken source decoded.1 url))
        (warnings .throttle resolver.playerUrl decoded.1 ++
          warnings .signature resolver.playerUrl decoded.2) := by
  intro source decoded
  simp only [resolveOne, decodes, found]
  rfl

-- A link comes with an address, or else with the reason why it has none.
theorem resolveOne_cases (resolver : Resolver) (descriptor : Descriptor) (memo : Memo) (world : World) :
    (∃ url told, (resolver.resolveOne descriptor memo world).1 =
        finish (.ofDescriptor descriptor) url told) ∨
      ∃ reason, (resolver.resolveOne descriptor memo world).1 =
        { Link.ofDescriptor descriptor with warnings := [reason] } := by
  cases found : (Source.ofDescriptor descriptor).url with
  | none =>
    simp only [resolveOne, found]
    exact .inr ⟨_, rfl⟩
  | some url =>
    cases decodes : resolver.decoder with
    | none =>
      simp only [resolveOne, found, decodes]
      exact .inl ⟨_, _, rfl⟩
    | some decoder => exact .inl ⟨_, _, resolveOne_of_decoder decodes found⟩

-- What holds of a link whichever way it came about.
theorem resolveOne_sound (resolver : Resolver) (descriptor : Descriptor) (memo : Memo) (world : World) :
    let link := (resolver.resolveOne descriptor memo world).1
    link = { Link.ofDescriptor descriptor with
        url := link.url, isEnlarged := link.isEnlarged, warnings := link.warnings } ∧
      (link.url ≠ none ∨ link.warnings ≠ []) ∧
      (link.isEnlarged = true ↔ ∃ url, link.url = some url ∧ Address.isEnlarged url = true) := by
  dsimp only
  rcases resolveOne_cases resolver descriptor memo world with ⟨url, told, made⟩ | ⟨reason, made⟩
  · rw [made]
    exact ⟨rfl, .inl (Option.some_ne_none url), by simp [finish]⟩
  · rw [made]
    exact ⟨rfl, .inr (List.cons_ne_nil reason []), by simp [Link.ofDescriptor]⟩

end

-- For streams of every shape, with and without a script, and over every engine and solver.
theorem resolve_in_place (resolver : Resolver) (descriptors : List Descriptor) (memo : Memo)
    (world : World) :
    (resolver.resolve descriptors memo world).1.length = descriptors.length ∧
      ∀ (place : Nat) (descriptor : Descriptor) (link : Link),
        descriptors[place]? = some descriptor →
        (resolver.resolve descriptors memo world).1[place]? = some link →
          link = { Link.ofDescriptor descriptor with
            url := link.url, isEnlarged := link.isEnlarged, warnings := link.warnings } ∧
          (link.url ≠ none ∨ link.warnings ≠ []) ∧
          (link.isEnlarged = true ↔ ∃ url, link.url = some url ∧ Address.isEnlarged url = true) ∧
          ∀ decoder, resolver.decoder = some decoder → (Source.ofDescriptor descriptor).url ≠ none →
            let (memo, world) := resolver.turn descriptors place memo world
            let (token, signature) := outcomes decoder (.ofDescriptor descriptor) memo world
            ∃ first second, link.warnings = first ++ second ∧
              Warned .throttle resolver.playerUrl token first ∧
              Warned .signature resolver.playerUrl signature second := by
  refine ⟨?_, ?_⟩
  · rw [resolve_afterBatch, length_resolveEach]
  · intro place descriptor link given made
    rw [getElem?_resolve, given, Option.map_some, Option.some.injEq] at made
    subst made
    obtain ⟨figures, told, enlarged⟩ := resolveOne_sound resolver descriptor
      (resolver.turn descriptors place memo world).1 (resolver.turn descriptors place memo world).2
    refine ⟨figures, told, enlarged, ?_⟩
    intro decoder decodes addressed
    obtain ⟨url, found⟩ := Option.ne_none_iff_exists'.mp addressed
    dsimp only
    rw [resolveOne_of_decoder decodes found]
    exact ⟨_, _, rfl, warned_warnings _ _ _, warned_warnings _ _ _⟩

-- A stream without an address, and one behind it of which neither token can be decoded.
set_option maxRecDepth 1500 in
theorem resolve_in_place_failing :
    let decoder := Decoder.ofScript "var a=1;".toList (.unavailable "none".toList)
    let resolver : Resolver := ⟨some decoder, none, "p".toList⟩
    let unnamed : Descriptor := { itag := 22 }
    let stream : Descriptor := {
      itag := 251
      cipher := some "s=S&url=https%3A%2F%2Fh%2Fv%3Fa%3D1%26n%3Dt%26x%3D1".toList }
    let told (kind : TokenKind) : Text := (LinkWarning.undecoded kind
      (Script.ExtractionError.missingName kind).failure.message "p".toList).message
    let link : Link := {
      itag := 251
      url := some "https://h/v?a=1&n=t&x=1".toList
      warnings := [told .throttle, told .signature] }
    ([unnamed, stream][1]? = some stream ∧
        (resolver.resolve [unnamed, stream] {} {}).1[1]? = some link ∧
        resolver.decoder = some decoder ∧ (Source.ofDescriptor stream).url ≠ none) ∧
      (resolver.resolve [unnamed, stream] {} {}).1.length = 2 ∧
      (link.url ≠ none ∨ link.warnings ≠ []) ∧
      ∃ first second, link.warnings = first ++ second ∧
        Warned .throttle "p".toList
          (outcomes decoder (.ofDescriptor stream) {} {}).1 first ∧
        Warned .signature "p".toList
          (outcomes decoder (.ofDescriptor stream) {} {}).2 second := by
  intro decoder resolver unnamed stream told link
  have made : (resolver.resolve [unnamed, stream] {} {}).1[1]? = some link := by decide
  have addressed : (Source.ofDescriptor stream).url ≠ none := by decide
  obtain ⟨length, each⟩ := resolve_in_place resolver [unnamed, stream] {} {}
  obtain ⟨-, answered, -, warned⟩ := each 1 stream link rfl made
  exact ⟨⟨rfl, made, rfl, addressed⟩, length, answered, warned decoder rfl addressed⟩

end StreamLinks.Resolver
