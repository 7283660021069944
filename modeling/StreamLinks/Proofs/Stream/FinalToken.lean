import StreamLinks.Proofs.Decoder.Steady
import StreamLinks.Proofs.Stream.Address
import StreamLinks.Proofs.Stream.Places
/-!
The `n` token of a finished address.

An address that was finished without a warning holds the decoded token if there was one to decode. One
that had none can still end up with a token, which nobody has decoded: the appended signature closes an
`n` parameter that stood last, or brings one in the name of its own parameter.
-/
namespace StreamLinks.Resolver
variable {resolver : Resolver} {decoder : Decoder} {descriptor : Descriptor} {memo : Memo}
  {world : World} {token final : Text}

-- Without a warning nothing has failed.
theorem eq_ok_of_warnings {kind : TokenKind} {playerUrl : Text} {outcome : Except Failure Text}
    (clean : warnings kind playerUrl (some outcome) = []) : ∃ decoded, outcome = .ok decoded := by
  cases outcome with
  | ok decoded => exact ⟨decoded, rfl⟩
  | error failure => cases clean

theorem token?_withToken {source : Source} {url old decoded : Text} (held : source.token = some old)
    (before : Address.token? url = some old) (plain : '&' ∉ decoded) :
    Address.token? (withToken source (some (.ok decoded)) url) = some decoded := by
  simp only [withToken, held]
  split
  · rename_i same
    rw [before, same]
  · exact Address.token?_replaceToken before plain

theorem token?_withSignature {source : Source} {url : Text} (found : Address.token? url = some token)
    (outcome : Option (Except Failure Text)) :
    Address.token? (withSignature source outcome url) = some token := by
  match outcome with
  | none => exact found
  | some (.error failure) => exact found
  | some (.ok decoded) =>
    simp only [withSignature, Address.append_eq]
    exact Address.token?_append found _

-- A decoded token is the one that the finished address holds.
theorem token?_finished {source : Source} {base old decoded : Text} (found : source.url = some base)
    (held : source.token = some old) (plain : '&' ∉ decoded)
    (answered : (decoder.decode .throttle old memo world).1 = .ok decoded) :
    Address.token? (withSignature source (outcomes decoder source memo world).2
      (withToken source (outcomes decoder source memo world).1 base)) = some decoded := by
  have before : Address.token? base = some old := by simpa [Source.token, found] using held
  rw [outcomes_fst, held, Option.map_some, answered]
  exact token?_withSignature (token?_withToken held before plain) _

-- Without a token the address is finished by its signature alone.
theorem finished_of_no_token {source : Source} (missing : source.token = none) (base : Text) :
    withSignature source (outcomes decoder source memo world).2
        (withToken source (outcomes decoder source memo world).1 base) =
      withSignature source (source.signature.map fun signature =>
        (decoder.decode .signature signature memo world).1) base := by
  rw [outcomes_snd decoder missing]
  simp only [withToken, missing]

-- How an address that had no token comes to one by the parameter that is appended.
def Appended (param decoded base token : Text) : Prop :=
  (∃ head, base = head ++ Address.tokenMark ++ token) ∨
    Address.token? (Address.append param decoded []) = some token ∧ '&' ∈ param

theorem appended_of_token? {param decoded base : Text} (missing : Address.token? base = none)
    (held : Address.token? (Address.append param decoded base) = some token) :
    Appended param decoded base token :=
  (Address.token?_append_of_none missing held).imp_right fun inside =>
    ⟨inside, Address.ampersand_mem_param inside⟩

theorem resolveOne_token (decodes : resolver.decoder = some decoder)
    (clean : (resolver.resolveOne descriptor memo world).1.warnings = [])
    (addressed : (resolver.resolveOne descriptor memo world).1.url = some final)
    (held : Address.token? final = some token)
    (plain : ∀ old decoded, (Source.ofDescriptor descriptor).token = some old →
      (decoder.decode .throttle old memo world).1 = .ok decoded → '&' ∉ decoded) :
    let source := Source.ofDescriptor descriptor
    (∃ old, source.token = some old ∧ (decoder.decode .throttle old memo world).1 = .ok token) ∨
      source.token = none ∧ ∃ base signature decoded, source.url = some base ∧
        source.signature = some signature ∧
        (decoder.decode .signature signature memo world).1 = .ok decoded ∧
        final = Address.append source.signatureParam decoded base ∧
        Appended source.signatureParam decoded base token := by
  intro source
  cases found : source.url with
  | none =>
    simp only [resolveOne, source, found] at clean
    cases clean
  | some base =>
    rw [resolveOne_of_decoder decodes found] at clean addressed
    obtain ⟨cleanToken, cleanSignature⟩ := List.append_eq_nil_iff.mp clean
    have addressed := Option.some.inj addressed
    cases present : source.token with
    | some old =>
      rw [outcomes_fst, present] at cleanToken
      obtain ⟨decoded, answered⟩ : ∃ decoded,
        (decoder.decode .throttle old memo world).1 = .ok decoded := eq_ok_of_warnings cleanToken
      have decodedHeld := token?_finished found present (plain old decoded present answered) answered
      rw [addressed, held] at decodedHeld
      cases decodedHeld
      exact .inl ⟨old, rfl, answered⟩
    | none =>
      have missing : Address.token? base = none := by simpa [Source.token, found] using present
      rw [finished_of_no_token present] at addressed
      rw [outcomes_snd decoder present] at cleanSignature
      cases signed : source.signature with
      | none =>
        rw [signed] at addressed
        cases addressed
        cases missing.symm.trans held
      | some signature =>
        rw [signed] at addressed cleanSignature
        obtain ⟨decoded, answered⟩ : ∃ decoded,
          (decoder.decode .signature signature memo world).1 = .ok decoded :=
            eq_ok_of_warnings cleanSignature
        simp only [Option.map_some, answered, withSignature] at addressed
        subst addressed
        exact .inr ⟨rfl, base, signature, decoded, rfl, rfl, answered, rfl,
          appended_of_token? missing held⟩

-- A stream with an address of its own has no signature, so its token is always the decoded one.
theorem final_token {descriptors : List Descriptor} {place : Nat} {link : Link}
    (decodes : resolver.decoder = some decoder) (given : descriptors[place]? = some descriptor)
    (made : (resolver.resolve descriptors memo world).1[place]? = some link)
    (clean : link.warnings = []) (addressed : link.url = some final)
    (held : Address.token? final = some token)
    (plain : ∀ old decoded, (Source.ofDescriptor descriptor).token = some old →
      let (memo, world) := resolver.turn descriptors place memo world
      (decoder.decode .throttle old memo world).1 = .ok decoded → '&' ∉ decoded) :
    let source := Source.ofDescriptor descriptor
    let (memo, world) := resolver.turn descriptors place memo world
    (∃ old, source.token = some old ∧ (decoder.decode .throttle old memo world).1 = .ok token) ∨
      source.token = none ∧ ∃ base signature decoded, source.url = some base ∧
        source.signature = some signature ∧
        (decoder.decode .signature signature memo world).1 = .ok decoded ∧
        final = Address.append source.signatureParam decoded base ∧
        Appended source.signatureParam decoded base token := by
  rw [getElem?_resolve, given, Option.map_some, Option.some.injEq] at made
  subst made
  exact resolveOne_token decodes clean addressed held plain

-- A script with a transform of each kind, over an engine with one answer for each.
def twoTransforms : Decoder :=
  let script := "a.D&&(b=a.get(\"n\"))&&(b=Nt(b),a.set(\"n\",b));".toList ++
    "c&&(c=Rt(decodeURIComponent(c)));".toList ++
    "Nt=function(a)\x7breturn a+1\x7d;Rt=function(a)\x7breturn a+2\x7d;".toList
  .ofScript script <| .ready <| .scripted "worker".toList fun _ code =>
    .ok (if Text.contains "Nt(\"".toList code then "cba".toList else "SIG".toList)

theorem final_token_direct :
    let resolver : Resolver := ⟨some twoTransforms, none, []⟩
    let stream : Descriptor := { itag := 18, url := some "https://h/v?itag=18&n=abc&x=1".toList }
    let final := "https://h/v?itag=18&n=cba&x=1".toList
    let link : Link := { Link.ofDescriptor stream with url := some final }
    (resolver.decoder = some twoTransforms ∧ [stream][0]? = some stream ∧
        (resolver.resolve [stream] {} {}).1[0]? = some link ∧ link.warnings = [] ∧
        link.url = some final ∧ Address.token? final = some "cba".toList) ∧
      ∃ old, (Source.ofDescriptor stream).token = some old ∧
        (twoTransforms.decode .throttle old {} {}).1 = .ok "cba".toList := by
  intro resolver stream final link
  have made : (resolver.resolve [stream] {} {}).1[0]? = some link := by decide
  have held : Address.token? final = some "cba".toList := by decide
  have old : (Source.ofDescriptor stream).token = some "abc".toList := by decide
  have answered : (twoTransforms.decode .throttle "abc".toList {} {}).1 = .ok "cba".toList :=
    eq_ok_of_toOption (by decide)
  have plain : ∀ old decoded, (Source.ofDescriptor stream).token = some old →
      (twoTransforms.decode .throttle old {} {}).1 = .ok decoded → '&' ∉ decoded := by
    intro token decoded present decodes
    cases old.symm.trans present
    cases answered.symm.trans decodes
    decide
  refine ⟨⟨rfl, rfl, made, rfl, rfl, held⟩, ?_⟩
  rcases final_token rfl rfl made rfl rfl held plain with decoded | ⟨missing, -⟩
  · exact decoded
  · cases old.symm.trans missing

-- The first `n` parameter stands last until the signature closes it; the second one comes with the
-- name of the signature's parameter.
theorem final_token_undecoded :
    let trailing : Descriptor := {
      itag := 251
      signatureCipher := some "s=s&sp=sig&url=https%3A%2F%2Fh%2Fv%3Fitag%3D251%26n%3Dabc".toList }
    let named : Descriptor := {
      itag := 251
      signatureCipher := some "s=s&sp=n%3Dabc%26sig&url=https%3A%2F%2Fh%2Fv%3Fitag%3D251".toList }
    let final := "https://h/v?itag=251&n=abc&sig=SIG".toList
    let resolver : Resolver := ⟨some twoTransforms, none, []⟩
    (resolver.resolve [trailing, named] {} {}).1.map (fun link => (link.url, link.warnings)) =
        [(some final, []), (some final, [])] ∧
      Address.token? final = some "abc".toList ∧
      [trailing, named].map (fun descriptor => (Source.ofDescriptor descriptor).token) =
        [none, none] := by
  decide

end StreamLinks.Resolver
