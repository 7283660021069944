import StreamLinks.Proofs.Decoder.Emptied
import StreamLinks.Proofs.Stream.FinalToken
/-!
Links of tokens that are decoded to nothing.

Such a token counts as decoded: it stands empty in the address, and no warning tells of it.
-/
namespace StreamLinks

theorem Address.append_nil (param address : Text) :
    append param [] address = address ++ '&' :: param ++ ['='] := by
  simp [append, Text.formEncode]

namespace Resolver
variable {script : Text} {runtime : Runtime}

theorem kind_of_message {kind other : TokenKind} {reason told playerUrl : Text}
    (same : (LinkWarning.undecoded kind reason playerUrl).message =
      (LinkWarning.undecoded other told playerUrl).message) : kind = other := by
  obtain ⟨rest, shown⟩ := message_undecoded kind reason playerUrl
  obtain ⟨more, shownOther⟩ := message_undecoded other told playerUrl
  rw [shown, shownOther] at same
  have first := congrArg List.head? (List.append_cancel_left same)
  cases kind <;> cases other <;> first | rfl | cases first

theorem not_mem_warnings {kind other : TokenKind} (different : kind ≠ other) (reason playerUrl : Text)
    (outcome : Option (Except Failure Text)) :
    (LinkWarning.undecoded kind reason playerUrl).message ∉ warnings other playerUrl outcome := by
  intro told
  obtain ⟨reason, same⟩ := exists_of_mem_warnings told
  exact different (kind_of_message same)

-- Whatever has been decoded so far, the memo holds the answers of the batch and no other empty values
-- than those of drained tokens.
theorem turn_accounts (script : Text) (runtime : Runtime) (solver : Option Solver) (playerUrl : Text)
    (descriptors : List Descriptor) (world : World) (place : Nat) :
    let resolver : Resolver := ⟨some (.ofScript script runtime), solver, playerUrl⟩
    Decoder.Accounts script (resolver.afterBatch descriptors {} world).1
      (resolver.turn descriptors place {} world).1 := by
  intro resolver
  let given := (resolver.afterBatch descriptors {} world).1
  exact resolveEach_keeps (fun state => Decoder.Accounts script given state.1) rfl
    (fun kind token _ world accounts => accounts.decode kind token world)
    (descriptors.take place) (Decoder.Accounts.refl script given)

theorem outcomes_emptied_iff {given memo : Memo} (accounts : Decoder.Accounts script given memo)
    (runtime : Runtime) (source : Source) (world : World) :
    let decoded := outcomes (.ofScript script runtime) source memo world
    (decoded.1 = some (.ok []) ↔
        ∃ token, source.token = some token ∧ Decoder.Emptied script given .throttle token) ∧
      (decoded.2 = some (.ok []) ↔
        ∃ signature, source.signature = some signature ∧
          Decoder.Emptied script given .signature signature) := by
  refine ⟨?_, ?_⟩
  · rw [outcomes_fst, Option.map_eq_some_iff]
    simp only [accounts.decode_eq_nil_iff]
  · obtain ⟨memoNext, worldNext, accountsNext, decoded⟩ :=
      outcomes_snd_keeps (fun state => Decoder.Accounts script given state.1)
        (fun kind token _ world accounts => accounts.decode kind token world) source accounts
    rw [decoded, Option.map_eq_some_iff]
    simp only [accountsNext.decode_eq_nil_iff]

-- An empty outcome stands in the address, and no warning of its kind is left.
theorem resolveOne_emptied {resolver : Resolver} {decoder : Decoder} {descriptor : Descriptor}
    {memo : Memo} {world : World} {base : Text} (decodes : resolver.decoder = some decoder)
    (found : (Source.ofDescriptor descriptor).url = some base) :
    let source := Source.ofDescriptor descriptor
    let decoded := outcomes decoder source memo world
    let link := (resolver.resolveOne descriptor memo world).1
    (decoded.1 = some (.ok []) → (∃ url, link.url = some url ∧ Address.token? url = some []) ∧
        ∀ reason,
          (LinkWarning.undecoded .throttle reason resolver.playerUrl).message ∉ link.warnings) ∧
      (decoded.2 = some (.ok []) →
        (∃ front, link.url = some (front ++ '&' :: source.signatureParam ++ ['='])) ∧
        ∀ reason,
          (LinkWarning.undecoded .signature reason resolver.playerUrl).message ∉ link.warnings) := by
  intro source decoded link
  have made : link = finish (.ofDescriptor descriptor)
      (withSignature source decoded.2 (withToken source decoded.1 base))
      (warnings .throttle resolver.playerUrl decoded.1 ++
        warnings .signature resolver.playerUrl decoded.2) := resolveOne_of_decoder decodes found
  rw [made]
  refine ⟨?_, ?_⟩
  · intro emptied
    have answered := emptied
    rw [outcomes_fst, Option.map_eq_some_iff] at answered
    obtain ⟨token, held, answered⟩ := answered
    refine ⟨⟨_, rfl, token?_finished found held (by simp) answered⟩, ?_⟩
    rw [emptied]
    exact fun reason => not_mem_warnings (by decide) reason _ _
  · intro emptied
    rw [emptied]
    refine ⟨⟨_, congrArg some (Address.append_nil source.signatureParam _)⟩, ?_⟩
    intro reason told
    rcases List.mem_append.mp told with first | second
    · exact not_mem_warnings (by decide) reason _ _ first
    · cases second

-- `given` holds what the batch answered and nothing else; a token is decoded in the state `now`,
-- when the streams before it have had their turn.
theorem decode_emptied_iff (script : Text) (runtime : Runtime) (solver : Option Solver) (playerUrl : Text)
    (descriptors : List Descriptor) (world : World) (place : Nat) :
    let decoder := Decoder.ofScript script runtime
    let resolver : Resolver := ⟨some decoder, solver, playerUrl⟩
    let given := (resolver.afterBatch descriptors {} world).1
    let now := resolver.turn descriptors place {} world
    (∀ kind token, (decoder.decode kind token now.1 now.2).1 = .ok [] ↔
        Decoder.Emptied script given kind token) ∧
      ∀ descriptor link base, descriptors[place]? = some descriptor →
        (resolver.resolve descriptors {} world).1[place]? = some link →
        let source := Source.ofDescriptor descriptor
        source.url = some base →
          (∀ token, source.token = some token → Decoder.Emptied script given .throttle token →
            (∃ url, link.url = some url ∧ Address.token? url = some []) ∧
              ∀ reason, (LinkWarning.undecoded .throttle reason playerUrl).message ∉ link.warnings) ∧
          ∀ signature, source.signature = some signature →
            Decoder.Emptied script given .signature signature →
              (∃ front, link.url = some (front ++ '&' :: source.signatureParam ++ ['='])) ∧
                ∀ reason,
                  (LinkWarning.undecoded .signature reason playerUrl).message ∉ link.warnings := by
  intro decoder resolver given now
  have accounts : Decoder.Accounts script given now.1 :=
    turn_accounts script runtime solver playerUrl descriptors world place
  refine ⟨fun kind token => accounts.decode_eq_nil_iff runtime kind token now.2, ?_⟩
  intro descriptor link base listed made source found
  rw [getElem?_resolve, listed, Option.map_some, Option.some.injEq] at made
  subst made
  obtain ⟨token_iff, signature_iff⟩ := outcomes_emptied_iff accounts runtime source now.2
  obtain ⟨token, signature⟩ := resolveOne_emptied (rfl : resolver.decoder = some decoder) found
  refine ⟨?_, ?_⟩
  · intro old held emptied
    exact token (token_iff.mpr ⟨old, held, emptied⟩)
  · intro old signed emptied
    exact signature (signature_iff.mpr ⟨old, signed, emptied⟩)

-- A signature of three characters, and a transform that drops three.
def drainingScript : Text :=
  "var O=\x7bp:function(a,b)\x7ba.splice(0,b)\x7d\x7d;".toList ++
    "F1=function(a)\x7ba=a.split(\"\");O.p(a,3);return a.join(\"\")\x7d;".toList ++
    "c&&(c=F1(decodeURIComponent(c)));".toList

def signedStream : Descriptor := {
  itag := 251
  signatureCipher := some "s=abc&sp=sig&url=https%3A%2F%2Fh%2Fv".toList }

theorem decode_emptied_iff_drained :
    let decoder := Decoder.ofScript drainingScript (.unavailable [])
    let resolver : Resolver := ⟨some decoder, none, []⟩
    let source := Source.ofDescriptor signedStream
    let link : Link := { Link.ofDescriptor signedStream with url := some "https://h/v&sig=".toList }
    (source.url = some "https://h/v".toList ∧ source.signature = some "abc".toList ∧
        (resolver.resolve [signedStream] {} {}).1[0]? = some link ∧
        Decoder.Emptied drainingScript {} .signature "abc".toList) ∧
      (decoder.decode .signature "abc".toList {} {}).1 = .ok [] ∧
      (∃ front, link.url = some (front ++ '&' :: source.signatureParam ++ ['='])) ∧
      ∀ reason, (LinkWarning.undecoded .signature reason []).message ∉ link.warnings := by
  intro decoder resolver source link
  obtain ⟨decoded, each⟩ := decode_emptied_iff drainingScript (.unavailable []) none [] [signedStream] {} 0
  have address : source.url = some "https://h/v".toList := by decide
  have signed : source.signature = some "abc".toList := by decide
  have made : (resolver.resolve [signedStream] {} {}).1[0]? = some link := by decide
  have outcome : (decoder.decode .signature "abc".toList {} {}).1 = .ok [] :=
    eq_ok_of_toOption (by decide)
  have emptied := (decoded .signature "abc".toList).mp outcome
  obtain ⟨written, unwarned⟩ := (each signedStream link _ rfl made address).2 "abc".toList signed emptied
  exact ⟨⟨address, signed, made, emptied⟩, outcome, written, unwarned⟩

-- The steps leave nothing of a signature, and a batch answers a token with nothing.
theorem decode_emptied_unwarned :
    let native := Decoder.ofScript drainingScript (.unavailable [])
    let reply := "\x7b\"type\":\"result\",\"responses\":[".toList ++
      "\x7b\"type\":\"result\",\"data\":\x7b\"t\":\"\"\x7d\x7d,".toList ++
      "\x7b\"type\":\"result\",\"data\":\x7b\x7d\x7d]\x7d".toList
    let runtime : Runtime := .ready (.scripted "worker".toList fun _ _ => .ok reply)
    let solver : Solver := ⟨⟨fun _ _ => .unreachable [], [], [], []⟩, runtime⟩
    let batched := Decoder.ofScript "var a=1;".toList runtime
    let world : World := { helpers := some ⟨"var lib;".toList, "var jsc;".toList⟩ }
    let stream : Descriptor := { itag := 18, url := some "https://h/v?a=1&n=t&b=2".toList }
    let resolved (resolver : Resolver) (stream : Descriptor) (world : World) :=
      (resolver.resolve [stream] {} world).1.map fun link => (link.url, link.warnings)
    (native.decode .signature "abc".toList {} {}).1.toOption = some [] ∧
      resolved ⟨some native, none, []⟩ signedStream {} = [(some "https://h/v&sig=".toList, [])] ∧
      resolved ⟨some batched, some solver, []⟩ stream world =
        [(some "https://h/v?a=1&n=&b=2".toList, [])] := by
  decide +kernel

end Resolver
end StreamLinks
