import StreamLinks.Proofs.Decoder.Steady
import StreamLinks.Stream.Resolve
/-!
One memo for many streams.

Over an engine that answers by the source alone, the link of a stream is the same whatever has been
decoded before. So a list of streams gives what its streams give one by one, and clients that share a
decoder get what each of them gets from a decoder of its own.
-/
namespace StreamLinks.Resolver
variable {resolver : Resolver} {memo : Memo}

def Steady (resolver : Resolver) : Prop :=
  ∀ decoder ∈ resolver.decoder, decoder.runtime.Steady

def Coherent (resolver : Resolver) (memo : Memo) : Prop :=
  ∀ decoder ∈ resolver.decoder, decoder.Coherent memo

theorem coherent_empty (resolver : Resolver) : resolver.Coherent {} :=
  fun decoder _ => decoder.coherent_empty

section
variable {decoder : Decoder} {solver : Option Solver} {playerUrl : Text}

theorem steady_of_decoder (steady : decoder.runtime.Steady) :
    Steady ⟨some decoder, solver, playerUrl⟩ := by
  intro other decodes
  cases decodes
  exact steady

theorem coherent_of_decoder (coherent : decoder.Coherent memo) :
    Coherent ⟨some decoder, solver, playerUrl⟩ memo := by
  intro other decodes
  cases decodes
  exact coherent
end

theorem decodeToken_answer {decoder : Decoder} (coherent : decoder.Coherent memo)
    (steady : decoder.runtime.Steady) (kind : TokenKind) (token : Option Text) (world : World) :
    (decodeToken decoder kind token memo world).1 = token.map (decoder.answer kind) ∧
      decoder.Coherent (decodeToken decoder kind token memo world).2.1 := by
  cases token with
  | none => exact ⟨rfl, coherent⟩
  | some token =>
    exact ⟨congrArg some (coherent.decode_fst steady kind token world),
      coherent.decode_memo steady kind token world⟩

-- The link of a stream that is resolved before all others.
def linkOf (resolver : Resolver) (descriptor : Descriptor) : Link :=
  (resolver.resolveOne descriptor {} {}).1

-- The link as a function of the answers alone: neither the memo nor the world stands in it.
theorem resolveOne_answers {decoder : Decoder} (decodes : resolver.decoder = some decoder)
    (coherent : decoder.Coherent memo) (steady : decoder.runtime.Steady) {descriptor : Descriptor}
    {url : Text} (found : (Source.ofDescriptor descriptor).url = some url) (world : World) :
    let source := Source.ofDescriptor descriptor
    let token := source.token.map (decoder.answer .throttle)
    let signature := source.signature.map (decoder.answer .signature)
    (resolver.resolveOne descriptor memo world).1 =
        finish (.ofDescriptor descriptor) (withSignature source signature (withToken source token url))
          (warnings .throttle resolver.playerUrl token ++
            warnings .signature resolver.playerUrl signature) ∧
      decoder.Coherent (resolver.resolveOne descriptor memo world).2.1 := by
  dsimp only
  simp only [resolveOne, decodes, found]
  obtain ⟨decoded, kept⟩ := decodeToken_answer coherent steady .throttle
    (Source.ofDescriptor descriptor).token world
  rcases ran : decodeToken decoder .throttle (Source.ofDescriptor descriptor).token memo world with
    ⟨outcome, memoAfter, worldAfter⟩
  rw [ran] at decoded kept
  obtain ⟨decodedNext, keptNext⟩ := decodeToken_answer kept steady .signature
    (Source.ofDescriptor descriptor).signature worldAfter
  exact ⟨by rw [decodedNext, decoded], keptNext⟩

-- One step of the run: the link is that of the stream alone, and the memo stays coherent.
theorem resolveOne_coherent (steady : resolver.Steady) (coherent : resolver.Coherent memo)
    (descriptor : Descriptor) (world : World) :
    (resolver.resolveOne descriptor memo world).1 = resolver.linkOf descriptor ∧
      resolver.Coherent (resolver.resolveOne descriptor memo world).2.1 := by
  cases found : (Source.ofDescriptor descriptor).url with
  | none =>
    simp only [linkOf, resolveOne, found, true_and]
    exact coherent
  | some url =>
    cases decodes : resolver.decoder with
    | none =>
      simp only [linkOf, resolveOne, found, decodes, true_and]
      exact coherent
    | some decoder =>
      have steadyHere := steady decoder decodes
      obtain ⟨link, kept⟩ := resolveOne_answers decodes (coherent decoder decodes) steadyHere found world
      obtain ⟨alone, -⟩ := resolveOne_answers decodes decoder.coherent_empty steadyHere found {}
      refine ⟨link.trans alone.symm, ?_⟩
      intro other decodesOther
      cases decodes.symm.trans decodesOther
      exact kept

theorem resolveEach_coherent (steady : resolver.Steady) (coherent : resolver.Coherent memo)
    (descriptors : List Descriptor) (world : World) :
    (resolver.resolveEach descriptors memo world).1 = descriptors.map resolver.linkOf ∧
      resolver.Coherent (resolver.resolveEach descriptors memo world).2.1 := by
  induction descriptors generalizing memo world with
  | nil => exact ⟨rfl, coherent⟩
  | cons descriptor descriptors ih =>
    obtain ⟨link, kept⟩ := resolveOne_coherent steady coherent descriptor world
    obtain ⟨links, keptAfter⟩ := ih kept (resolver.resolveOne descriptor memo world).2.2
    simp only [resolveEach]
    exact ⟨by rw [link, links, List.map_cons], keptAfter⟩

theorem resolve_of_no_solver (unsolved : resolver.solver = none) (descriptors : List Descriptor)
    (memo : Memo) (world : World) :
    resolver.resolve descriptors memo world = resolver.resolveEach descriptors memo world := by
  cases decodes : resolver.decoder <;> simp only [resolve, unsolved, decodes]

theorem resolveClients_coherent (steady : resolver.Steady) (unsolved : resolver.solver = none)
    (coherent : resolver.Coherent memo) (clients : List (List Descriptor)) (world : World) :
    (resolver.resolveClients clients memo world).1 = clients.map (·.map resolver.linkOf) := by
  induction clients generalizing memo world with
  | nil => rfl
  | cons descriptors clients ih =>
    obtain ⟨links, kept⟩ := resolveEach_coherent steady coherent descriptors world
    have others := ih kept (resolver.resolveEach descriptors memo world).2.2
    simp only [resolveClients, resolve_of_no_solver unsolved]
    rw [links, others, List.map_cons]

-- Neither the order of the streams, nor repeated tokens, nor failures of other streams show in a link.
theorem shared_eq_alone (steady : resolver.Steady) (unsolved : resolver.solver = none)
    (descriptors : List Descriptor) (responses : List PlayerResponse) (video : Text) (world : World)
    (alone : Descriptor → World) (apart : PlayerResponse → World) :
    (resolver.resolve descriptors {} world).1 =
        descriptors.flatMap (fun descriptor => (resolver.resolve [descriptor] {} (alone descriptor)).1) ∧
      (responses ≠ [] → checkAll video responses = .ok () →
        let perClient := responses.map fun response =>
          (resolver.resolve response.descriptors {} (apart response)).1
        (resolver.resolveVideo responses video world).1.map (·.links) =
          .ok (if 1 < responses.length then Ranking.merge perClient else perClient.flatten)) := by
  have each (descriptors : List Descriptor) (world : World) :
      (resolver.resolve descriptors {} world).1 = descriptors.map resolver.linkOf := by
    rw [resolve_of_no_solver unsolved]
    exact (resolveEach_coherent steady resolver.coherent_empty descriptors world).1
  refine ⟨?_, ?_⟩
  · simp only [each, List.map_cons, List.map_nil]
    exact List.map_eq_flatMap
  · intro nonempty valid
    have clients := resolveClients_coherent steady unsolved resolver.coherent_empty
      (responses.map (·.descriptors)) world
    rw [List.map_map] at clients
    simp only [each, resolveVideo, List.isEmpty_iff, nonempty, valid, if_false, Except.map, clients]
    match responses, nonempty with
    | [response], _ => simp [gather]
    | first :: second :: others, _ => simp [gather, Function.comp_def]

-- A token that is found twice in the streams of each client.
theorem shared_eq_alone_repeated :
    let engine := Engine.scripted "echo".toList fun _ code => .ok code
    let resolver : Resolver := ⟨some (.ofScript "var a=1;".toList (.ready engine)), none, []⟩
    let stream : Descriptor := { itag := 18, url := some "https://h/v?a=1&n=t&b=2".toList }
    let unnamed : Descriptor := { itag := 22 }
    let response : PlayerResponse :=
      { video := some "v".toList, offer := some { combined := [stream, unnamed, stream] } }
    (resolver.Steady ∧ resolver.solver = none ∧ [response, response] ≠ [] ∧
        checkAll "v".toList [response, response] = .ok ()) ∧
      (resolver.resolve [stream, unnamed, stream] {} {}).1 =
        [stream, unnamed, stream].flatMap (fun descriptor => (resolver.resolve [descriptor] {} {}).1) ∧
      (resolver.resolveVideo [response, response] "v".toList {}).1.map (·.links) =
        .ok (Ranking.merge [(resolver.resolve response.descriptors {} {}).1,
          (resolver.resolve response.descriptors {} {}).1]) := by
  intro engine resolver stream unnamed response
  have steady : resolver.Steady := steady_of_decoder (Engine.scripted_steady "echo".toList .ok)
  have valid : checkAll "v".toList [response, response] = .ok () := rfl
  obtain ⟨streams, clients⟩ := shared_eq_alone steady rfl [stream, unnamed, stream]
    [response, response] "v".toList {} (fun _ => {}) fun _ => {}
  exact ⟨⟨steady, rfl, List.cons_ne_nil _ _, valid⟩, streams, clients (List.cons_ne_nil _ _) valid⟩

end StreamLinks.Resolver
