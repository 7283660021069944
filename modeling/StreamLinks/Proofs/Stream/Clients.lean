import StreamLinks.Stream.Resolve
/-!
The answers of several clients are refused as a whole or resolved as a whole.

The first answer that is of no use decides before anything is decoded. Once all of them are accepted
nothing fails any more: what goes wrong with a stream is said by its link.
-/
namespace StreamLinks

namespace Manifests

theorem foldl_or {field : Manifests → Option Text}
    (each : ∀ first second, field (first.or second) = (field first).or (field second))
    (first : Manifests) (others : List Manifests) :
    field (others.foldl Manifests.or first) = (field first).or (others.findSome? field) := by
  induction others generalizing first with
  | nil => simp
  | cons second others ih =>
    rw [List.foldl_cons, ih, each, List.findSome?_cons, Option.or_assoc]
    cases field second <;> rfl

-- Whatever the other addresses are, the first answer that has this one gives it.
theorem first_of_all (field : Manifests → Option Text)
    (each : ∀ first second, field (first.or second) = (field first).or (field second))
    (absent : field {} = none) (responses : List PlayerResponse) :
    field ((responses.map (·.manifests)).foldl Manifests.or {}) =
      responses.findSome? fun response => field response.manifests := by
  rw [foldl_or each, absent, Option.none_or, List.findSome?_map]
  rfl

end Manifests

namespace Resolver
variable {resolver : Resolver} {responses : List PlayerResponse} {video : Text} {world : World}

-- The first answer that is of no use, and why it is not.
def Refuses (video : Text) (responses : List PlayerResponse) (error : ResponseError) : Prop :=
  ∃ accepted refused later, responses = accepted ++ refused :: later ∧
    (∀ response ∈ accepted, response.check video = .ok ()) ∧ refused.check video = .error error

theorem refuses_nil (error : ResponseError) : ¬ Refuses video [] error := by
  rintro ⟨accepted, refused, later, same, -⟩
  simp at same

theorem refuses_cons (response : PlayerResponse) (error : ResponseError) :
    Refuses video (response :: responses) error ↔ response.check video = .error error ∨
      response.check video = .ok () ∧ Refuses video responses error := by
  constructor
  · rintro ⟨accepted, refused, later, same, right, wrong⟩
    cases accepted with
    | nil =>
      cases same
      exact .inl wrong
    | cons first accepted =>
      cases same
      obtain ⟨rightFirst, right⟩ := List.forall_mem_cons.mp right
      exact .inr ⟨rightFirst, accepted, refused, later, rfl, right, wrong⟩
  · rintro (wrong | ⟨rightFirst, accepted, refused, later, rfl, right, wrong⟩)
    · exact ⟨[], response, responses, rfl, List.forall_mem_nil _, wrong⟩
    · exact ⟨response :: accepted, refused, later, rfl, List.forall_mem_cons.mpr ⟨rightFirst, right⟩, wrong⟩

theorem checkAll_eq_error_iff {error : ResponseError} :
    checkAll video responses = .error error ↔ Refuses video responses error := by
  induction responses with
  | nil => simp [checkAll, refuses_nil]
  | cons response responses ih =>
    rw [refuses_cons, ← ih]
    cases checked : response.check video <;> simp [checkAll, checked]

theorem checkAll_eq_ok_iff :
    checkAll video responses = .ok () ↔ ∀ response ∈ responses, response.check video = .ok () := by
  induction responses with
  | nil => simp [checkAll]
  | cons response responses ih =>
    rw [List.forall_mem_cons, ← ih]
    cases checked : response.check video <;> simp [checkAll, checked]

-- What clients leave to the next one.
def afterClients (resolver : Resolver) (clients : List (List Descriptor)) (start : Memo × World) :
    Memo × World :=
  clients.foldl (fun (memo, world) descriptors => (resolver.resolve descriptors memo world).2) start

theorem length_resolveClients (resolver : Resolver) (clients : List (List Descriptor)) (memo : Memo)
    (world : World) : (resolver.resolveClients clients memo world).1.length = clients.length := by
  induction clients generalizing memo world with
  | nil => rfl
  | cons descriptors clients ih => exact congrArg (· + 1) (ih _ _)

theorem getElem?_resolveClients (resolver : Resolver) (earlier : List (List Descriptor))
    (descriptors : List Descriptor) (later : List (List Descriptor)) (memo : Memo) (world : World) :
    let (left, now) := resolver.afterClients earlier (memo, world)
    (resolver.resolveClients (earlier ++ descriptors :: later) memo world).1[earlier.length]? =
      some (resolver.resolve descriptors left now).1 := by
  induction earlier generalizing memo world with
  | nil => rfl
  | cons client earlier ih => exact ih _ _

theorem resolveVideo_of_refused (resolver : Resolver) {error : ResponseError}
    (refused : Refuses video responses error) (world : World) :
    resolver.resolveVideo responses video world = (.error error.failure, world) := by
  have given : responses ≠ [] := by
    rintro rfl
    exact refuses_nil error refused
  simp only [resolveVideo, List.isEmpty_iff, given, if_false, checkAll_eq_error_iff.2 refused]

theorem resolveVideo_of_accepted (resolver : Resolver) (given : responses ≠ [])
    (accepted : ∀ response ∈ responses, response.check video = .ok ()) (world : World) :
    (resolver.resolveVideo responses video world).1 = .ok {
      links := gather (resolver.resolveClients (responses.map (·.descriptors)) {} world).1
      manifests := (responses.map (·.manifests)).foldl Manifests.or {} } := by
  simp only [resolveVideo, List.isEmpty_iff, given, if_false, checkAll_eq_ok_iff.2 accepted]

-- An answer is refused, or all of them are accepted.
theorem refuses_or_accepts (video : Text) (responses : List PlayerResponse) :
    (∃ error, Refuses video responses error) ∨
      ∀ response ∈ responses, response.check video = .ok () := by
  cases checked : checkAll video responses with
  | error error => exact .inl ⟨error, checkAll_eq_error_iff.1 checked⟩
  | ok _ => exact .inr (checkAll_eq_ok_iff.1 checked)

theorem gather_of_many {perClient : List (List Link)} (many : 1 < perClient.length) :
    gather perClient = Ranking.merge perClient := by
  match perClient, many with
  | _ :: _ :: _, _ => rfl

-- The first answer that is of no use fails the call before anything is done. Otherwise the call succeeds,
-- whatever the decoder, the solver and the engine do.
theorem resolved_as_a_whole (resolver : Resolver) (responses : List PlayerResponse) (video : Text)
    (world : World) :
    let (outcome, after) := resolver.resolveVideo responses video world
    ((∃ failure, outcome = .error failure) ↔
      responses = [] ∨ ∃ response ∈ responses, ∃ error, response.check video = .error error) ∧
    (∀ failure, outcome = .error failure → after = world ∧
      (responses = [] ∧ failure = nothingToResolve ∨
        ∃ error, Refuses video responses error ∧ failure = error.failure)) ∧
    ∀ set, outcome = .ok set →
      (∀ response, responses = [response] →
        set.links = (resolver.resolve response.descriptors {} world).1) ∧
      (1 < responses.length → ∃ perClient, set.links = Ranking.merge perClient ∧
        perClient.length = responses.length ∧
        ∀ earlier response later, responses = earlier ++ response :: later →
          let (memo, now) := resolver.afterClients (earlier.map (·.descriptors)) ({}, world)
          perClient[earlier.length]? = some (resolver.resolve response.descriptors memo now).1) ∧
      set.manifests.dash = responses.findSome? (·.manifests.dash) ∧
      set.manifests.hls = responses.findSome? (·.manifests.hls) ∧
      set.manifests.adaptive = responses.findSome? (·.manifests.adaptive) := by
  dsimp only
  by_cases given : responses = []
  · subst given
    simp [resolveVideo]
  rcases refuses_or_accepts video responses with ⟨error, refused⟩ | accepted
  · rw [resolveVideo_of_refused resolver refused]
    refine ⟨iff_of_true ⟨_, rfl⟩ (.inr ?_), ?_, nofun⟩
    · obtain ⟨accepted, wrong, later, same, -, why⟩ := refused
      exact ⟨wrong, by simp [same], error, why⟩
    · intro failure failed
      cases failed
      exact ⟨rfl, .inr ⟨error, refused, rfl⟩⟩
  · have succeeds := resolveVideo_of_accepted resolver given accepted world
    simp only [succeeds]
    refine ⟨iff_of_false nofun ?_, nofun, ?_⟩
    · rintro (none | ⟨response, present, error, wrong⟩)
      · exact given none
      · cases (accepted response present).symm.trans wrong
    · intro set found
      cases found
      refine ⟨?_, ?_, ?_, ?_, ?_⟩
      · rintro response rfl
        rfl
      · intro many
        have size := length_resolveClients resolver (responses.map (·.descriptors)) {} world
        rw [List.length_map] at size
        refine ⟨_, gather_of_many (by rwa [size]), size, ?_⟩
        rintro earlier response later rfl
        have turn := getElem?_resolveClients resolver (earlier.map (·.descriptors)) response.descriptors
          (later.map (·.descriptors)) {} world
        simpa using turn
      · exact Manifests.first_of_all Manifests.dash (fun _ _ => rfl) rfl responses
      · exact Manifests.first_of_all Manifests.hls (fun _ _ => rfl) rfl responses
      · exact Manifests.first_of_all Manifests.adaptive (fun _ _ => rfl) rfl responses

theorem resolved_as_a_whole_pair :
    let resolver : Resolver := ⟨none, none, []⟩
    let bare : PlayerResponse := { video := some "v".toList }
    let streamed : PlayerResponse :=
      { video := some "v".toList, offer := some { manifests := { hls := some "h".toList } } }
    (∃ set, (resolver.resolveVideo [bare, streamed] "v".toList {}).1 = .ok set ∧
      set.manifests.hls = some "h".toList) ∧
    ∃ failure, resolver.resolveVideo [bare, {}] "v".toList {} = (.error failure, {}) := by
  intro resolver bare streamed
  constructor
  · obtain ⟨fails, -, resolved⟩ := resolved_as_a_whole resolver [bare, streamed] "v".toList {}
    cases outcome : (resolver.resolveVideo [bare, streamed] "v".toList {}).1 with
    | error failure =>
      rcases fails.mp ⟨failure, outcome⟩ with none | ⟨response, present, error, wrong⟩
      · cases none
      · simp only [List.mem_cons, List.not_mem_nil, or_false] at present
        rcases present with rfl | rfl <;> cases wrong
    | ok set => exact ⟨set, rfl, (resolved set outcome).2.2.2.1⟩
  · obtain ⟨fails, unchanged, -⟩ := resolved_as_a_whole resolver [bare, {}] "v".toList {}
    obtain ⟨failure, failed⟩ := fails.mpr (.inr ⟨{}, by simp, _, rfl⟩)
    exact ⟨failure, Prod.ext failed (unchanged failure failed).1⟩

end Resolver
end StreamLinks
