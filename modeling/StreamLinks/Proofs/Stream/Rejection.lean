import StreamLinks.Proofs.Player.VideoId
import StreamLinks.Proofs.Stream.Clients
/-!
What decides whether an answer is resolved: the video that it is about and the status that it gives.

A reason beside a status that lets the video play changes nothing. Beside any other status it is what the
caller is told.
-/
namespace StreamLinks

-- The status is not looked at in an answer about another video.
theorem PlayerResponse.check_of_barred {response : PlayerResponse} {video : Text}
    (named : response.video.getD [] = video) (barred : ¬ response.Plays) :
    ∃ status, response.check video = .error (.unplayable status response.reason) := by
  cases judged : response.playability with
  | none => exact absurd (fun _ present => by simp [judged] at present) barred
  | some playability =>
    have other : ¬ (playability.status = [] ∨ playability.status = "OK".toList) := by
      simpa [Plays, judged] using barred
    refine ⟨playability.status, ?_⟩
    unfold check
    dsimp only
    rw [if_neg (not_not.mpr named), judged]
    exact if_neg other

namespace Resolver
variable {responses : List PlayerResponse} {response : PlayerResponse} {video : Text}

-- One answer that does not pass is enough.
theorem resolveVideo_of_failing (resolver : Resolver) (present : response ∈ responses)
    (failing : response.check video ≠ .ok ()) (world : World) :
    ∃ failure, resolver.resolveVideo responses video world = (.error failure, world) := by
  obtain ⟨error, refused⟩ | accepted := refuses_or_accepts video responses
  · exact ⟨error.failure, resolveVideo_of_refused resolver refused world⟩
  · exact absurd (accepted response present) failing

theorem resolved_by_status (response : PlayerResponse) (video : Text) :
    (response.check video = .ok () ↔ response.video.getD [] = video ∧ response.Plays) ∧
      ∀ reason, response.reason = some reason → ¬ response.Plays →
        (response.video.getD [] = video → ∃ error, response.check video = .error error ∧
          error.failure = .own .validation reason) ∧
        ∀ (resolver : Resolver) (responses : List PlayerResponse) (world : World),
          response ∈ responses →
          ∃ failure, resolver.resolveVideo responses video world = (.error failure, world) := by
  refine ⟨PlayerResponse.check_eq_ok_iff, ?_⟩
  intro reason given barred
  constructor
  · intro named
    obtain ⟨status, refused⟩ := PlayerResponse.check_of_barred named barred
    exact ⟨_, refused, by rw [given]; rfl⟩
  · intro resolver responses world present
    apply resolveVideo_of_failing resolver present
    intro passes
    exact barred (PlayerResponse.check_eq_ok_iff.mp passes).2

-- The messages stand for a reason that is blank.
theorem resolved_by_status_messages :
    let response : PlayerResponse := {
      video := some ['v']
      playability := some {
        status := "LOGIN_REQUIRED".toList, reason := some []
        messages := ["Sign in".toList, "first".toList] } }
    let reason := "Sign in first".toList
    (response.reason = some reason ∧ ¬ response.Plays) ∧
      (∃ error, response.check ['v'] = .error error ∧ error.failure = .own .validation reason) ∧
      ∃ failure, (⟨none, none, []⟩ : Resolver).resolveVideo [{ video := some ['v'] }, response] ['v'] {} =
        (.error failure, {}) := by
  intro response reason
  have given : response.reason = some reason := rfl
  have barred : ¬ response.Plays := fun plays => by
    cases plays _ rfl with
    | inl blank => cases blank
    | inr fine => cases fine
  obtain ⟨told, unresolved⟩ := (resolved_by_status response ['v']).2 reason given barred
  exact ⟨⟨given, barred⟩, told rfl, unresolved _ _ _ (by simp)⟩

-- A reason alone does not keep an answer from being resolved.
theorem resolved_with_reason :
    let response : PlayerResponse := {
      video := some ['v']
      playability := some { status := "OK".toList, reason := some "Sign in".toList } }
    response.check ['v'] = .ok () ∧ response.reason = some "Sign in".toList ∧
      ((⟨none, none, []⟩ : Resolver).resolveVideo [response] ['v'] {}).1 = .ok { links := [] } := by
  exact ⟨rfl, rfl, rfl⟩

end Resolver
end StreamLinks
