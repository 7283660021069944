import StreamLinks.CommandLine.Session
import StreamLinks.Proofs.Text.Cutting
/-!
Which texts name a video.

Short addresses, and pages for short and embedded videos, are refused when nothing stands where the
identifier should. A watch page is refused only if it lacks its parameter. So the empty identifier comes
from watch pages whose parameter is blank and from nowhere else, and an answer about no video passes for
it.
-/
namespace StreamLinks

namespace Url

theorem colon_mem_of_scheme? {text : Text} {found : Text × Text} (read : scheme? text = some found) :
    ':' ∈ text := by
  unfold scheme? at read
  dsimp only at read
  split at read
  · next first rest _ behind =>
    have inRest : ':' ∈ ':' :: rest := List.mem_cons_self
    rw [← behind] at inRest
    exact (List.dropWhile_suffix _).subset inRest
  · cases read

-- Trimming and filtering leave no character that was not there.
theorem colon_mem_of_parse {text : Text} {url : Url} (parsed : parse text = .ok url) : ':' ∈ text := by
  unfold parse at parsed
  dsimp only at parsed
  split at parsed
  · cases parsed
  · next scheme rest read =>
    have kept := List.mem_of_mem_filter (colon_mem_of_scheme? read)
    have reversed := (List.dropWhile_suffix _).subset (List.mem_reverse.mp kept)
    exact (List.dropWhile_suffix _).subset (List.mem_reverse.mp reversed)

end Url

namespace VideoId

-- The first parameter `v` of the address has this value.
def FirstParameter (url : Url) (value : Text) : Prop :=
  ∃ front behind, Text.formPairs (url.query.getD []) = front ++ (['v'], value) :: behind ∧
    ∀ pair ∈ front, pair.1 ≠ ['v']

-- The address of a watch page whose parameter is blank.
structure IsBlankWatch (url : Url) : Prop where
  page : ∃ host, url.host = some host ∧ host.toText ∈ pageHosts
  watch : "/watch".toList <+: url.path
  blank : FirstParameter url []

section address
variable {url : Url}

theorem firstParameter_iff {value : Text} : FirstParameter url value ↔
    ∃ name, (Text.formPairs (url.query.getD [])).find? (fun (name, _) => name == ['v']) =
      some (name, value) := by
  simp only [List.find?_eq_some_iff_append]
  constructor
  · intro first
    obtain ⟨front, behind, pairs, others⟩ := first
    exact ⟨['v'], rfl, front, behind, pairs, fun pair present => by simpa using others pair present⟩
  · intro found
    obtain ⟨name, named, front, behind, pairs, others⟩ := found
    obtain rfl := beq_iff_eq.mp named
    exact ⟨front, behind, pairs, fun pair present => by simpa using others pair present⟩

theorem ofPage_watch (watch : "/watch".toList <+: url.path) :
    ofPage url = .ok [] ↔ FirstParameter url [] := by
  rw [firstParameter_iff]
  unfold ofPage
  cases here : Text.after? "/watch".toList url.path with
  | none => exact absurd watch (Text.after?_eq_none.mp here)
  | some behind =>
    cases found : (Text.formPairs (url.query.getD [])).find? fun (name, _) => name == ['v'] with
    | none => simp
    | some pair => simp [Prod.ext_iff]

theorem ofPage_ne_nil (other : ¬ "/watch".toList <+: url.path) : ofPage url ≠ .ok [] := by
  unfold ofPage
  rw [Text.after?_eq_none.mpr other]
  dsimp only
  split
  · simp
  · next filled _ =>
    intro same
    cases same
    exact filled rfl
  · simp

theorem ofUrl_short (short : url.host.map (·.toText) = some shortHost) : ofUrl url ≠ .ok [] := by
  unfold ofUrl
  rw [short]
  dsimp only
  rw [if_pos rfl]
  split
  · simp
  · next filled =>
    intro same
    exact filled (Except.ok.inj same)

theorem ofUrl_eq_nil_iff : ofUrl url = .ok [] ↔ IsBlankWatch url := by
  constructor
  · intro empty
    by_cases short : url.host.map (·.toText) = some shortHost
    · exact absurd empty (ofUrl_short short)
    · unfold ofUrl at empty
      dsimp only at empty
      rw [if_neg short] at empty
      split at empty
      · next page =>
        obtain ⟨name, named, known⟩ := (Option.any_eq_true _ _).mp page
        obtain ⟨host, found, rfl⟩ := Option.map_eq_some_iff.mp named
        by_cases watch : "/watch".toList <+: url.path
        · exact ⟨⟨host, found, List.contains_iff_mem.mp known⟩, watch, (ofPage_watch watch).mp empty⟩
        · exact absurd empty (ofPage_ne_nil watch)
      · cases empty
  · intro blank
    obtain ⟨host, found, known⟩ := blank.page
    have apart : shortHost ∉ pageHosts := by decide
    have short : host.toText ≠ shortHost := fun same => apart (same ▸ known)
    have page : (some host.toText).any pageHosts.contains = true := List.contains_iff_mem.mpr known
    unfold ofUrl
    rw [found]
    simp only [Option.map_some, Option.some.injEq, if_neg short, page, if_true]
    exact (ofPage_watch blank.watch).mpr blank.blank

theorem read_eq_nil_iff {text : Text} :
    read text = .ok [] ↔ ∃ url, Url.parse text = .ok url ∧ IsBlankWatch url := by
  unfold read
  by_cases raw : isRaw text = true
  · -- A raw identifier has eleven characters, and a colon is none of them, as it is of every address.
    rw [if_pos raw]
    obtain ⟨long, plain⟩ := Bool.and_eq_true_iff.mp raw
    constructor
    · intro empty
      cases empty
      cases long
    · intro addressed
      obtain ⟨url, parsed, -⟩ := addressed
      cases List.all_eq_true.mp plain ':' (Url.colon_mem_of_parse parsed)
  · rw [if_neg raw]
    cases parsed : Url.parse text with
    | error error => simp
    | ok url => simp [ofUrl_eq_nil_iff]

end address
end VideoId

namespace PlayerResponse
variable {response : PlayerResponse} {video : Text}

-- Nothing is said against playing the video.
def Plays (response : PlayerResponse) : Prop :=
  ∀ playability ∈ response.playability, playability.status = [] ∨ playability.status = "OK".toList

theorem check_eq_ok_iff :
    response.check video = .ok () ↔ response.video.getD [] = video ∧ response.Plays := by
  unfold check Plays
  dsimp only
  by_cases same : response.video.getD [] = video
  · rw [if_neg (not_not.mpr same)]
    cases response.playability with
    | none => simp [same]
    | some playability =>
      dsimp only
      by_cases playable : playability.status = [] ∨ playability.status = "OK".toList
      · rw [if_pos playable]
        refine ⟨fun _ => ⟨same, ?_⟩, fun _ => rfl⟩
        intro other present
        cases present
        exact playable
      · rw [if_neg playable]
        constructor
        · intro passes
          cases passes
        · intro passes
          exact absurd (passes.2 playability rfl) playable
  · simp [same]

end PlayerResponse

namespace CommandLine

theorem chooseVideo_given {arguments : Arguments} {responses : List PlayerResponse} {text video : Text}
    (given : arguments.video = some text) :
    chooseVideo arguments responses = .ok video ↔ VideoId.read text = .ok video := by
  unfold chooseVideo
  rw [given]
  dsimp only
  cases VideoId.read text <;> simp [Except.mapError]

theorem unnamed_passes_iff (text : Text) :
    (VideoId.read text = .ok [] ↔ ∃ url, Url.parse text = .ok url ∧ VideoId.IsBlankWatch url) ∧
    ∀ (arguments : Arguments) (responses : List PlayerResponse) (video : Text)
      (response : PlayerResponse), arguments.video = some text →
      chooseVideo arguments responses = .ok video → response.video = none →
      (response.check video = .ok () ↔
        (∃ url, Url.parse text = .ok url ∧ VideoId.IsBlankWatch url) ∧ response.Plays) := by
  refine ⟨VideoId.read_eq_nil_iff, ?_⟩
  intro arguments responses video response given chosen unnamed
  have read := (chooseVideo_given given).mp chosen
  rw [PlayerResponse.check_eq_ok_iff, unnamed, Option.getD_none, ← VideoId.read_eq_nil_iff, read]
  simp [eq_comm]

def blankWatch : Text := "https://www.youtube.com/watch?v=".toList

theorem unnamed_passes_iff_blank : ({} : PlayerResponse).check [] = .ok () := by
  obtain ⟨empty, passes⟩ := unnamed_passes_iff blankWatch
  have plays : ({} : PlayerResponse).Plays := fun _ present => by cases present
  exact (passes { video := some blankWatch } [] [] {} rfl rfl rfl).mpr ⟨empty.mp rfl, plays⟩

theorem blankWatch_unnamed : VideoId.read blankWatch = .ok [] ∧
    chooseVideo { video := some blankWatch } [] = .ok [] ∧ ({} : PlayerResponse).check [] = .ok () :=
  ⟨rfl, rfl, rfl⟩

end CommandLine
end StreamLinks
