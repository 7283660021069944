import StreamLinks.Player.VideoId
import StreamLinks.Proofs.Text.FormEncoding
import StreamLinks.Proofs.Url.Plain
/-!
All ways to write a video down give the same identifier: by itself, as a short address, and as the
address of one of its pages, whatever parameters stand behind.
-/
namespace StreamLinks.VideoId

variable {id rest behind scheme host : Text}

def IsName (id : Text) : Prop := id ≠ [] ∧ ∀ c ∈ id, Url.isNameChar c = true

def IsPlain (rest : Text) : Prop := ∀ c ∈ rest, Url.isQueryChar c = true

-- An address may end behind the identifier or go on with more parameters, after a mark.
inductive Ending (mark : Char) : Text → Prop where
  | none : Ending mark []
  | more {rest : Text} (plain : IsPlain rest) : Ending mark (mark :: rest)

def directories : List Text := ["shorts".toList, "embed".toList]

inductive Spelling (id : Text) : Text → Prop where
  | raw (long : id.length = 11) : Spelling id id
  | watch {scheme host behind : Text} (web : scheme ∈ Url.schemes) (page : host ∈ pageHosts)
      (ends : Ending '&' behind) :
      Spelling id (scheme ++ "://".toList ++ host ++ "/watch?v=".toList ++ id ++ behind)
  | kept {scheme host directory behind : Text} (web : scheme ∈ Url.schemes) (page : host ∈ pageHosts)
      (kept : directory ∈ directories) (ends : Ending '?' behind) :
      Spelling id (scheme ++ "://".toList ++ host ++ ['/'] ++ directory ++ ['/'] ++ id ++ behind)
  | short {scheme behind : Text} (web : scheme ∈ Url.schemes) (ends : Ending '?' behind) :
      Spelling id (scheme ++ "://".toList ++ shortHost ++ ['/'] ++ id ++ behind)

theorem known_hosts : ∀ host ∈ shortHost :: pageHosts, Url.Host.ofNetwork host = .ok (.domain host) := by
  decide

theorem bare_hosts : ∀ host ∈ shortHost :: pageHosts, host.all Url.isHostChar = true := by decide

theorem read_of_raw (name : IsName id) (long : id.length = 11) : read id = .ok id := by
  have raw : isRaw id = true := by
    rw [isRaw, Bool.and_eq_true, beq_iff_eq, List.all_eq_true]
    exact ⟨long, name.2⟩
  rw [read, if_pos raw]

-- An address is not taken for an identifier, and it is read as it is written.
theorem read_written (address : Url.Plain) : read address.written = ofUrl address.url := by
  have other : ¬ isRaw address.written = true := by
    intro raw
    have inside := List.all_eq_true.mp (Bool.and_eq_true_iff.mp raw).2 ':' (by simp [Url.Plain.written])
    cases inside
  rw [read, if_neg other, address.parse_written]

theorem ofUrl_page {url : Url} (page : host ∈ pageHosts) (named : url.host = some (.domain host)) :
    ofUrl url = ofPage url := by
  have apart : shortHost ∉ pageHosts := by decide
  have other : ¬ (some (Url.Host.domain host).toText = some shortHost) := by
    intro same
    cases same
    exact apart page
  have listed : (some (Url.Host.domain host).toText).any pageHosts.contains = true :=
    List.contains_iff_mem.mpr page
  rw [ofUrl, named, Option.map_some, if_neg other, if_pos listed]

theorem formPairs_name (name : IsName id) : Text.formPairs (['v'] ++ '=' :: id) = [(['v'], id)] := by
  have plain : ∀ c ∈ id, Text.isFormPlain c = true := by
    intro c present
    have inside := name.2 c present
    simp only [Url.isNameChar, Bool.or_eq_true] at inside
    obtain (alphanum | hyphen) | underscore := inside <;> simp [Text.isFormPlain, *]
  have field : Text.formPairs (['v'] ++ '=' :: Text.formEncode id) = [(['v'], id)] :=
    Text.formPairs_field (List.all_eq_true.mp rfl) id
  rwa [Text.formEncode_of_plain plain] at field

-- What follows the identifier may give the parameter again. The first one counts.
theorem ofPage_watch_of_name {url : Url} (name : IsName id) (watch : url.path = "/watch".toList)
    (query : url.query = some (['v'] ++ '=' :: id ++ behind)) (ends : Ending '&' behind) :
    ofPage url = .ok id := by
  have first : ∃ others, Text.formPairs (['v'] ++ '=' :: id ++ behind) = (['v'], id) :: others := by
    cases ends with
    | none => exact ⟨[], by rw [List.append_nil, formPairs_name name]⟩
    | more plain => exact ⟨_, by rw [Text.formPairs_append, formPairs_name name]; rfl⟩
  obtain ⟨others, pairs⟩ := first
  unfold ofPage
  rw [watch, query, Option.getD_some, pairs]
  rfl

theorem ofPage_kept {url : Url} {directory : Text} (name : IsName id) (kept : directory ∈ directories)
    (path : url.path = ['/'] ++ directory ++ ['/'] ++ id) : ofPage url = .ok id := by
  obtain ⟨c, id, rfl⟩ := List.exists_cons_of_ne_nil name.1
  obtain rfl | rfl : directory = "shorts".toList ∨ directory = "embed".toList := by
    simpa [directories] using kept
  all_goals
    unfold ofPage
    rw [path]
    rfl

theorem ofUrl_short_of_name {url : Url} (name : IsName id) (named : url.host = some (.domain shortHost))
    (path : url.path = ['/'] ++ id) : ofUrl url = .ok id := by
  obtain ⟨c, id, rfl⟩ := List.exists_cons_of_ne_nil name.1
  have slash : c ≠ '/' := ne_of_class (name.2 c List.mem_cons_self) '/' (by decide)
  have bare : url.path.dropWhile (· == '/') = c :: id := by
    rw [path]
    simp [slash]
  rw [ofUrl, named, Option.map_some, Url.Host.toText, if_pos rfl, bare]

-- The parameters behind a path are a query.
theorem Ending.query (ends : Ending '?' behind) :
    ∃ query, behind = Url.marked query ∧ ∀ text ∈ query, IsPlain text := by
  cases ends with
  | none => exact ⟨.none, rfl, nofun⟩
  | more plain => exact ⟨some _, rfl, fun text given => by cases given; exact plain⟩

theorem IsName.plain (name : IsName id) : IsPlain id := fun c present =>
  Url.isQueryChar_of_isHostChar (Url.isHostChar_of_isNameChar (name.2 c present))

theorem Ending.plain (ends : Ending '&' behind) : IsPlain behind := by
  cases ends with
  | none => exact nofun
  | more plain => exact List.forall_mem_cons.mpr ⟨by decide, plain⟩

theorem names_of_directories : ∀ directory ∈ directories, directory.all Url.isNameChar = true := by decide

-- The address of names at one of the hosts.
def address {segments : List Text} {query : Option Text} (web : scheme ∈ Url.schemes)
    (known : host ∈ shortHost :: pageHosts) (filled : segments ≠ [])
    (names : ∀ segment ∈ segments, ∀ c ∈ segment, Url.isNameChar c = true)
    (plain : ∀ text ∈ query, IsPlain text) : Url.Plain where
  scheme := scheme
  host := host
  segments := segments
  query := query
  web := web
  known := known_hosts host known
  bare := List.all_eq_true.mp (bare_hosts host known)
  filled := filled
  names := names
  plain := plain

theorem read_watch (name : IsName id) (web : scheme ∈ Url.schemes) (page : host ∈ pageHosts)
    (ends : Ending '&' behind) :
    read (scheme ++ "://".toList ++ host ++ "/watch?v=".toList ++ id ++ behind) = .ok id := by
  have names : ∀ segment ∈ ["watch".toList], ∀ c ∈ segment, Url.isNameChar c = true :=
    List.forall_mem_singleton.mpr (List.all_eq_true.mp rfl)
  have plain : ∀ query ∈ some (['v'] ++ '=' :: id ++ behind), IsPlain query := by
    intro query given
    cases given
    have value : IsPlain ('=' :: id) := List.forall_mem_cons.mpr ⟨by decide, name.plain⟩
    exact List.forall_mem_append.mpr
      ⟨List.forall_mem_append.mpr ⟨List.all_eq_true.mp rfl, value⟩, ends.plain⟩
  let watching := address web (List.mem_cons_of_mem _ page) (List.cons_ne_nil _ _) names plain
  have same : scheme ++ "://".toList ++ host ++ "/watch?v=".toList ++ id ++ behind = watching.written := by
    simp [watching, address, Url.Plain.written, Url.Plain.path, Url.marked]
  rw [same, read_written, ofUrl_page page rfl]
  exact ofPage_watch_of_name name rfl rfl ends

theorem read_kept {directory : Text} (name : IsName id) (web : scheme ∈ Url.schemes)
    (page : host ∈ pageHosts) (kept : directory ∈ directories) (ends : Ending '?' behind) :
    read (scheme ++ "://".toList ++ host ++ ['/'] ++ directory ++ ['/'] ++ id ++ behind) = .ok id := by
  obtain ⟨query, rfl, plain⟩ := ends.query
  have names : ∀ segment ∈ [directory, id], ∀ c ∈ segment, Url.isNameChar c = true := by
    simpa using ⟨List.all_eq_true.mp (names_of_directories directory kept), name.2⟩
  let keeping := address web (List.mem_cons_of_mem _ page) (List.cons_ne_nil _ _) names plain
  have same : scheme ++ "://".toList ++ host ++ ['/'] ++ directory ++ ['/'] ++ id ++ Url.marked query =
      keeping.written := by
    simp [keeping, address, Url.Plain.written, Url.Plain.path]
  rw [same, read_written, ofUrl_page page rfl]
  exact ofPage_kept name kept (by simp [keeping, address, Url.Plain.url, Url.Plain.path])

theorem read_short (name : IsName id) (web : scheme ∈ Url.schemes) (ends : Ending '?' behind) :
    read (scheme ++ "://".toList ++ shortHost ++ ['/'] ++ id ++ behind) = .ok id := by
  obtain ⟨query, rfl, plain⟩ := ends.query
  have names : ∀ segment ∈ [id], ∀ c ∈ segment, Url.isNameChar c = true := List.forall_mem_singleton.mpr name.2
  let shortened := address web List.mem_cons_self (List.cons_ne_nil _ _) names plain
  have same : scheme ++ "://".toList ++ shortHost ++ ['/'] ++ id ++ Url.marked query = shortened.written := by
    simp [shortened, address, Url.Plain.written, Url.Plain.path]
  rw [same, read_written]
  exact ofUrl_short_of_name name rfl (by simp [shortened, address, Url.Plain.url, Url.Plain.path])

theorem read_spelling {text : Text} (name : IsName id) (spelled : Spelling id text) :
    read text = .ok id := by
  cases spelled with
  | raw long => exact read_of_raw name long
  | watch web page ends => exact read_watch name web page ends
  | kept web page kept ends => exact read_kept name web page kept ends
  | short web ends => exact read_short name web ends

theorem read_spelling_repeated :
    let id := "a_-1".toList
    IsName id ∧ Spelling id "https://m.youtube.com/watch?v=a_-1&v=b&t=1".toList ∧
      read "https://m.youtube.com/watch?v=a_-1&v=b&t=1".toList = .ok id ∧
      read "http://youtu.be/a_-1?v=b".toList = .ok id := by
  intro id
  have name : IsName id := ⟨by decide, List.all_eq_true.mp rfl⟩
  have more : IsPlain "v=b&t=1".toList := List.all_eq_true.mp rfl
  have watch : Spelling id ("https".toList ++ "://".toList ++ "m.youtube.com".toList ++ "/watch?v=".toList ++
      id ++ '&' :: "v=b&t=1".toList) := .watch (by decide) (by decide) (.more more)
  have other : IsPlain "v=b".toList := List.all_eq_true.mp rfl
  have short : Spelling id ("http".toList ++ "://".toList ++ shortHost ++ ['/'] ++ id ++ '?' :: "v=b".toList) :=
    .short (by decide) (.more other)
  exact ⟨name, watch, read_spelling name watch, read_spelling name short⟩

end StreamLinks.VideoId
