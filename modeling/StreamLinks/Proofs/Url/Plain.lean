import Mathlib.Data.List.TakeWhile
import StreamLinks.Proofs.Text.Classes
import StreamLinks.Proofs.Text.Splitting
import StreamLinks.Url.Basic
/-!
Addresses in plain characters are read as they are written: nothing in them is trimmed, made small,
resolved or percent-encoded.
-/
namespace StreamLinks.Url

-- The characters of names, of paths made of names, of hosts and of plain queries.
def isNameChar (c : Char) : Bool := c.isAlphanum || c == '-' || c == '_'

def isPathChar (c : Char) : Bool := isNameChar c || c == '/'

def isHostChar (c : Char) : Bool := isNameChar c || c == '.'

def isQueryChar (c : Char) : Bool := isHostChar c || c == '~' || c == '=' || c == '&'

theorem isQueryChar_of_isHostChar {c : Char} (inside : isHostChar c = true) : isQueryChar c = true := by
  simp [isQueryChar, inside]

theorem isHostChar_of_isNameChar {c : Char} (inside : isNameChar c = true) : isHostChar c = true := by
  simp [isHostChar, inside]

theorem isQueryChar_of_isNameChar {c : Char} (inside : isNameChar c = true) : isQueryChar c = true :=
  isQueryChar_of_isHostChar (isHostChar_of_isNameChar inside)

theorem ascii_of_isQueryChar {c : Char} (inside : isQueryChar c = true) : c.toNat < 128 := by
  simp only [isQueryChar, isHostChar, isNameChar, Bool.or_eq_true, Text.isAlphanum_iff, beq_iff_eq] at inside
  obtain ((((((alphanum | rfl) | rfl) | rfl) | rfl) | rfl) | rfl) := inside
  · omega
  all_goals decide

theorem plain_of_isQueryChar {c : Char} (inside : isQueryChar c = true) :
    0x20 < c.toNat ∧ isQueryEscaped true c = false ∧ isPathEscaped c = false := by
  have all := Text.of_ascii (c := c)
    (p := fun c => !isQueryChar c || 0x20 < c.toNat && !isQueryEscaped true c && !isPathEscaped c)
    (by decide) (ascii_of_isQueryChar inside)
  simpa [inside, and_assoc] using all

theorem isNameChar_toLower {c : Char} (inside : isNameChar c = true) : isNameChar c.toLower = true := by
  have all := Text.of_ascii (c := c) (p := fun c => !isNameChar c || isNameChar c.toLower) (by decide)
    (ascii_of_isQueryChar (isQueryChar_of_isNameChar inside))
  simpa [inside] using all

theorem percentEncode_of_none {escaped : Char → Bool} {text : Text} (plain : ∀ c ∈ text, escaped c = false) :
    Text.percentEncode escaped text = text := by
  induction text with
  | nil => rfl
  | cons c text ih =>
    obtain ⟨first, others⟩ := List.forall_mem_cons.mp plain
    have rest := ih others
    unfold Text.percentEncode at rest ⊢
    rw [List.flatMap_cons, rest, if_neg (by simp [first])]
    rfl

section path
variable {segment first : Text} {others : List Text}

-- A name holds neither a dot nor the percent sign of an encoded one.
theorem ne_lower_of_name {marks : List String}
    (marked : ∀ mark ∈ marks, mark.toList.all isNameChar = false)
    (name : ∀ c ∈ segment, isNameChar c = true) :
    marks.any (·.toList == Text.lower segment) = false := by
  have small : ∀ c ∈ Text.lower segment, isNameChar c = true := by
    intro c present
    obtain ⟨source, held, rfl⟩ := List.mem_map.mp present
    exact isNameChar_toLower (name source held)
  rw [List.any_eq_false]
  intro mark listed same
  have outside := marked mark listed
  rw [beq_iff_eq.mp same, List.all_eq_true.mpr small] at outside
  cases outside

theorem not_isSingleDot (name : ∀ c ∈ segment, isNameChar c = true) : isSingleDot segment = false :=
  ne_lower_of_name (by decide) name

theorem not_isDoubleDot (name : ∀ c ∈ segment, isNameChar c = true) : isDoubleDot segment = false :=
  ne_lower_of_name (by decide) name

theorem addSegments_cons (name : ∀ c ∈ segment, isNameChar c = true) (trail : Trail) (others : List Text) :
    addSegments false trail (segment :: others) =
      addSegments false (if others.isEmpty then segment.reverse ++ trail
        else '/' :: (segment.reverse ++ trail)) others := by
  have written : Text.percentEncode isPathEscaped segment = segment :=
    percentEncode_of_none fun c present =>
      (plain_of_isQueryChar (isQueryChar_of_isNameChar (name c present))).2.2
  rw [addSegments, written, not_isDoubleDot name, not_isSingleDot name]
  rfl

theorem addSegments_names (names : ∀ segment ∈ first :: others, ∀ c ∈ segment, isNameChar c = true)
    (trail : Trail) :
    addSegments false trail (first :: others) = (first ++ others.flatMap ('/' :: ·)).reverse ++ trail := by
  induction others generalizing first trail with
  | nil =>
    rw [addSegments_cons (names first List.mem_cons_self)]
    simp [addSegments]
  | cons next others ih =>
    obtain ⟨name, rest⟩ := List.forall_mem_cons.mp names
    rw [addSegments_cons name, ih rest]
    simp

theorem pathOf_names (names : ∀ segment ∈ first :: others, ∀ c ∈ segment, isNameChar c = true) :
    pathOf false (first :: others) = (first :: others).flatMap ('/' :: ·) := by
  rw [pathOf, addSegments_names names]
  simp

theorem path_of_names {segments : List Text}
    (names : ∀ segment ∈ segments, ∀ c ∈ segment, isNameChar c = true) :
    ∀ c ∈ segments.flatMap ('/' :: ·), isPathChar c = true := by
  intro c present
  obtain ⟨segment, listed, within⟩ := List.mem_flatMap.mp present
  obtain rfl | inside := List.mem_cons.mp within
  · rfl
  · simp [isPathChar, names segment listed c inside]

theorem segmentsOf_names (names : ∀ segment ∈ first :: others, ∀ c ∈ segment, isNameChar c = true) :
    segmentsOf true (first ++ others.flatMap ('/' :: ·)) = first :: others := by
  have straight (c : Char) (present : c ∈ first ++ others.flatMap ('/' :: ·)) :
      (if c = '\\' then '/' else c) = c := by
    rw [if_neg]
    rintro rfl
    cases path_of_names names '\\' (List.mem_cons_of_mem _ present)
  rw [segmentsOf, if_pos rfl, List.map_congr_left straight, List.map_id']
  exact Text.splitAtChar_pieces fun segment listed => not_mem_of_all (names segment listed) (by decide)

end path

section address
variable {host : Text} {segments : List Text} {query : Option Text}

-- The query with its mark.
def marked (query : Option Text) : Text := (query.map ('?' :: ·)).getD []

theorem queryAndFragment_plain (plain : ∀ text ∈ query, ∀ c ∈ text, isQueryChar c = true) :
    queryAndFragment true (marked query) = (query, none) := by
  cases query with
  | none => rfl
  | some text =>
    have unescaped : Text.percentEncode (isQueryEscaped true) text = text :=
      percentEncode_of_none fun c present => (plain_of_isQueryChar (plain text rfl c present)).2.1
    have whole : ∀ c ∈ '?' :: text, (!(c == '#')) = true := by
      intro c present
      obtain rfl | within := List.mem_cons.mp present
      · rfl
      · simpa using ne_of_class (plain text rfl c within) '#' (by decide)
    have front := List.takeWhile_eq_self_iff.mpr whole
    have back := List.dropWhile_eq_nil_iff.mpr whole
    simp only [queryAndFragment, upTo, marked, Option.map_some, Option.getD_some, front, back, unescaped]

-- A path ends where the query begins.
theorem upTo_path {path : Text} (inside : ∀ c ∈ path, isPathChar c = true) (query : Option Text) :
    upTo (fun c => c == '?' || c == '#') (path ++ marked query) = (path, marked query) := by
  have plain : ∀ c ∈ path, (!(c == '?' || c == '#')) = true := by
    intro c present
    have question : c ≠ '?' := ne_of_class (inside c present) '?' (by decide)
    have hash : c ≠ '#' := ne_of_class (inside c present) '#' (by decide)
    simp [question, hash]
  have ends : ∀ c ∈ (marked query).head?, (!(c == '?' || c == '#')) = false := by
    intro c present
    cases query with
    | none => cases present
    | some text =>
      cases present
      rfl
  exact Prod.ext (Text.takeWhile_of_all plain ends) (Text.dropWhile_of_all plain ends)

theorem withPath_plain (url : Url) (filled : segments ≠ [])
    (names : ∀ segment ∈ segments, ∀ c ∈ segment, isNameChar c = true)
    (plain : ∀ text ∈ query, ∀ c ∈ text, isQueryChar c = true) :
    url.withPath true false (segments.flatMap ('/' :: ·) ++ marked query) =
      { url with path := segments.flatMap ('/' :: ·), query, fragment := none } := by
  obtain ⟨first, others, rfl⟩ := List.exists_cons_of_ne_nil filled
  have path : pathOf false (segmentsOf true (first ++ others.flatMap ('/' :: ·))) =
      (first :: others).flatMap ('/' :: ·) := by
    rw [segmentsOf_names names, pathOf_names names]
  unfold withPath
  rw [upTo_path (path_of_names names)]
  dsimp only
  rw [queryAndFragment_plain plain]
  exact congrArg (fun path => ({ url with path, query, fragment := none } : Url)) path

-- Nothing in a host ends the authority, stands for a user or opens a port.
theorem bare_of_isHostChar {c : Char} (inside : isHostChar c = true) :
    (c == '/' || c == '?' || c == '#' || (true && c == '\\')) = false ∧ c ≠ '@' ∧ c ≠ ':' ∧
      c ≠ '[' ∧ c ≠ ']' := by
  have all := Text.of_ascii (c := c)
    (p := fun c => !isHostChar c || (!(c == '/' || c == '?' || c == '#' || (true && c == '\\')) &&
      c != '@' && c != ':' && c != '[' && c != ']'))
    (by decide) (ascii_of_isQueryChar (isQueryChar_of_isHostChar inside))
  simpa [inside, and_assoc] using all

theorem userinfo_bare (bare : ∀ c ∈ host, isHostChar c = true) (rest : Text) :
    userinfo true (host ++ '/' :: rest) = .ok ([], host ++ '/' :: rest) := by
  have within : ∀ c ∈ host, (!(c == '/' || c == '?' || c == '#' || (true && c == '\\'))) = true := by
    intro c present
    rw [(bare_of_isHostChar (bare c present)).1]
    rfl
  have nobody : ∀ c ∈ host.reverse, (c != '@') = true := by
    intro c present
    exact bne_iff_ne.mpr (bare_of_isHostChar (bare c (List.mem_reverse.mp present))).2.1
  have ends : ∀ c ∈ ('/' :: rest).head?, (!(c == '/' || c == '?' || c == '#' || (true && c == '\\'))) = false := by
    intro c present
    cases present
    rfl
  have authority := Text.takeWhile_of_all within ends
  have whole := List.takeWhile_eq_self_iff.mpr nobody
  simp only [userinfo, upTo, authority, whole, List.reverse_reverse, if_true]

theorem hostText_bare (bare : ∀ c ∈ host, isHostChar c = true) (rest : Text) :
    hostText true false (host ++ '/' :: rest) = (host, '/' :: rest) := by
  induction host with
  | nil => rfl
  | cons c host ih =>
    obtain ⟨first, others⟩ := List.forall_mem_cons.mp bare
    obtain ⟨inside, -, colon, opening, closing⟩ := bare_of_isHostChar first
    rw [List.cons_append, hostText]
    simp only [Bool.or_eq_false_iff, beq_eq_false_iff_ne] at inside
    simp [inside, colon, opening, closing, ih others]

theorem host_filled (known : Host.ofNetwork host = .ok (.domain host)) : host ≠ [] := by
  rintro rfl
  cases known

theorem withAuthority_bare (known : Host.ofNetwork host = .ok (.domain host))
    (bare : ∀ c ∈ host, isHostChar c = true) (scheme : Text) (usual : Option Nat) (rest : Text) :
    withAuthority scheme (some usual) (host ++ '/' :: rest) =
      .ok (withPath { scheme, host := some (.domain host), path := [] } true false ('/' :: rest)) := by
  have filled : host.isEmpty = false := List.isEmpty_eq_false_iff.mpr (host_filled known)
  unfold withAuthority
  dsimp only [Option.isSome_some]
  rw [userinfo_bare bare]
  dsimp only [bind, Except.bind]
  rw [hostText_bare bare]
  dsimp only
  rw [filled, known]
  rfl

def schemes : List Text := ["http".toList, "https".toList]

theorem scheme?_web {scheme : Text} (web : scheme ∈ schemes) (rest : Text) :
    scheme? (scheme ++ ':' :: rest) = some (scheme, rest) := by
  obtain rfl | rfl : scheme = "http".toList ∨ scheme = "https".toList := by simpa [schemes] using web
  all_goals rfl

theorem networkPort?_web {scheme : Text} (web : scheme ∈ schemes) :
    ∃ usual, networkPort? scheme = some usual ∧ scheme ≠ "file".toList := by
  obtain rfl | rfl : scheme = "http".toList ∨ scheme = "https".toList := by simpa [schemes] using web
  · exact ⟨_, rfl, by decide⟩
  · exact ⟨_, rfl, by decide⟩

-- Nothing is trimmed from a text without blanks, nor dropped from it.
theorem parse_of_visible {text : Text} (visible : ∀ c ∈ text, 0x20 < c.toNat) :
    parse text = match scheme? text with
      | none => .error .noScheme
      | some (scheme, rest) =>
        match networkPort? scheme with
        | none => otherUrl scheme rest
        | some usual =>
          if scheme = "file".toList then fileUrl rest
          else withAuthority scheme (some usual) (rest.dropWhile fun c => c == '/' || c == '\\') := by
  have untrimmed {text : Text} (visible : ∀ c ∈ text, 0x20 < c.toNat) :
      text.dropWhile (fun c => c.toNat ≤ 0x20) = text := by
    cases text with
    | nil => rfl
    | cons c text => exact List.dropWhile_cons_of_neg (by simpa using visible c List.mem_cons_self)
  have backwards := untrimmed fun c present => visible c (List.mem_reverse.mp present)
  have unfiltered : text.filter (fun c => c != '\t' && c != '\n' && c != '\r') = text := by
    rw [List.filter_eq_self]
    intro c present
    have other (mark : Char) (blank : mark.toNat ≤ 0x20) : c ≠ mark := by
      rintro rfl
      exact absurd (visible c present) (Nat.not_lt.mpr blank)
    simp [other '\t' (by decide), other '\n' (by decide), other '\r' (by decide)]
  unfold parse
  dsimp only
  rewrite [untrimmed visible, backwards, List.reverse_reverse, unfiltered]
  rfl

end address

-- An address of names, in its parts.
structure Plain where
  scheme : Text
  host : Text
  segments : List Text
  query : Option Text := none
  web : scheme ∈ schemes
  known : Host.ofNetwork host = .ok (.domain host)
  bare : ∀ c ∈ host, isHostChar c = true
  filled : segments ≠ []
  names : ∀ segment ∈ segments, ∀ c ∈ segment, isNameChar c = true
  plain : ∀ text ∈ query, ∀ c ∈ text, isQueryChar c = true

namespace Plain

def path (address : Plain) : Text := address.segments.flatMap ('/' :: ·)

def written (address : Plain) : Text :=
  address.scheme ++ "://".toList ++ address.host ++ address.path ++ marked address.query

def url (address : Plain) : Url where
  scheme := address.scheme
  host := some (.domain address.host)
  path := address.path
  query := address.query

theorem visible (address : Plain) : ∀ c ∈ address.written, 0x20 < c.toNat := by
  have small : ∀ scheme ∈ schemes, scheme.all isNameChar = true := by decide
  intro c present
  rw [written, List.mem_append, List.mem_append, List.mem_append, List.mem_append] at present
  obtain (((inScheme | inMarks) | inHost) | inPath) | inQuery := present
  · have name := List.all_eq_true.mp (small _ address.web) c inScheme
    exact (plain_of_isQueryChar (isQueryChar_of_isNameChar name)).1
  · obtain rfl | rfl : c = ':' ∨ c = '/' := by simpa using inMarks
    · decide
    · decide
  · exact (plain_of_isQueryChar (isQueryChar_of_isHostChar (address.bare c inHost))).1
  · obtain ⟨segment, listed, within⟩ := List.mem_flatMap.mp inPath
    obtain rfl | inside := List.mem_cons.mp within
    · decide
    · exact (plain_of_isQueryChar (isQueryChar_of_isNameChar (address.names segment listed c inside))).1
  · unfold marked at inQuery
    cases asked : address.query with
    | none =>
      rw [asked] at inQuery
      cases inQuery
    | some text =>
      rw [asked] at inQuery
      obtain rfl | inside := List.mem_cons.mp inQuery
      · decide
      · exact (plain_of_isQueryChar (address.plain text asked c inside)).1

theorem parse_written (address : Plain) : parse address.written = .ok address.url := by
  obtain ⟨usual, port, other⟩ := networkPort?_web address.web
  obtain ⟨first, others, split⟩ := List.exists_cons_of_ne_nil address.filled
  obtain ⟨c, host, opens⟩ := List.exists_cons_of_ne_nil (host_filled address.known)
  have path : address.path = '/' :: (first ++ others.flatMap ('/' :: ·)) := by
    rw [Plain.path, split]
    rfl
  have parted : address.written = address.scheme ++ ':' :: '/' :: '/' ::
      (address.host ++ '/' :: (first ++ others.flatMap ('/' :: ·) ++ marked address.query)) := by
    simp [written, path]
  have slashes : ('/' :: '/' ::
      (address.host ++ '/' :: (first ++ others.flatMap ('/' :: ·) ++ marked address.query))).dropWhile
        (fun c => c == '/' || c == '\\') =
      address.host ++ '/' :: (first ++ others.flatMap ('/' :: ·) ++ marked address.query) := by
    have inside : isHostChar c = true := address.bare c (opens ▸ List.mem_cons_self)
    have slash := ne_of_class inside '/' (by decide)
    have backslash := ne_of_class inside '\\' (by decide)
    have both : ∀ c ∈ ['/', '/'], (c == '/' || c == '\\') = true := by simp
    refine Text.dropWhile_of_all both ?_
    intro d present
    rw [opens] at present
    cases present
    simp [slash, backslash]
  rw [parse_of_visible address.visible, parted, scheme?_web address.web]
  dsimp only
  rw [port]
  dsimp only
  rw [if_neg other, slashes, withAuthority_bare address.known address.bare, ← List.cons_append, ← path]
  exact congrArg Except.ok (withPath_plain _ address.filled address.names address.plain)

end Plain
end StreamLinks.Url
