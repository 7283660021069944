import Mathlib.Data.List.Forall2
import StreamLinks.Proofs.Script.Nearest
import StreamLinks.Proofs.Script.Slices
import StreamLinks.Script.Transform
/-!
Names and transforms by offsets in bytes.

A name that is taken from a landmark is looked for in the part of the script before it, and the part between a
definition and the landmark is cut out of that part. What has been named is then cut out as a definition with its
helpers.
-/
namespace StreamLinks.Bytewise
open Text Script Pattern

section definitions

-- The function that starts last before a landmark, if no closing brace and semicolon stand in between.
def enclosingName (starts : List (Match Text)) (script : Text) (landmark : Nat) : Checked (Option NameUse) := do
  let head ← slice script 0 (byteLength (script.take landmark))
  match lastBefore? starts head.length with
  | none => return none
  | some found =>
    let between ← slice head (byteOffset head found.stop) (byteLength head)
    return if Text.contains "\x7d;".toList between then none else some ⟨found.value, none⟩

def nameByMarker (attempt : Attempt) (script : Text) : Checked (Option NameUse) :=
  (attempt.markers script).findSomeM? fun found => enclosingName (attempt.starts script) script found.start

def nameByCatchReturn (script : Text) : Checked (Option NameUse) :=
  let starts := parameterStart.everywhere script
  (catchReturn.all script).findSomeM? fun found => do
    let head ← slice script 0 (byteLength (script.take found.start))
    let fitting := apart 0 (starts.filter fun start => start.value.2 = found.value)
    return (lastBefore? fitting head.length).map fun definition => ⟨definition.value.1, none⟩

def nameAttempts : TokenKind → List (Text → Checked (Option NameUse))
  | .signature => [fun script => .ok (nameByDecodedCall script), fun script => .ok (nameBySplitJoinBody script),
      fun script => .ok (nameBySplitPrologue script)]
  | .throttle => [fun script => .ok (nameByCallSite script), nameByMarker .markedReturn, nameByCatchReturn,
      nameByMarker .guard]

-- The name of the function that transforms tokens of a kind.
def functionName? (kind : TokenKind) (script : Text) : Checked (Option Text) := do
  return (← (nameAttempts kind).findSomeM? fun attempt => attempt script).map (·.resolve script)

-- The code of the helpers that come before a transform.
def helpers (kind : TokenKind) (function : Function) (script : Text) : Checked (List Text) :=
  match kind with
  | .signature => do
    let found ← dependencies function script
    return (found.filter fun helper => some helper.name != (lookup? script).map (·.name)).map (·.code)
  | .throttle => return []

-- The transform of a kind.
def transform? (kind : TokenKind) (script : Text) : Checked (Except ExtractionError Transform) := do
  match ← functionName? kind script with
  | none => return .error (.missingName kind)
  | some word =>
    match ← function? word script with
    | none => return .error (.missingCode kind)
    | some function =>
      match ← functionCode? word script with
      | none => return .error (.missingCode kind)
      | some source => return .ok ⟨word, Text.join ['\n'] ((← helpers kind function script) ++ [source]), function.body⟩

end definitions

section names
variable {α β γ : Type} {starts : List (Match Text)} {script : Text} {landmark : Nat}

-- The first result that is found, where each attempt gives one without a fault.
theorem findSomeM?_ok {items : List α} {others : List γ} {attempt : α → Checked (Option β)} {result : γ → Option β}
    (each : List.Forall₂ (fun item other => attempt item = .ok (result other)) items others) :
    items.findSomeM? attempt = .ok (others.findSome? result) := by
  induction each with
  | nil => rfl
  | @cons item other items others here later ih =>
    rw [List.findSomeM?, here, ok_bind, List.findSome?_cons]
    cases result other with
    | none => exact ih
    | some value => rfl

theorem slice_head (within : landmark ≤ script.length) :
    slice script 0 (byteLength (script.take landmark)) = .ok (script.take landmark) ∧
      (script.take landmark).length = landmark := by
  have upTo := slice_upTo (script.take landmark) (script.drop landmark)
  rw [List.take_append_drop] at upTo
  exact ⟨upTo, List.length_take_of_le within⟩

-- The definition stands before the landmark, so its end is a place of the part before the landmark.
theorem enclosingName_eq (inside : ∀ start ∈ starts, start.stop.Inside script) (within : landmark ≤ script.length) :
    enclosingName starts script landmark = .ok (Script.enclosingName starts landmark) := by
  obtain ⟨cutOut, length⟩ := slice_head within
  simp only [enclosingName, cutOut, length, ok_bind, Script.enclosingName]
  cases last : lastBefore? starts landmark with
  | none => rfl
  | some found =>
    obtain ⟨present, before⟩ := List.mem_filter.mp (List.mem_of_getLast? last)
    obtain ⟨front, rest, rfl, stop⟩ := inside found present
    have offset : found.stop.offset = front.length := by rw [stop]; rfl
    have head : (front ++ rest).take landmark = front ++ rest.take (landmark - front.length) := by
      have ordered : front.length ≤ landmark := by simpa [offset] using before
      rw [List.take_append, List.take_of_length_le ordered]
    simp only [head, stop, byteOffset_after, slice_from, ok_bind, Cursor.after_rest]
    rfl

theorem nameByMarker_eq (attempt : Attempt) (script : Text) :
    nameByMarker attempt script = .ok (attempt.name? script) := by
  rw [Attempt.name?_eq]
  refine findSomeM?_ok (List.forall₂_same.mpr fun found kept => enclosingName_eq ?_ ?_)
  · intro start known
    obtain ⟨before, head, after, _, rfl, -, -, stop⟩ := attempt.exists_start known
    exact ⟨before ++ head, after, (List.append_assoc before head after).symm, stop⟩
  · obtain ⟨before, marker, after, rfl, -, start⟩ := attempt.exists_marker kept
    rw [start, List.length_append]
    exact Nat.le_add_right _ _

theorem nameByCatchReturn_eq (script : Text) : nameByCatchReturn script = .ok (Script.nameByCatchReturn script) := by
  refine findSomeM?_ok (List.forall₂_same.mpr fun found kept => ?_)
  have within : found.start ≤ script.length := by
    obtain ⟨passed, tail, rfl, start, -⟩ := way_of_mem_everywhere (mem_all_iff.mp kept).1
    rw [start, List.length_append]
    exact Nat.le_add_right _ _
  obtain ⟨cutOut, length⟩ := slice_head within
  rw [cutOut, ok_bind, length]
  rfl

theorem functionName?_eq (kind : TokenKind) (script : Text) :
    functionName? kind script = .ok (Script.functionName? kind script) := by
  have attempts : List.Forall₂ (fun attempt other => attempt script = .ok (other script)) (nameAttempts kind)
      (Script.nameAttempts kind) := by
    cases kind with
    | signature => exact .cons rfl (.cons rfl (.cons rfl .nil))
    | throttle =>
      exact .cons rfl (.cons (nameByMarker_eq .markedReturn script) (.cons (nameByCatchReturn_eq script)
        (.cons (nameByMarker_eq .guard script) .nil)))
  rw [functionName?, findSomeM?_ok attempts]
  rfl

theorem transform?_eq (kind : TokenKind) (script : Text) :
    transform? kind script = .ok (Script.transform? kind script) := by
  rw [transform?, functionName?_eq, ok_bind, Script.transform?]
  cases Script.functionName? kind script with
  | none => rfl
  | some word =>
    simp only [function?_eq, functionCode?_eq, Script.functionCode?, ok_bind]
    cases Script.function? word script with
    | none => rfl
    | some function =>
      cases kind with
      | signature =>
        simp only [Option.map_some, helpers, dependencies_eq, ok_bind]
        rfl
      | throttle => rfl

end names
end StreamLinks.Bytewise
