import StreamLinks.Challenge.Reply
/-!
The parts of a reply, as results and as errors: a reading accepts exactly the objects and arrays in which
they may be written.
-/
namespace StreamLinks

namespace Json

theorem fields_object (field : String) (given : List (Text × Value)) (value : Option Value) :
    fields [⟨field, false⟩] (.object given) = some [value] ↔
      members field.toList given = value.toList := by
  simp only [fields, List.mapM_cons, List.mapM_nil]
  cases members field.toList given with
  | nil => cases value <;> simp
  | cons first others => cases others <;> cases value <;> simp

theorem fields_array (field : String) (items : List Value) (value : Option Value) :
    fields [⟨field, false⟩] (.array items) = some [value] ↔ ∃ item, value = some item ∧ items = [item] := by
  obtain _ | ⟨item, _ | ⟨next, others⟩⟩ := items
  · simp [fields]
  · simp [fields, eq_comm]
  · simp [fields]

theorem members_filter {name other : Text} (different : name ≠ other) (given : List (Text × Value)) :
    members name (given.filter fun (key, _) => key != other) = members name given := by
  unfold members
  rw [List.filter_filter]
  congr 1
  apply List.filter_congr
  intro member present
  by_cases same : member.1 = name
  · simp [same, different]
  · simp [same]

end Json

namespace Part
variable {α : Type} {byPlace isResult : Bool} {field : String}
  {value content type rest : Json.Value} {read : Json.Value → Option α}

-- The types of a result and of an error: a name and a place in the list of the two.
def typeName : Bool → Text
  | true => "result".toList
  | false => "error".toList

def typePlace : Bool → Nat
  | true => 0
  | false => 1

-- A type is given by its name or, where places are allowed, by its place.
def Typed (byPlace isResult : Bool) (type : Json.Value) : Prop :=
  type = .string (typeName isResult) ∨ byPlace = true ∧ type = .number (.natural (typePlace isResult))

-- A part of a type with this content: an object in which both have one member, or an array of the two.
-- An object may have other members as well.
inductive Written (typed : Json.Value → Prop) (field : String) (content : Json.Value) :
    Json.Value → Prop where
  | object {type : Json.Value} {given : List (Text × Json.Value)}
      (tagged : Json.members tag given = [type]) (right : typed type)
      (filled : Json.members field.toList given = [content]) : Written typed field content (.object given)
  | array {type : Json.Value} (right : typed type) : Written typed field content (.array [type, content])

theorem Written.content_unique {typed : Json.Value → Prop} {content content' : Json.Value}
    (written : Written typed field content value) (written' : Written typed field content' value) :
    content = content' := by
  cases written with
  | object _ _ filled =>
    cases written' with
    | object _ _ filled' => exact List.singleton_inj.mp (filled.symm.trans filled')
  | array _ =>
    cases written' with
    | array _ => rfl

def IsResult (byPlace : Bool) : String → Json.Value → Json.Value → Prop :=
  Written (Typed byPlace true)

-- An error may come with a text.
inductive IsError (byPlace : Bool) : Option Text → Json.Value → Prop where
  | told {text : Text} {value : Json.Value}
      (written : Written (Typed byPlace false) "error" (.string text) value) :
      IsError byPlace (some text) value
  | untold {value : Json.Value} (written : Written (Typed byPlace false) "error" .null value) :
      IsError byPlace none value
  | silent {type : Json.Value} {given : List (Text × Json.Value)}
      (tagged : Json.members tag given = [type]) (right : Typed byPlace false type)
      (missing : Json.members "error".toList given = []) : IsError byPlace none (.object given)

theorem untag_eq_some : untag value = some (type, rest) ↔
    (∃ given, value = .object given ∧ Json.members tag given = [type] ∧
      rest = .object (given.filter fun (name, _) => name != tag)) ∨
    ∃ items, value = .array (type :: items) ∧ rest = .array items := by
  cases value with
  | object given =>
    simp only [untag]
    generalize tagged : Json.members tag given = types
    obtain _ | ⟨type, _ | ⟨next, others⟩⟩ := types
    · simp [tagged]
    · simp [tagged, eq_comm]
    · simp [tagged]
  | array items =>
    cases items with
    | nil => simp [untag]
    | cons first items =>
      constructor
      · intro same
        cases same
        exact .inr ⟨items, rfl, rfl⟩
      · rintro (⟨given, same, -⟩ | ⟨others, same, rfl⟩)
        · cases same
        · cases same
          rfl
  | _ => simp [untag]

-- The members of an object that are left are those that it had.
theorem fields_untagged (different : field.toList ≠ tag) {found : Option Json.Value} :
    (∃ type rest, untag value = some (type, rest) ∧ Typed byPlace isResult type ∧
      Json.fields [⟨field, false⟩] rest = some [found]) ↔
    (∃ content, found = some content ∧ Written (Typed byPlace isResult) field content value) ∨
      found = none ∧ ∃ type given, value = .object given ∧ Json.members tag given = [type] ∧
        Typed byPlace isResult type ∧ Json.members field.toList given = [] := by
  constructor
  · rintro ⟨type, rest, parted, right, filled⟩
    obtain ⟨given, rfl, tagged, rfl⟩ | ⟨items, rfl, rfl⟩ := untag_eq_some.mp parted
    · rw [Json.fields_object, Json.members_filter different] at filled
      cases found with
      | none => exact .inr ⟨rfl, type, given, rfl, tagged, right, filled⟩
      | some content => exact .inl ⟨content, rfl, .object tagged right filled⟩
    · obtain ⟨content, rfl, rfl⟩ := (Json.fields_array ..).mp filled
      exact .inl ⟨content, rfl, .array right⟩
  · rintro (⟨content, rfl, written⟩ | ⟨rfl, type, given, rfl, tagged, right, missing⟩)
    · cases written with
      | object tagged right filled =>
        refine ⟨_, _, untag_eq_some.mpr (.inl ⟨_, rfl, tagged, rfl⟩), right, ?_⟩
        rw [Json.fields_object, Json.members_filter different, filled]
        rfl
      | array right =>
        refine ⟨_, _, untag_eq_some.mpr (.inr ⟨_, rfl, rfl⟩), right, ?_⟩
        exact (Json.fields_array ..).mpr ⟨_, rfl, rfl⟩
    · refine ⟨_, _, untag_eq_some.mpr (.inl ⟨_, rfl, tagged, rfl⟩), right, ?_⟩
      rw [Json.fields_object, Json.members_filter different, missing]
      rfl

-- The type of a part in its two spellings, as a reading takes it.
def isResult? (byPlace : Bool) : Json.Value → Option Bool
  | .string name =>
    if name = "result".toList then some true else if name = "error".toList then some false else none
  | .number (.natural 0) => if byPlace then some true else none
  | .number (.natural 1) => if byPlace then some false else none
  | _ => none

theorem ofJson?_eq (byPlace : Bool) (field : String) (read : Json.Value → Option α)
    (value : Json.Value) :
    ofJson? byPlace field read value = (untag value).bind fun (type, rest) =>
      (isResult? byPlace type).bind fun isResult =>
        if isResult then
          (Json.fields [⟨field, false⟩] rest).bind fun found =>
            match found with
            | [value] => (Json.required read value).map .result
            | _ => none
        else
          (Json.fields [⟨"error", false⟩] rest).bind fun found =>
            match found with
            | [text] => (Json.optional Json.text? text).map .error
            | _ => none := by
  unfold ofJson?
  simp only [Option.bind_eq_bind, Option.pure_def, Option.map_eq_bind, Function.comp_def]
  congr 1
  funext parted
  obtain ⟨type, rest⟩ := parted
  cases type with
  | string name =>
    dsimp only [isResult?]
    by_cases result : name = "result".toList
    · rewrite [if_pos result, if_pos result]
      rfl
    · by_cases error : name = "error".toList
      · rewrite [if_neg result, if_pos error, if_neg result, if_pos error]
        rfl
      · rewrite [if_neg result, if_neg error, if_neg result, if_neg error]
        rfl
  | number number =>
    cases number with
    | natural place =>
      obtain _ | _ | place := place
      · cases byPlace <;> rfl
      · cases byPlace <;> rfl
      · rfl
    | _ => rfl
  | _ => rfl

theorem isResult?_string (name : Text) : isResult? byPlace (.string name) =
    if name = typeName true then some true else if name = typeName false then some false else none := rfl

theorem isResult?_eq_some : isResult? byPlace type = some isResult ↔ Typed byPlace isResult type := by
  have distinct : typeName true ≠ typeName false := by decide
  unfold Typed
  cases type with
  | string name =>
    rw [isResult?_string]
    by_cases result : name = typeName true
    · cases isResult <;> simp [result, distinct]
    · by_cases error : name = typeName false
      · cases isResult <;> simp [error, distinct.symm]
      · cases isResult <;> simp [result, error]
  | number number =>
    cases number with
    | natural place =>
      obtain _ | _ | place := place
      all_goals cases isResult <;> simp [isResult?, typePlace]
    | _ => simp [isResult?]
  | _ => simp [isResult?]

theorem bind_fields_eq_some {field : String} {use : Option Json.Value → Option (Part α)} {part : Part α} :
    ((Json.fields [⟨field, false⟩] rest).bind fun found =>
      match found with
      | [value] => use value
      | _ => none) = some part ↔
    ∃ found, Json.fields [⟨field, false⟩] rest = some [found] ∧ use found = some part := by
  cases Json.fields [⟨field, false⟩] rest with
  | none => simp
  | some found =>
    obtain _ | ⟨value, _ | ⟨next, others⟩⟩ := found
    · simp
    · simp
    · simp

-- A reading succeeds in one of two ways, each told by the type.
theorem ofJson?_eq_some {part : Part α} : ofJson? byPlace field read value = some part ↔
    (∃ found, (∃ type rest, untag value = some (type, rest) ∧ Typed byPlace true type ∧
        Json.fields [⟨field, false⟩] rest = some [found]) ∧
      (Json.required read found).map .result = some part) ∨
    ∃ found, (∃ type rest, untag value = some (type, rest) ∧ Typed byPlace false type ∧
        Json.fields [⟨"error", false⟩] rest = some [found]) ∧
      (Json.optional Json.text? found).map .error = some part := by
  rw [ofJson?_eq]
  constructor
  · intro made
    obtain ⟨⟨type, rest⟩, parted, typing⟩ := Option.bind_eq_some_iff.mp made
    obtain ⟨isResult, typed, filling⟩ := Option.bind_eq_some_iff.mp typing
    cases isResult with
    | true =>
      obtain ⟨found, given, use⟩ := bind_fields_eq_some.mp filling
      exact .inl ⟨found, ⟨type, rest, parted, isResult?_eq_some.mp typed, given⟩, use⟩
    | false =>
      obtain ⟨found, given, use⟩ := bind_fields_eq_some.mp filling
      exact .inr ⟨found, ⟨type, rest, parted, isResult?_eq_some.mp typed, given⟩, use⟩
  · rintro (⟨found, ⟨type, rest, parted, typed, given⟩, use⟩ | ⟨found, ⟨type, rest, parted, typed, given⟩, use⟩)
    · refine Option.bind_eq_some_iff.mpr ⟨_, parted, ?_⟩
      exact Option.bind_eq_some_iff.mpr
        ⟨true, isResult?_eq_some.mpr typed, bind_fields_eq_some.mpr ⟨found, given, use⟩⟩
    · refine Option.bind_eq_some_iff.mpr ⟨_, parted, ?_⟩
      exact Option.bind_eq_some_iff.mpr
        ⟨false, isResult?_eq_some.mpr typed, bind_fields_eq_some.mpr ⟨found, given, use⟩⟩

theorem ofJson?_eq_result (different : field.toList ≠ tag) {x : α} :
    ofJson? byPlace field read value = some (.result x) ↔
      ∃ content, IsResult byPlace field content value ∧ read content = some x := by
  simp only [ofJson?_eq_some, fields_untagged different]
  constructor
  · rintro (⟨found, ⟨content, rfl, written⟩ | ⟨rfl, -⟩, use⟩ | ⟨found, -, use⟩)
    · exact ⟨content, written, by simpa [Json.required] using use⟩
    · cases use
    · simp at use
  · rintro ⟨content, written, right⟩
    exact .inl ⟨_, .inl ⟨content, rfl, written⟩, by simp [Json.required, right]⟩

-- An error's text, if it has one.
theorem optional_text? {content : Json.Value} {text : Option Text} :
    Json.optional Json.text? (some content) = some text ↔
      content = .null ∧ text = none ∨ ∃ told, content = .string told ∧ text = some told := by
  cases content <;> simp [Json.optional, Json.text?, eq_comm]

theorem ofJson?_eq_error {text : Option Text} :
    ofJson? byPlace field read value = some (.error text) ↔ IsError byPlace text value := by
  have different : "error".toList ≠ tag := by decide
  simp only [ofJson?_eq_some, fields_untagged different]
  constructor
  · rintro (⟨found, -, use⟩ | ⟨found, given, use⟩)
    · simp at use
    · obtain ⟨told, optional, same⟩ := Option.map_eq_some_iff.mp use
      cases same
      obtain ⟨content, rfl, written⟩ | ⟨rfl, type, members, rfl, tagged, right, missing⟩ := given
      · obtain ⟨rfl, rfl⟩ | ⟨text, rfl, rfl⟩ := optional_text?.mp optional
        · exact .untold written
        · exact .told written
      · cases optional
        exact .silent tagged right missing
  · intro error
    right
    cases error with
    | told written => exact ⟨_, .inl ⟨_, rfl, written⟩, rfl⟩
    | untold written => exact ⟨_, .inl ⟨_, rfl, written⟩, rfl⟩
    | silent tagged right missing => exact ⟨_, .inr ⟨rfl, _, _, rfl, tagged, right, missing⟩, rfl⟩

end Part

end StreamLinks
