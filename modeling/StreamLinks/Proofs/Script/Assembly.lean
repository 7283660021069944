import StreamLinks.Proofs.Script.Dependencies
import StreamLinks.Proofs.Text.Cutting
import StreamLinks.Script.Transform
/-!
The source of a transform as a row of declarations.

The function comes last and the lookup variable, if there is one, right before it. The helpers of a
signature's transform come first, so a helper that reads the lookup variable reads it before it is assigned.
The source of the other kind has no helpers but the lookup variable.
-/
namespace StreamLinks.Text
variable {mark piece : Text} {front pieces : List Text}

-- A last piece that is joined itself adds its own pieces.
theorem join_join (mark : Text) (front : List Text) (more : pieces ≠ []) :
    join mark (front ++ [join mark pieces]) = join mark (front ++ pieces) := by
  induction front with
  | nil => rfl
  | cons first front ih =>
    rw [List.cons_append, List.cons_append, join_cons mark first (by simp), join_cons mark first (by simp [more]), ih]

end StreamLinks.Text

namespace StreamLinks.Script

section parts
variable {kind : TokenKind} {script : Text} {transform : Transform} {function : Function} {lookup : Lookup}
  {helper : Dependency}

def Lookup.part (lookup : Lookup) : Dependency := ⟨lookup.name, lookup.code ++ [';']⟩

def Function.part (function : Function) : Dependency := ⟨function.name, dropGuards function.declaration⟩

-- The helpers that are declared ahead of the lookup variable.
def leadingParts (kind : TokenKind) (function : Function) (script : Text) : List Dependency :=
  match kind with
  | .signature => (dependencies function script).filter fun helper =>
      some helper.name != (lookup? script).map (·.name)
  | .throttle => []

def closingParts (function : Function) (script : Text) : List Dependency :=
  (lookup? script).toList.map Lookup.part ++ [function.part]

def sourceParts (kind : TokenKind) (function : Function) (script : Text) : List Dependency :=
  leadingParts kind function script ++ closingParts function script

theorem runnableCode_parts (function : Function) (script : Text) :
    runnableCode function script = Text.join ['\n'] ((closingParts function script).map (·.code)) := by
  simp only [runnableCode, closingParts, Lookup.part, Function.part, List.map_append, List.map_map, Function.comp_def,
    List.map_cons, List.map_nil]

-- The source of a located function is its parts line by line.
theorem transform?_of_function {word : Text} (named : functionName? kind script = some word)
    (located : function? word script = some function) : transform? kind script =
      .ok ⟨word, Text.join ['\n'] ((sourceParts kind function script).map (·.code)), function.body⟩ := by
  have more : (closingParts function script).map (·.code) ≠ [] := by simp [closingParts]
  rw [sourceParts, List.map_append, ← Text.join_join _ _ more, ← runnableCode_parts]
  simp only [transform?, named, located]
  cases kind <;> rfl

theorem transform?_parts (found : transform? kind script = .ok transform) :
    ∃ function, function? transform.name script = some function ∧ transform.body = function.body ∧
      transform.code = Text.join ['\n'] ((sourceParts kind function script).map (·.code)) := by
  cases named : functionName? kind script with
  | none =>
    simp only [transform?, named] at found
    cases found
  | some word =>
    cases located : function? word script with
    | none =>
      simp only [transform?, named, located] at found
      cases found
    | some function =>
      rw [transform?_of_function named located] at found
      obtain rfl := Except.ok.inj found
      dsimp only
      exact ⟨function, located, rfl, rfl⟩

theorem name_ne_of_mem (present : helper ∈ dependencies function script) : helper.name ≠ function.name := by
  have listed : helper.name ∈ (dependencies function script).map (·.name) := List.mem_map_of_mem present
  rw [names_dependencies, List.mem_filter] at listed
  obtain ⟨word, named, -, foreign⟩ := mem_freeNames.mp listed.1
  rw [named]
  exact foreign.notItself

theorem mem_leadingParts (looked : lookup? script = some lookup) : helper ∈ leadingParts .signature function script ↔
    helper ∈ dependencies function script ∧ helper.name ≠ lookup.name := by
  simp [leadingParts, looked]

theorem closingParts_eq (looked : lookup? script = some lookup) :
    closingParts function script = [lookup.part, function.part] := by
  simp [closingParts, looked]

end parts

section order
variable {script : Text} {transform : Transform} {function : Function} {lookup : Lookup} {helper : Dependency}

-- The word stands in the text as a name of its own.
def Mentions (word text : Text) : Prop := ∃ before after, text = before ++ (word ++ after) ∧
  (∀ c ∈ before.getLast?, isNameChar c = false) ∧ ∀ c ∈ after.head?, isNameChar c = false

-- The helper is not the lookup variable, and its declaration mentions it.
structure Reads (lookup : Lookup) (function : Function) (script : Text) (helper : Dependency) : Prop where
  needed : helper ∈ dependencies function script
  other : helper.name ≠ lookup.name
  mentions : Mentions lookup.name helper.code

-- A helper stands ahead of the lookup variable, and so never behind it.
theorem leading_before_lookup (looked : lookup? script = some lookup) (present : helper ∈ dependencies function script)
    (other : helper.name ≠ lookup.name) :
    [helper, lookup.part].Sublist (sourceParts .signature function script) ∧
      ¬ [lookup.part, helper].Sublist (sourceParts .signature function script) := by
  rw [sourceParts, closingParts_eq looked]
  constructor
  · have leading := List.singleton_sublist.mpr ((mem_leadingParts looked).mpr ⟨present, other⟩)
    exact leading.append (List.singleton_sublist.mpr List.mem_cons_self)
  · intro behind
    obtain ⟨front, back, split, leading, closing⟩ := List.sublist_append_iff.mp behind
    cases front with
    | nil =>
      -- Both would be closing parts, the helper the function itself.
      obtain rfl : [lookup.part, helper] = back := split
      have same := closing.eq_of_length rfl
      have named : helper.name = function.name := congrArg Dependency.name (List.cons.inj (List.cons.inj same).2).1
      exact name_ne_of_mem present named
    | cons first front =>
      obtain rfl : lookup.part = first := (List.cons.inj split).1
      exact ((mem_leadingParts looked).mp (leading.subset List.mem_cons_self)).2 rfl

-- The lookup variable is declared ahead of the function, and behind all other helpers. So it is declared ahead
-- of what reads it exactly when no helper reads it.
theorem lookup_first_iff (found : transform? .signature script = .ok transform)
    (looked : lookup? script = some lookup) : ∃ function, function? transform.name script = some function ∧
      transform.code = Text.join ['\n'] ((sourceParts .signature function script).map (·.code)) ∧
      [lookup.part, function.part].Sublist (sourceParts .signature function script) ∧
      (∀ helper ∈ dependencies function script, helper.name ≠ lookup.name →
        [helper, lookup.part].Sublist (sourceParts .signature function script)) ∧
      ((∀ helper, Reads lookup function script helper →
          [lookup.part, helper].Sublist (sourceParts .signature function script)) ↔
        ∀ helper, ¬ Reads lookup function script helper) := by
  obtain ⟨function, located, -, code⟩ := transform?_parts found
  refine ⟨function, located, code, ?_, ?_, ?_, ?_⟩
  · rw [sourceParts, closingParts_eq looked]
    exact List.sublist_append_right _ _
  · intro helper present other
    exact (leading_before_lookup looked present other).1
  · intro ahead helper reads
    exact (leading_before_lookup looked reads.needed reads.other).2 (ahead helper reads)
  · intro none helper reads
    exact absurd reads (none helper)

section tables

-- A table that takes its word from the lookup variable.
def tableScript : Text :=
  ("\"use strict\";var V=\"a;b\".split(\";\");var T=[V[0]];Rt=function(a)\x7breturn T.join(a)\x7d;" ++
    "c&&(c=Rt(decodeURIComponent(c)));").toList

def tableLookup : Lookup := ⟨"V".toList, "var V=\"a;b\".split(\";\")".toList⟩

def table : Dependency := ⟨"T".toList, "var T=[V[0]];".toList⟩

def tableFunction : Function :=
  ⟨"Rt".toList, ["a".toList], "return T.join(a)".toList, "var Rt=function(a)\x7breturn T.join(a)\x7d;".toList⟩

def tableTransform : Transform :=
  ⟨"Rt".toList, "var T=[V[0]];\nvar V=\"a;b\".split(\";\");\nvar Rt=function(a)\x7breturn T.join(a)\x7d;".toList,
    "return T.join(a)".toList⟩

theorem tableScript_read : lookup? tableScript = some tableLookup ∧
    functionName? .signature tableScript = some "Rt".toList ∧
    function? "Rt".toList tableScript = some tableFunction ∧ dependencies tableFunction tableScript = [table] := by
  have characters : tableScript = _ := Text.toList_append rfl rfl
  rw [characters]
  exact ⟨by decide, by decide, by decide, by decide⟩

theorem tableScript_parts :
    sourceParts .signature tableFunction tableScript = [table, tableLookup.part, tableFunction.part] := by
  obtain ⟨looked, -, -, needed⟩ := tableScript_read
  have other : (some table.name != some tableLookup.name) = true := by decide
  simp [sourceParts, leadingParts, needed, closingParts_eq looked, looked, other]

theorem tableScript_transform : transform? .signature tableScript = .ok tableTransform := by
  obtain ⟨-, named, located, -⟩ := tableScript_read
  rw [transform?_of_function named located, tableScript_parts]
  decide

theorem lookup_first_iff_table : transform? .signature tableScript = .ok tableTransform ∧
    lookup? tableScript = some tableLookup ∧
    ∃ function, function? tableTransform.name tableScript = some function ∧
      tableTransform.code = Text.join ['\n'] ((sourceParts .signature function tableScript).map (·.code)) ∧
      [tableLookup.part, function.part].Sublist (sourceParts .signature function tableScript) ∧
      (∀ helper ∈ dependencies function tableScript, helper.name ≠ tableLookup.name →
        [helper, tableLookup.part].Sublist (sourceParts .signature function tableScript)) ∧
      ((∀ helper, Reads tableLookup function tableScript helper →
          [tableLookup.part, helper].Sublist (sourceParts .signature function tableScript)) ↔
        ∀ helper, ¬ Reads tableLookup function tableScript helper) := by
  obtain ⟨looked, -⟩ := tableScript_read
  exact ⟨tableScript_transform, looked, lookup_first_iff tableScript_transform looked⟩

theorem table_before_lookup : transform? .signature tableScript = .ok tableTransform ∧
    lookup? tableScript = some tableLookup ∧ function? "Rt".toList tableScript = some tableFunction ∧
    Reads tableLookup tableFunction tableScript table ∧
    tableTransform.code = Text.join ['\n'] ((sourceParts .signature tableFunction tableScript).map (·.code)) ∧
    ¬ [tableLookup.part, table].Sublist (sourceParts .signature tableFunction tableScript) := by
  have mentions : Mentions tableLookup.name table.code := by
    refine ⟨"var T=[".toList, "[0]];".toList, rfl, ?_, ?_⟩
    · intro c present
      cases present
      rfl
    · intro c present
      cases present
      rfl
  obtain ⟨looked, -, located, needed⟩ := tableScript_read
  have present : table ∈ dependencies tableFunction tableScript := by simp [needed]
  rw [tableScript_parts]
  exact ⟨tableScript_transform, looked, located, ⟨present, by decide, mentions⟩,
    by decide, by decide⟩

end tables

end order

section carrying
variable {kind : TokenKind} {script : Text} {transform : Transform} {function : Function} {helper : Dependency}

section left

end left

end carrying
end StreamLinks.Script
