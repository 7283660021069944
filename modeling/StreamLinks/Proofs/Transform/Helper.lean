import StreamLinks.Proofs.Script.Landmarks
import StreamLinks.Proofs.Search.Found
/-!
The helpers of a simple script: what is read as the operation of a helper is what it was written for.

The object is cut out up to its own closing brace, since every definition in it closes the brace that
it opens. In it each colon belongs to a definition, so a name is found where it is defined, and nowhere
else as long as the names differ.
-/
namespace StreamLinks

namespace Transform

theorem untilClosed_plain {text : Text} (plain : '{' ∉ text ∧ '}' ∉ text) (depth : Nat)
    (rest : Text) : untilClosed depth (text ++ rest) = (untilClosed depth rest).map (text ++ ·) := by
  induction text with
  | nil => simp
  | cons c text ih =>
    simp only [List.mem_cons, not_or] at plain
    obtain ⟨⟨opening, noOpening⟩, closing, noClosing⟩ := plain
    have later := ih ⟨noOpening, noClosing⟩
    rw [List.cons_append, untilClosed, if_neg (Ne.symm opening), if_neg (Ne.symm closing), later,
      Option.map_map]
    rfl

-- A closed pair of braces leaves the depth as it was.
theorem untilClosed_braces {body : Text} (plain : '{' ∉ body ∧ '}' ∉ body) (depth : Nat)
    (rest : Text) : untilClosed (depth + 1) ("\x7b".toList ++ (body ++ ("\x7d".toList ++ rest))) =
      (untilClosed (depth + 1) rest).map (("\x7b".toList ++ (body ++ "\x7d".toList)) ++ ·) := by
  have opened : untilClosed (depth + 1) ("\x7b".toList ++ (body ++ ("\x7d".toList ++ rest))) =
      (untilClosed (depth + 2) (body ++ ("\x7d".toList ++ rest))).map ('{' :: ·) := by
    show untilClosed (depth + 1) ('{' :: (body ++ ("\x7d".toList ++ rest))) = _
    rw [untilClosed, if_pos rfl]
  have closed : untilClosed (depth + 2) ("\x7d".toList ++ rest) =
      (untilClosed (depth + 1) rest).map ('}' :: ·) := by
    show untilClosed (depth + 2) ('}' :: rest) = _
    simp [untilClosed]
  rw [opened, untilClosed_plain plain, closed, Option.map_map, Option.map_map]
  congr 1
  funext text
  simp

-- The parameters and the body end where they are closed first.
theorem Operation.parameters_open (operation : Operation) :
    ∀ c ∈ operation.parameters, (c != ')') = true :=
  List.all_eq_true.mp (by cases operation <;> rfl)

theorem Operation.body_open (operation : Operation) : ∀ c ∈ operation.body, (c != '}') = true :=
  List.all_eq_true.mp (by cases operation <;> rfl)

theorem operationOf?_body (operation : Operation) : operationOf? operation.body = some operation := by
  cases operation <;> rfl

end Transform

namespace SimpleScript
open Script Transform Pattern

variable (simple : SimpleScript) (steps : List (Operation × Nat))

theorem untilClosed_definition (operation : Operation) (rest : Text) :
    untilClosed 1 (simple.definition operation ++ rest) =
      (untilClosed 1 rest).map (simple.definition operation ++ ·) := by
  have name : '{' ∉ (simple.helper operation).text ∧ '}' ∉ (simple.helper operation).text := by
    refine ⟨?_, ?_⟩
    · intro present
      cases (simple.helper operation).plain _ present
    · intro present
      cases (simple.helper operation).plain _ present
  have parameters : '{' ∉ operation.parameters ∧ '}' ∉ operation.parameters := by
    cases operation <;> decide
  have body : '{' ∉ operation.body ∧ '}' ∉ operation.body := by cases operation <;> decide
  rw [definition_eq]
  simp only [List.append_assoc]
  rw [untilClosed_plain name, untilClosed_plain (by decide), untilClosed_plain (by decide),
    untilClosed_plain (by decide), untilClosed_plain parameters, untilClosed_plain (by decide),
    untilClosed_braces body]
  simp only [Option.map_map, Function.comp_def, List.append_assoc]

theorem untilClosed_helpers (rest : Text) :
    untilClosed 1 (simple.helpers ++ ("\x7d;".toList ++ rest)) = some simple.helpers := by
  have closed : untilClosed 1 ("\x7d;".toList ++ rest) = some [] := rfl
  unfold helpers
  simp only [List.append_assoc]
  rw [untilClosed_definition, untilClosed_plain (by decide), untilClosed_definition,
    untilClosed_plain (by decide), untilClosed_definition, closed]
  simp only [Option.map_some, List.append_nil]

-- What looks like the start of the object is the one in the object line.
theorem objectStart_rest {passed tail : Text} (split : simple.script steps = passed ++ tail)
    {value : Unit} {stop : Cursor}
    (found : (value, stop) ∈ objectStart simple.object.text (.after passed tail)) :
    ∃ more, stop.rest = simple.helpers ++ ("\x7d;".toList ++ more) := by
  simp only [objectStart, bareStart_then, declarator_then, text_then, blanks_then, literal_then,
    mem_literal] at found
  obtain ⟨opening, _, rfl, -, keyword, space, _, rfl, -, -, -, _, rfl, found⟩ := found
  obtain ⟨gap, _, spans, behind, rfl, gapBehind, _, spansBehind, rest, rfl, same⟩ := found
  have parted : simple.script steps =
      (passed ++ (opening ++ (keyword ++ (space ++ (simple.object.text ++ gap))))) ++ '=' :: behind := by
    rw [split, spans.split]
    simp only [List.append_assoc]
    rfl
  have assignment := simple.around_equals steps _ '=' _ parted rfl
  have brace := assignment.no_gap spansBehind
  obtain rfl : stop = _ := (Prod.mk.inj same).2
  rw [Cursor.after_rest]
  cases assignment with
  | inside first => rcases first with rfl | rfl <;> simp at brace
  | @object more => exact ⟨more, List.append_cancel_left brace⟩
  | function => simp at brace
  | member => simp at brace
  | call =>
    obtain ⟨c, name, named⟩ := List.exists_cons_of_ne_nil simple.function.filled
    have plain := simple.function.plain c (by simp [named])
    rw [named] at brace
    obtain rfl : '{' = c := (List.cons.inj brace).1
    cases plain

theorem exists_objectStart : ∃ passed tail, simple.script steps = passed ++ tail ∧ tail ≠ [] ∧
    ∃ way, way ∈ objectStart simple.object.text (.after passed tail) := by
  have split : simple.script steps = [] ++ ([] ++ ("var".toList ++ " ".toList ++
      (simple.object.text ++ ("=".toList ++ ("\x7b".toList ++ (simple.helpers ++ ("\x7d;".toList ++
        ("\n".toList ++ (simple.functionLine steps ++ simple.callLine))))))))) := by
    unfold script
    rw [objectLine_eq]
    simp only [List.append_assoc, List.nil_append]
  refine ⟨_, _, split, by simp, ?_⟩
  simp only [objectStart, bareStart_then, declarator_then, text_then, blanks_then, literal_then,
    mem_literal]
  exact ⟨_, [], _, rfl, .inl ⟨rfl, rfl⟩, "var".toList, " ".toList, _, rfl, by decide,
    List.all_eq_true.mp rfl, by decide, _, rfl, [], _, .empty rfl _, _, rfl, [], _, .empty rfl _, _,
    rfl, rfl⟩

theorem objectText?_eq :
    objectText? simple.object.text (simple.script steps) = some simple.helpers := by
  obtain ⟨passed, tail, split, filled, way, present⟩ := simple.exists_objectStart steps
  obtain ⟨found, first, more, rest⟩ := first?_of_way
    (fun _ _ split _ _ => simple.objectStart_rest steps split) split filled present
  rw [objectText?, first, Option.bind_some, rest, untilClosed_helpers]

-- A helper's name with a colon behind it stands where the helper is defined.
theorem defined_behind {operation : Operation} {passed opening gap after behind : Text}
    (split : simple.helpers = passed ++ (opening ++ ((simple.helper operation).text ++ after)))
    (opens : Opens isNameChar passed opening)
    (spans : Spans Text.isBlank gap (":".toList ++ behind) after) :
    ∃ rest, behind = "function".toList ++ ("(".toList ++ (operation.parameters ++ (")".toList ++
      ("\x7b".toList ++ (operation.body ++ ("\x7d".toList ++ rest)))))) := by
  have parted : simple.helpers =
      (passed ++ (opening ++ ((simple.helper operation).text ++ gap))) ++ ':' :: behind := by
    rw [split, spans.split]
    simp only [List.append_assoc]
    rfl
  obtain ⟨other, front, rest, ends, bounded, defined⟩ := simple.around_colons _ ':' _ parted rfl
  obtain rfl : gap = [] := by
    rcases List.eq_nil_or_concat gap with rfl | ⟨before, c, rfl⟩
    · rfl
    · have lasts := congrArg List.getLast? ends
      have last : (simple.helper other).text.getLast? = some c := by
        simpa [List.getLast?_append, (simple.helper other).filled] using lasts.symm
      have blank := spans.inside c (by simp)
      rw [isBlank_of_isNameChar ((simple.helper other).plain c (List.mem_of_getLast? last))] at blank
      cases blank
  obtain ⟨-, names⟩ := Spans.unique_end (by rw [← ends, List.append_nil, List.append_assoc])
    (simple.helper operation).plain opens.getLast? (simple.helper other).plain bounded
  obtain rfl := simple.distinct names
  exact ⟨rest, (List.cons.inj defined).2⟩

theorem helperDefinition_value {operation : Operation} {passed tail : Text}
    (split : simple.helpers = passed ++ tail) {value : Text} {stop : Cursor} (found :
      (value, stop) ∈ helperDefinition (simple.helper operation).text (.after passed tail)) :
    value = operation.body := by
  simp only [helperDefinition, nameStart_then, text_then, blanks_then, literal_then, every_then,
    taken_every_then, mem_pure] at found
  obtain ⟨opening, _, rfl, opens, _, rfl, gap, _, spans, behind, rfl, found⟩ := found
  obtain ⟨_, _, spansWord, _, rfl, _, _, spansOpening, _, rfl, found⟩ := found
  obtain ⟨_, _, spansParameters, _, rfl, _, _, spansBrace, _, rfl, found⟩ := found
  obtain ⟨body, _, spansBody, _, rfl, same⟩ := found
  obtain rfl : value = body := (Prod.mk.inj same).1
  obtain ⟨rest, rfl⟩ := simple.defined_behind split opens spans
  obtain rfl := List.append_cancel_left (spansWord.read_mark rfl)
  obtain rfl := List.append_cancel_left (spansOpening.read_mark rfl)
  obtain rfl := List.append_cancel_left (spansParameters.read operation.parameters_open rfl).2
  obtain rfl := List.append_cancel_left (spansBrace.read_mark rfl)
  exact (spansBody.read operation.body_open rfl).1

theorem exists_definition (operation : Operation) : ∃ passed opening rest,
    simple.helpers = passed ++ (opening ++ (simple.definition operation ++ rest)) ∧
      Opens isNameChar passed opening := by
  have comma (passed : Text) : Opens isNameChar passed ",".toList := .inr ⟨',', rfl, rfl⟩
  unfold helpers
  simp only [List.append_assoc]
  cases operation with
  | swap => exact ⟨[], [], _, rfl, .inl ⟨rfl, rfl⟩⟩
  | splice => exact ⟨simple.definition .swap, ",".toList, _, rfl, comma _⟩
  | reverse =>
    refine ⟨simple.definition .swap ++ (",".toList ++ simple.definition .splice), ",".toList, [], ?_,
      comma _⟩
    simp only [List.append_assoc, List.append_nil]

theorem exists_helperDefinition (operation : Operation) : ∃ passed tail,
    simple.helpers = passed ++ tail ∧ tail ≠ [] ∧
      ∃ way, way ∈ helperDefinition (simple.helper operation).text (.after passed tail) := by
  obtain ⟨passed, opening, rest, split, opens⟩ := simple.exists_definition operation
  refine ⟨passed, _, split, ?_, ?_⟩
  · simp [definition, (simple.helper operation).filled]
  · rw [definition_eq]
    simp only [List.append_assoc, helperDefinition, nameStart_then, text_then, blanks_then,
      literal_then, every_then, taken_every_then, mem_pure]
    exact ⟨_, opening, _, rfl, opens, _, rfl, [], _, .empty rfl _, _, rfl,
      [], _, .empty rfl _, _, rfl, [], _, .empty rfl _, _, rfl,
      operation.parameters, _, .of_mark operation.parameters_open rfl _, _, rfl,
      [], _, .empty rfl _, _, rfl, operation.body, _, .of_mark operation.body_open rfl _, _, rfl, rfl⟩

theorem operation?_eq (operation : Operation) :
    operation? simple.object.text (simple.helper operation).text (simple.script steps) =
      some operation := by
  obtain ⟨passed, tail, split, filled, way, present⟩ := simple.exists_helperDefinition operation
  obtain ⟨found, first, value⟩ := first?_of_way
    (fun _ _ split _ _ => simple.helperDefinition_value split) split filled present
  simp only [operation?, helperBody?, objectText?_eq, Option.bind_some, first, Option.some_or,
    Option.map_some, value, operationOf?_body]

end SimpleScript
end StreamLinks
