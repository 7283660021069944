import StreamLinks.Proofs.Script.Dependencies
import StreamLinks.Proofs.Script.Pairing
import StreamLinks.Proofs.Search.Leftmost
import StreamLinks.Proofs.Text.Cutting
import StreamLinks.Proofs.Transform.Calls
/-!
The object in which a helper is looked up.

The object ends at a brace that is found by counting, and the braces in its literals count as well. Where the count
ends too early for the helper, or not at all, the helper is looked up anywhere in the script.
-/
namespace StreamLinks.Transform
open Script Pattern

section counting
variable {text cut : Text} {places : List (Nat × Char)}

-- All characters with their offsets, those in literals too.
def allPlaces : Text → List (Nat × Char)
  | [] => []
  | c :: rest => (0, c) :: (allPlaces rest).map fun place => (place.1 + 1, place.2)

theorem closingBrace_shift (depth : Nat) (places : List (Nat × Char)) :
    closingBrace depth (places.map fun place => (place.1 + 1, place.2)) =
      (closingBrace depth places).map (· + 1) := by
  induction places generalizing depth with
  | nil => rfl
  | cons place places ih =>
    simp only [List.map_cons, closingBrace, ih]
    split
    · rfl
    · split
      · split <;> rfl
      · rfl

-- The search in the text is the search for a closing brace over all its characters.
theorem untilClosed_eq (depth : Nat) (text : Text) :
    untilClosed depth text = (closingBrace depth (allPlaces text)).map (text.take ·) := by
  induction text generalizing depth with
  | nil => rfl
  | cons c rest ih =>
    have longer (found : Option Nat) :
        (found.map (rest.take ·)).map (c :: ·) = (found.map (· + 1)).map ((c :: rest).take ·) := by
      cases found <;> rfl
    simp only [untilClosed, allPlaces, closingBrace, closingBrace_shift, ih, longer]
    split
    · rfl
    · split
      · split <;> rfl
      · rfl

theorem map_allPlaces (text : Text) : (allPlaces text).map (·.2) = text := by
  induction text with
  | nil => rfl
  | cons c rest ih => simpa [allPlaces, Function.comp_def] using ih

theorem allPlaces_split {row behind : List (Nat × Char)} {offset : Nat} {c : Char}
    (split : allPlaces text = row ++ (offset, c) :: behind) : offset = row.length := by
  induction text generalizing row offset behind with
  | nil => simp [allPlaces] at split
  | cons d rest ih =>
    cases row with
    | nil => exact (congrArg Prod.fst (List.cons.inj split).1).symm
    | cons first row =>
      obtain ⟨front, _, here, rfl, later⟩ := List.map_eq_append_iff.mp (List.cons.inj split).2
      obtain ⟨place, back, rfl, same, -⟩ := List.map_eq_cons_iff.mp later
      cases same
      rw [ih here, List.length_cons, List.length_map]

-- The text that is cut out ends at the first brace behind which no brace of it is left without its partner.
theorem untilClosed_iff : untilClosed 1 text = some cut ↔ ∃ after, text = cut ++ '}' :: after ∧ Paired cut := by
  rw [untilClosed_eq, Option.map_eq_some_iff]
  constructor
  · rintro ⟨offset, closes, rfl⟩
    obtain ⟨row, behind, split, paired⟩ := closingBrace_eq_some_iff.mp closes
    have whole : text = row.map (·.2) ++ '}' :: behind.map (·.2) := by
      rw [← map_allPlaces text, split, List.map_append, List.map_cons]
    have front : text.take offset = row.map (·.2) := by
      rw [allPlaces_split split, whole]
      exact List.take_left' (List.length_map _)
    exact ⟨behind.map (·.2), front ▸ whole, front ▸ paired⟩
  · rintro ⟨after, rfl, paired⟩
    obtain ⟨row, _, split, same, later⟩ := List.map_eq_append_iff.mp (map_allPlaces (cut ++ '}' :: after))
    obtain ⟨⟨offset, c⟩, behind, rfl, rfl, -⟩ := List.map_eq_cons_iff.mp later
    refine ⟨offset, closingBrace_eq_some_iff.mpr ⟨row, behind, split, same ▸ paired⟩, ?_⟩
    rw [allPlaces_split split]
    exact List.take_left' (by rw [← same, List.length_map])

end counting

section shapes

-- The declaration of an object up to its opening brace, and what follows the brace.
inductive ObjectText (word : Word) : (behind : Text) → Text → Prop where
  | mk {keyword gap gapName gapSign behind : Text} (known : keyword ∈ ["var".toList, "let".toList, "const".toList])
      (apart : Gap gap) (filled : gap ≠ []) (apartName : Gap gapName) (apartSign : Gap gapSign) :
      ObjectText word behind
        (keyword ++ gap ++ (word.text ++ (gapName ++ ("=".toList ++ (gapSign ++ ("\x7b".toList ++ behind))))))

-- A function under its name in an object. Its parameters end at the first bracket and its body at the first brace.
inductive HelperText (word : Word) : (body : Text) → Text → Prop where
  | mk {gapName gapSign gapWord params gapBrace body rest : Text} (apartName : Gap gapName) (apartSign : Gap gapSign)
      (apartWord : Gap gapWord) (unclosed : ∀ c ∈ params, (c != ')') = true) (apartBrace : Gap gapBrace)
      (plain : ∀ c ∈ body, (c != '}') = true) :
      HelperText word body (word.text ++ (gapName ++ (":".toList ++ (gapSign ++ ("function".toList ++
        (gapWord ++ ("(".toList ++ (params ++ (")".toList ++ (gapBrace ++ ("\x7b".toList ++
          (body ++ ("\x7d".toList ++ rest)))))))))))))

def objectHead (word : Text) : Pattern Unit := do
  declarator; text word; blanks; literal "="; blanks; literal "\x7b"

def helperHead (word : Text) : Pattern Text := do
  text word; blanks; literal ":"; blanks; literal "function"; blanks
  literal "("; every (· != ')'); literal ")"; blanks; literal "\x7b"
  let body ← taken (every (· != '}'))
  literal "\x7d"
  return body

variable {word : Word}

theorem runs_unique {cls : Char → Bool} {run other mark rest tail : Text} (inside : ∀ c ∈ run, cls c = true)
    (insideOther : ∀ c ∈ other, cls c = true) (outside : mark.head?.map cls = some false)
    (same : run ++ (mark ++ rest) = other ++ (mark ++ tail)) : run = other ∧ rest = tail := by
  have spans : Spans cls run (mark ++ rest) (other ++ (mark ++ tail)) := same ▸ .of_mark inside outside rest
  obtain ⟨runs, behind⟩ := spans.read insideOther outside
  exact ⟨runs, List.append_cancel_left behind⟩

theorem ObjectText.unique {value other text whole : Text} (here : ObjectText word value text)
    (there : ObjectText word other whole) (same : text = whole) : value = other := by
  obtain ⟨known, apart, filled, apartName, apartSign⟩ := here
  obtain ⟨knownThere, apartThere, filledThere, apartNameThere, apartSignThere⟩ := there
  have declaring := Declaring.keyword known apart filled
  obtain ⟨-, names⟩ := declaring.unique (.keyword knownThere apartThere filledThere) same
  obtain ⟨-, signs⟩ := runs_unique apartName apartNameThere rfl (List.append_cancel_left names)
  exact (runs_unique apartSign apartSignThere rfl signs).2

theorem ObjectText.opened {behind text : Text} (shape : ObjectText word behind text) :
    ∃ heading, text = heading ++ '{' :: behind := by
  obtain @⟨keyword, gap, gapName, gapSign, _, -, -, -, -, -⟩ := shape
  exact ⟨keyword ++ gap ++ (word.text ++ (gapName ++ ("=".toList ++ gapSign))), by simp⟩

theorem HelperText.unique {value other text whole : Text} (here : HelperText word value text)
    (there : HelperText word other whole) (same : text = whole) : value = other := by
  obtain ⟨apartName, apartSign, apartWord, unclosed, apartBrace, plain⟩ := here
  obtain ⟨apartNameThere, apartSignThere, apartWordThere, unclosedThere, apartBraceThere, plainThere⟩ := there
  obtain ⟨-, signs⟩ := runs_unique apartName apartNameThere rfl (List.append_cancel_left same)
  obtain ⟨-, words⟩ := runs_unique apartSign apartSignThere rfl signs
  obtain ⟨-, brackets⟩ := runs_unique apartWord apartWordThere rfl words
  obtain ⟨-, braces⟩ := runs_unique unclosed unclosedThere rfl brackets
  obtain ⟨-, bodies⟩ := runs_unique apartBrace apartBraceThere rfl braces
  exact (runs_unique plain plainThere rfl bodies).1

theorem objectHead_recognizes (word : Word) :
    Recognizes (objectHead word.text) (fun _ stop => stop.rest) (ObjectText word) where
  sound := by
    intro read rest value stop found
    simp only [objectHead, declarator_then, text_then, blanks_then, literal_then, mem_literal] at found
    obtain ⟨keyword, gap, _, rfl, known, apart, filled, _, rfl, gapName, _, spansName, _, rfl, gapSign, _, spansSign,
      tail, rfl, same⟩ := found
    obtain rfl : stop = _ := (Prod.mk.inj same).2
    rw [spansName.split, spansSign.split]
    exact .mk known apart (List.length_pos_iff.mp filled) spansName.inside spansSign.inside
  complete := by
    rintro read _ value ⟨known, apart, filled, apartName, apartSign⟩
    simp only [objectHead, declarator_then, text_then, blanks_then, literal_then, mem_literal]
    exact ⟨_, _, _, _, rfl, known, apart, List.length_pos_iff.mpr filled, _, rfl, _, _, .of_mark apartName rfl _, _,
      rfl, _, _, .of_mark apartSign rfl _, _, rfl, rfl⟩
  unique := fun here there => here.unique there rfl
  filled := by
    rintro value _ ⟨-, -, filled, -, -⟩
    simp [filled]

theorem helperHead_recognizes (word : Word) :
    Recognizes (helperHead word.text) (fun body _ => body) (HelperText word) where
  sound := by
    intro read rest value stop found
    simp only [helperHead, text_then, blanks_then, literal_then, every_then, taken_every_then, mem_pure] at found
    obtain ⟨_, rfl, gapName, _, spansName, _, rfl, gapSign, _, spansSign, _, rfl, gapWord, _, spansWord, _, rfl,
      params, _, spansParams, _, rfl, gapBrace, _, spansBrace, _, rfl, body, _, spansBody, rest, rfl, same⟩ := found
    obtain rfl : value = body := (Prod.mk.inj same).1
    rw [spansName.split, spansSign.split, spansWord.split, spansParams.split, spansBrace.split, spansBody.split]
    exact .mk spansName.inside spansSign.inside spansWord.inside spansParams.inside spansBrace.inside spansBody.inside
  complete := by
    rintro read _ value ⟨apartName, apartSign, apartWord, unclosed, apartBrace, plain⟩
    simp only [helperHead, text_then, blanks_then, literal_then, every_then, taken_every_then, mem_pure]
    exact ⟨_, _, rfl, _, _, .of_mark apartName rfl _, _, rfl, _, _, .of_mark apartSign rfl _, _, rfl,
      _, _, .of_mark apartWord rfl _, _, rfl, _, _, .of_mark unclosed rfl _, _, rfl,
      _, _, .of_mark apartBrace rfl _, _, rfl, _, _, .of_mark plain rfl _, _, rfl, rfl⟩
  unique := fun here there => here.unique there rfl
  filled := by
    rintro value _ ⟨-, -, -, -, -, -⟩
    simp [word.filled]

theorem objectStart_eq (word : Text) : objectStart word = boundary isPathChar >>= fun _ => objectHead word := rfl

theorem helperDefinition_eq (word : Text) :
    helperDefinition word = boundary isNameChar >>= fun _ => helperHead word := rfl

end shapes

section fronts
variable {word : Word} {text more front rest body : Text}

-- A mark that stands in a text stands there first where it stands first in a longer one.
theorem mark_in_front {mark : Char} (present : mark ∈ text) (absent : mark ∉ front)
    (split : text ++ more = front ++ mark :: rest) :
    ∃ tail, text = front ++ mark :: tail ∧ tail ++ more = rest := by
  cases first : Text.cut [mark] text with
  | none => exact absurd present (Text.cut_char_eq_none.mp first)
  | some parts =>
    obtain ⟨head, tail⟩ := parts
    have longer := Text.cut_append_right first more
    rw [split, Text.cut_piece absent] at longer
    cases longer
    exact ⟨tail, by simpa using Text.cut_append first, rfl⟩

theorem suffix_behind_mark {mark : Char} {other tail : Text} (absent : mark ∉ front)
    (split : other ++ mark :: tail = front ++ mark :: rest) : tail <:+ rest := by
  rcases List.append_eq_append_iff.mp split with ⟨between, rfl, same⟩ | ⟨between, rfl, same⟩
  · cases between with
    | nil => exact (List.cons.inj same).2 ▸ List.suffix_rfl
    | cons c between =>
      obtain ⟨rfl, -⟩ := List.cons.inj same
      exact absurd (by simp) absent
  · cases between with
    | nil => exact (List.cons.inj same).2 ▸ List.suffix_rfl
    | cons c between => exact ⟨between ++ [mark], by simp [(List.cons.inj same).2]⟩

-- A helper reaches from its name over the first closing bracket to the first closing brace behind it.
theorem HelperText.marks (here : HelperText word body text) : ∃ front back rest,
    text = front ++ ')' :: (back ++ '}' :: rest) ∧ ')' ∉ front ∧ '}' ∉ back ∧
      ∀ other, HelperText word body (front ++ ')' :: (back ++ '}' :: other)) := by
  obtain @⟨gapName, gapSign, gapWord, params, gapBrace, body, rest, apartName, apartSign, apartWord, unclosed,
    apartBrace, plain⟩ := here
  have noBracket {gap : Text} (apart : Gap gap) : ')' ∉ gap := not_mem_of_all apart rfl
  have whole (other : Text) :=
    @HelperText.mk word _ _ _ _ _ _ other apartName apartSign apartWord unclosed apartBrace plain
  refine ⟨word.text ++ (gapName ++ (":".toList ++ (gapSign ++ ("function".toList ++ (gapWord ++
    ("(".toList ++ params)))))), gapBrace ++ ("\x7b".toList ++ body), rest, ?_, ?_, ?_, ?_⟩
  · simp
  · simp only [List.mem_append, not_or]
    exact ⟨not_mem_of_all word.plain rfl, noBracket apartName, by decide, noBracket apartSign, by decide,
      noBracket apartWord, by decide, not_mem_of_all unclosed rfl⟩
  · simp only [List.mem_append, not_or]
    exact ⟨not_mem_of_all apartBrace rfl, by decide, not_mem_of_all plain rfl⟩
  · intro other
    simpa using whole other

-- A helper that begins before another one ends with it or before it, so it stands in every text that holds both.
theorem HelperText.in_front {known before : Text} (here : HelperText word body text)
    (longer : HelperText word known (before ++ text ++ more)) : HelperText word known (before ++ text) := by
  obtain ⟨front, back, rest, rfl, -, -, -⟩ := here.marks
  obtain ⟨head, tail, behind, split, noBracket, noBrace, shape⟩ := longer.marks
  obtain ⟨later, same, split⟩ := mark_in_front (by simp) noBracket split
  have inside : back ++ '}' :: rest <:+ later := suffix_behind_mark noBracket ((List.append_assoc _ _ _).trans same)
  obtain ⟨other, rfl, -⟩ := mark_in_front (inside.subset (by simp)) noBrace split
  rw [same]
  exact shape other

-- The first helper in the front of a text is the first one in the text.
theorem first_in_front (first : First isNameChar (HelperText word) text body) (more : Text) :
    First isNameChar (HelperText word) (text ++ more) body := by
  obtain ⟨before, here, rfl, bounded, shape, least⟩ := first
  obtain ⟨front, back, rest, rfl, -, -, same⟩ := shape.marks
  refine ⟨before, _, List.append_assoc _ _ _, bounded, by simpa using same (rest ++ more), ?_⟩
  intro other there known split boundedThere shapeThere
  refine Nat.le_of_not_lt fun shorter => ?_
  obtain ⟨between, rfl⟩ : other <+: before := by
    refine List.prefix_of_prefix_length_le ⟨there, split.symm⟩ ?_ (Nat.le_of_lt shorter)
    exact ⟨_, (List.append_assoc _ _ _).symm⟩
  rw [List.append_assoc, List.append_assoc, List.append_cancel_left_eq, ← List.append_assoc] at split
  rw [← split] at shapeThere
  have inside := shape.in_front shapeThere
  exact absurd shorter (Nat.not_lt_of_le (least _ _ _ (List.append_assoc _ _ _) boundedThere inside))

end fronts

section lookup
variable {object function : Word} {script text inside body cut : Text} {call : HelperCall} {value : Nat}

theorem first_object : ((objectStart object.text).first? script).map (·.stop.rest) = some text ↔
    First isPathChar (ObjectText object) script text := by
  rw [objectStart_eq]
  exact (objectHead_recognizes object).first_iff

theorem first_helper : ((helperDefinition function.text).first? text).map (·.value) = some body ↔
    First isNameChar (HelperText function) text body := by
  rw [helperDefinition_eq]
  exact (helperHead_recognizes function).first_iff

-- The text between the braces of an object of which `behind` follows the opening brace, with literals passed over.
def objectBody? (behind : Text) : Option Text :=
  (matchingBrace ('{' :: behind)).map fun offset => behind.take (offset - 1)

theorem objectBody?_eq (closes : objectBody? text = some inside) : ∃ after, text = inside ++ '}' :: after := by
  obtain ⟨offset, partner, rfl⟩ := Option.map_eq_some_iff.mp closes
  obtain ⟨body, after, rfl, rfl, -⟩ := exists_partners partner
  exact ⟨after, by simp⟩

-- The object holds the helper also where it is cut out by counting all braces.
def InCounted (function : Word) (text : Text) : Prop := ∃ cut after known,
  text = cut ++ '}' :: after ∧ Paired cut ∧ First isNameChar (HelperText function) cut known

theorem objectText?_counted (declared : First isPathChar (ObjectText object) script text) :
    objectText? object.text script = untilClosed 1 text := by
  obtain ⟨found, first, rfl⟩ := Option.map_eq_some_iff.mp (first_object.mpr declared)
  rw [objectText?, first, Option.bind_some]

-- Both counts cut out a front of the same text, so where both hold a helper they hold the same one first.
theorem helperBody?_counted (declared : First isPathChar (ObjectText object) script text) {after : Text}
    (split : text = inside ++ after) (defined : First isNameChar (HelperText function) inside body)
    (counted : InCounted function text) : helperBody? object.text function.text script = some body := by
  obtain ⟨cut, rest, known, same, paired, first⟩ := counted
  obtain rfl : known = body := by
    have here := first_in_front first ('}' :: rest)
    rw [← same, split] at here
    exact (helperHead_recognizes function).unique_first here (first_in_front defined after)
  have object : objectText? object.text script = some cut := by
    rw [objectText?_counted declared]
    exact untilClosed_iff.mpr ⟨rest, same, paired⟩
  obtain ⟨found, search, rfl⟩ := Option.map_eq_some_iff.mp (first_helper.mpr first)
  simp only [helperBody?, object, Option.bind_some, search, Option.some_or, Option.map_some]

theorem helperBody?_anywhere (declared : First isPathChar (ObjectText object) script text)
    (uncounted : ¬ InCounted function text) : helperBody? object.text function.text script =
      ((helperDefinition function.text).first? script).map (·.value) := by
  have missing : ((objectText? object.text script).bind fun inside =>
      (helperDefinition function.text).first? inside) = none := by
    rw [objectText?_counted declared, Option.bind_eq_none_iff]
    intro cut closed
    obtain ⟨after, split, paired⟩ := untilClosed_iff.mp closed
    refine Option.eq_none_iff_forall_ne_some.mpr fun found search => uncounted ?_
    exact ⟨cut, after, found.value, split, paired, first_helper.mp (by rw [search, Option.map_some])⟩
  simp only [helperBody?, missing, Option.none_or]

-- What an object holds stands in the script.
theorem exists_anywhere (declared : First isPathChar (ObjectText object) script text) {after : Text}
    (split : text = inside ++ after) (defined : First isNameChar (HelperText function) inside body) :
    ∃ known, First isNameChar (HelperText function) script known := by
  obtain ⟨before, _, rfl, -, shape, -⟩ := declared
  obtain ⟨heading, rfl⟩ := shape.opened
  obtain ⟨front, _, rfl, bounded, helper, -⟩ := defined
  obtain ⟨head, tail, rest, rfl, -, -, same⟩ := helper.marks
  have boundedThere : Bounded isNameChar (before ++ heading ++ '{' :: front) := bounded.behind rfl _
  rw [split]
  simpa using (helperHead_recognizes function).exists_first boundedThere (same (rest ++ after))

theorem classify_number (param : Word) (script : Text) (number : call.value? = some value) :
    classify (callsBody param [call]) script = (call.operation? script).map ([·.instruction value]) := by
  rw [classify_call, HelperCall.instruction?, number, Option.bind_some, Option.map_map]
  rfl

theorem instruction_injective (value : Nat) :
    Function.Injective fun operation : Operation => [operation.instruction value] := by
  intro operation other same
  cases operation <;> cases other <;> first | rfl | cases same

-- A call is decided by the first helper of its name in its object, unless the count of all braces loses the helper
-- and the first one in the script does something else. Nothing is lost where the braces in literals come in pairs.
theorem decided_iff (param : Word) (number : call.value? = some value)
    (declared : First isPathChar (ObjectText call.object) script text) (closes : objectBody? text = some inside)
    (defined : First isNameChar (HelperText call.function) inside body) :
    (classify (callsBody param [call]) script = (operationOf? body).map ([·.instruction value]) ↔
      InCounted call.function text ∨ ∃ known,
        First isNameChar (HelperText call.function) script known ∧ operationOf? known = operationOf? body) ∧
      (Paired inside →
        classify (callsBody param [call]) script = (operationOf? body).map ([·.instruction value])) := by
  obtain ⟨after, split⟩ := objectBody?_eq closes
  have decided : classify (callsBody param [call]) script = (operationOf? body).map ([·.instruction value]) ↔
      InCounted call.function text ∨ ∃ known,
        First isNameChar (HelperText call.function) script known ∧ operationOf? known = operationOf? body := by
    rw [classify_number param script number, (Option.map_injective (instruction_injective value)).eq_iff,
      HelperCall.operation?, Transform.operation?]
    by_cases counted : InCounted call.function text
    · rw [helperBody?_counted declared split defined counted, Option.bind_some]
      exact iff_of_true rfl (.inl counted)
    · obtain ⟨known, first⟩ := exists_anywhere declared split defined
      rw [helperBody?_anywhere declared counted, first_helper.mpr first, Option.bind_some, or_iff_right counted]
      constructor
      · exact fun same => ⟨known, first, same⟩
      · rintro ⟨other, firstOther, same⟩
        rwa [(helperHead_recognizes _).unique_first first firstOther]
  exact ⟨decided, fun paired => decided.mpr (.inl ⟨inside, after, body, split, paired, defined⟩)⟩

section literals

-- An object with a literal before its helper, and another object with a helper of the same name before it.
def literalObject (literal : Text) : Text :=
  "s:\"".toList ++ literal ++ "\",f:function(a)\x7ba.reverse()\x7d".toList

def literalTail (literal : Text) : Text := literalObject literal ++ "\x7d;".toList

def literalScript (literal : Text) : Text :=
  "var P=\x7bf:function(a,b)\x7ba.splice(0,b)\x7d\x7d;var O=\x7b".toList ++ literalTail literal

def throughO : HelperCall where
  object := ⟨['O'], List.cons_ne_nil _ _, List.all_eq_true.mp rfl⟩
  function := ⟨['f'], List.cons_ne_nil _ _, List.all_eq_true.mp rfl⟩
  numeral := some ['1']
  digits := by
    intro digits present
    cases present
    exact ⟨List.cons_ne_nil _ _, List.all_eq_true.mp rfl⟩

theorem decided_iff_pair : throughO.value? = some 1 ∧
    First isPathChar (ObjectText throughO.object) (literalScript ['{', '}']) (literalTail ['{', '}']) ∧
    objectBody? (literalTail ['{', '}']) = some (literalObject ['{', '}']) ∧
    First isNameChar (HelperText throughO.function) (literalObject ['{', '}']) "a.reverse()".toList ∧
    (classify (callsBody letterA [throughO]) (literalScript ['{', '}']) =
        (operationOf? "a.reverse()".toList).map ([·.instruction 1]) ↔
      InCounted throughO.function (literalTail ['{', '}']) ∨
        ∃ known, First isNameChar (HelperText throughO.function) (literalScript ['{', '}']) known ∧
          operationOf? known = operationOf? "a.reverse()".toList) ∧
      (Paired (literalObject ['{', '}']) → classify (callsBody letterA [throughO]) (literalScript ['{', '}']) =
        (operationOf? "a.reverse()".toList).map ([·.instruction 1])) := by
  have number : throughO.value? = some 1 := by decide
  have declared : First isPathChar (ObjectText throughO.object) (literalScript ['{', '}']) (literalTail ['{', '}']) :=
    first_object.mp (by decide)
  have closes : objectBody? (literalTail ['{', '}']) = some (literalObject ['{', '}']) := by decide
  have defined : First isNameChar (HelperText throughO.function) (literalObject ['{', '}']) "a.reverse()".toList :=
    first_helper.mp (by decide)
  exact ⟨number, declared, closes, defined, decided_iff letterA number declared closes defined⟩

theorem lost_behind_literal :
    First isPathChar (ObjectText throughO.object) (literalScript ['}']) (literalTail ['}']) ∧
    objectBody? (literalTail ['}']) = some (literalObject ['}']) ∧
    First isNameChar (HelperText throughO.function) (literalObject ['}']) "a.reverse()".toList ∧
    operationOf? "a.reverse()".toList = some .reverse ∧
    classify (callsBody letterA [throughO]) (literalScript ['}']) = some [.splice 1] := by
  have declared : First isPathChar (ObjectText throughO.object) (literalScript ['}']) (literalTail ['}']) :=
    first_object.mp (by decide)
  have closes : objectBody? (literalTail ['}']) = some (literalObject ['}']) := by decide
  have defined : First isNameChar (HelperText throughO.function) (literalObject ['}']) "a.reverse()".toList :=
    first_helper.mp (by decide)
  exact ⟨declared, closes, defined, rfl, by decide⟩

end literals

end lookup
end StreamLinks.Transform
