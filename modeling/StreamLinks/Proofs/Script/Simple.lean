import StreamLinks.Proofs.Text.Numeral
import StreamLinks.Proofs.Text.Places
import StreamLinks.Proofs.Transform.Statement
/-!
Simple scripts: an object of three helpers, a function that calls them one after the other, and a
place where the function is applied to a decoded signature.

What such a script means is the list of its steps. Its names may be any, so the lines are also told
piece by piece, cut where the patterns of the decoder cut them.
-/
namespace StreamLinks
open Script

namespace Transform

def Operation.parameters : Operation → Text
  | swap | splice => "a,b".toList
  | reverse => "a".toList

def Operation.body : Operation → Text
  | swap => "var c=a[0];a[0]=a[b%a.length];a[b%a.length]=c".toList
  | splice => "a.splice(0,b)".toList
  | reverse => "a.reverse()".toList

end Transform

open Transform

-- The names in a simple script. The helpers have a name each.
structure SimpleScript where
  function : Word
  object : Word
  helper : Operation → Word
  long : 2 ≤ function.text.length
  distinct : ∀ {one other}, (helper one).text = (helper other).text → one = other

namespace SimpleScript
variable (simple : SimpleScript) (steps : List (Operation × Nat))

def definition (operation : Operation) : Text :=
  (simple.helper operation).text ++ ":function(".toList ++ operation.parameters ++ ")\x7b".toList ++
    operation.body ++ "\x7d".toList

def helpers : Text :=
  simple.definition .swap ++ ",".toList ++ simple.definition .splice ++ ",".toList ++
    simple.definition .reverse

-- A step takes its argument along even where the operation has no use for it.
def call (step : Operation × Nat) : Text :=
  simple.object.text ++ ".".toList ++ (simple.helper step.1).text ++ "(a,".toList ++
    Text.ofNat step.2 ++ ");".toList

-- A call without its semicolon.
def statement (step : Operation × Nat) : Text :=
  simple.object.text ++ (".".toList ++ ((simple.helper step.1).text ++ ("(".toList ++ ("a".toList ++
    (",".toList ++ (Text.ofNat step.2 ++ ")".toList))))))

def body : Text :=
  "a=a.split(\"\");".toList ++ steps.flatMap simple.call ++ " return a.join(\"\")".toList

def objectLine : Text :=
  "var ".toList ++ simple.object.text ++ "=\x7b".toList ++ simple.helpers ++ "\x7d;\n".toList

def functionLine : Text :=
  simple.function.text ++ "=function(a)\x7b".toList ++ simple.body steps ++ "\x7d;\n".toList

def callLine : Text :=
  "g.T=function(c)\x7bc&&(c=".toList ++ simple.function.text ++
    "(decodeURIComponent(c)));return c\x7d;".toList

def script : Text := simple.objectLine ++ simple.functionLine steps ++ simple.callLine

-- What the steps do to a token, as a list of instructions.
def instructions (steps : List (Operation × Nat)) : List Instruction :=
  steps.map fun (operation, argument) => operation.instruction argument

-- What follows the name of the function where it is called.
def closing : Text :=
  "(decodeURIComponent(".toList ++ ("c".toList ++ ("))".toList ++ (");".toList ++ ("return".toList ++
    (" ".toList ++ "c\x7d;".toList)))))

theorem definition_eq (operation : Operation) : simple.definition operation =
    (simple.helper operation).text ++ (":".toList ++ ("function".toList ++ ("(".toList ++
      (operation.parameters ++ (")".toList ++ ("\x7b".toList ++ (operation.body ++ "\x7d".toList))))))) := by
  have opening : ":function(".toList = ":".toList ++ ("function".toList ++ "(".toList) := rfl
  have brace : ")\x7b".toList = ")".toList ++ "\x7b".toList := rfl
  unfold definition
  rw [opening, brace]
  simp only [List.append_assoc]

theorem body_eq : simple.body steps = "a".toList ++ ("=".toList ++ ("a".toList ++
    (".split(\"\")".toList ++ (";".toList ++ (steps.flatMap simple.call ++ (" ".toList ++
      ("return".toList ++ (" ".toList ++ "a.join(\"\")".toList)))))))) := by
  have prologue : "a=a.split(\"\");".toList = "a".toList ++ ("=".toList ++ ("a".toList ++
      (".split(\"\")".toList ++ ";".toList))) := rfl
  have epilogue : " return a.join(\"\")".toList =
      " ".toList ++ ("return".toList ++ (" ".toList ++ "a.join(\"\")".toList)) := rfl
  unfold body
  rw [prologue, epilogue]
  simp only [List.append_assoc]

theorem objectLine_eq : simple.objectLine =
    "var".toList ++ (" ".toList ++ (simple.object.text ++ ("=".toList ++ ("\x7b".toList ++
      (simple.helpers ++ ("\x7d;".toList ++ "\n".toList)))))) := by
  have keyword : "var ".toList = "var".toList ++ " ".toList := rfl
  have opening : "=\x7b".toList = "=".toList ++ "\x7b".toList := rfl
  have newline : "\x7d;\n".toList = "\x7d;".toList ++ "\n".toList := rfl
  unfold objectLine
  rw [keyword, opening, newline]
  simp only [List.append_assoc]

theorem functionLine_eq : simple.functionLine steps =
    simple.function.text ++ ("=".toList ++ ("function".toList ++ ("(".toList ++ ("a".toList ++
      (")".toList ++ ("\x7b".toList ++ (simple.body steps ++ ("\x7d;".toList ++ "\n".toList)))))))) := by
  have opening : "=function(a)\x7b".toList = "=".toList ++ ("function".toList ++ ("(".toList ++
      ("a".toList ++ (")".toList ++ "\x7b".toList)))) := rfl
  have newline : "\x7d;\n".toList = "\x7d;".toList ++ "\n".toList := rfl
  unfold functionLine
  rw [opening, newline]
  simp only [List.append_assoc]

theorem callLine_eq : simple.callLine =
    "g".toList ++ (".T".toList ++ ("=".toList ++ ("function(c)".toList ++ ("\x7b".toList ++
      ("c".toList ++ ("&&(".toList ++ ("c".toList ++ ("=".toList ++ (simple.function.text ++
        closing))))))))) := by
  have guard : "g.T=function(c)\x7bc&&(c=".toList = "g".toList ++ (".T".toList ++ ("=".toList ++
      ("function(c)".toList ++ ("\x7b".toList ++ ("c".toList ++ ("&&(".toList ++ ("c".toList ++
        "=".toList))))))) := rfl
  have call : "(decodeURIComponent(c)));return c\x7d;".toList = closing := rfl
  unfold callLine
  rw [guard, call]
  simp only [List.append_assoc]

theorem call_eq (step : Operation × Nat) : simple.call step = simple.statement step ++ ";".toList := by
  have opening : "(a,".toList = "(".toList ++ ("a".toList ++ ",".toList) := rfl
  have closing : ");".toList = ")".toList ++ ";".toList := rfl
  unfold call statement
  rw [opening, closing]
  simp only [List.append_assoc]

def helperCall (step : Operation × Nat) : HelperCall where
  object := simple.object
  function := simple.helper step.1
  numeral := some (Text.ofNat step.2)
  digits := by
    intro digits present
    cases present
    exact ⟨Text.ofNat_ne_nil _, fun _ => Text.isDigit_of_mem_ofNat⟩

theorem statement_eq (step : Operation × Nat) :
    simple.statement step = (simple.helperCall step).statement letterA := rfl

theorem mem_call {simple : SimpleScript} {step : Operation × Nat} {c : Char}
    (present : c ∈ simple.call step) : isNameChar c = true ∨ c ∈ ".(,);".toList := by
  rw [call_eq, List.mem_append] at present
  rcases present with statement | semicolon
  · rw [statement_eq] at statement
    rcases (simple.helperCall step).mem_statement statement with inside | mark
    · exact .inl inside
    · exact .inr (List.mem_append_left ";".toList mark)
  · exact .inr (List.mem_append_right ".(,)".toList semicolon)

end SimpleScript
end StreamLinks
