/-
**Writing JSON.**

A value is written with every character as it is, except the quotation mark, the backslash and the
controls below U+0020. Dictionary keys that are numbers, booleans or null become texts. Floats that
are no numbers are written as words, which strict JSON lacks. The first part without a JSON form,
in writing order, is the fault.

* `Json.escape_val`: no control character survives inside a written text.
-/
import Courier.Value.Shown
namespace Courier.Json

/-- Why a value has no JSON form. -/
inductive Fault
  /-- A value of this kind has none. -/
  | noForm (kind : String)
  /-- A dictionary key of this kind has none. -/
  | noKey (kind : String)
  /-- A list contains itself. -/
  | circular
  /-- A whole number has too many digits. -/
  | tooManyDigits
  deriving DecidableEq

/-- The wording of a fault. -/
def Fault.message : Fault → Text
  | noForm kind => "Object of type " ++ Text.ofString kind ++ " is not JSON serializable"
  | noKey kind =>
    "keys must be str, int, float, bool or None, not " ++ Text.ofString kind
  | circular => "Circular reference detected"
  | tooManyDigits => TooManyDigits.message ⟨⟩

/-- What stands between the parts of a list or dictionary. -/
structure Layout where
  /-- Between two elements or two entries. -/
  comma : Text
  /-- Between a key and its value. -/
  colon : Text

/-- Without blanks. -/
def compact : Layout :=
  ⟨",", ":"⟩

/-- With a blank after each comma and colon. -/
def spaced : Layout :=
  ⟨", ", ": "⟩

/-- One code point inside a written text. -/
def escape (c : CodePoint) : Text :=
  if c = '"' then "\\\""
  else if c = '\\' then "\\\\"
  else if 0x20 ≤ c.val then [c]
  else if c = '\n' then "\\n"
  else if c = '\r' then "\\r"
  else if c = '\t' then "\\t"
  else if c.val = 0x0C then "\\f"
  else if c.val = 0x08 then "\\b"
  else "\\u" ++ Text.ofHex 4 c.val

/-- A text between quotation marks. -/
def quote (t : Text) : Text :=
  "\"" ++ t.flatMap escape ++ "\""

/-- A float; what is no number is written as a word. -/
def writeFloat : Binary64 → Text
  | .nan => "NaN"
  | .infinite negative => if negative then "-Infinity" else "Infinity"
  | x => x.toText

/-- A whole number, if it has not too many digits. -/
def writeInt (i : Int) : Except Fault Text :=
  match Courier.writeInt i with
  | .ok t => .ok t
  | .error _ => .error .tooManyDigits

/-- The text of a dictionary key. -/
def keyText : Value → Except Fault Text
  | .text t => .ok t
  | .float x => .ok (writeFloat x)
  | .bool b => .ok (if b then "true" else "false")
  | .null => .ok "null"
  | .int i => writeInt i
  | other => .error (.noKey other.kind)

mutual

/-- A value as JSON. -/
def write (layout : Layout) : Value → Except Fault Text
  | .null => .ok "null"
  | .bool b => .ok (if b then "true" else "false")
  | .int i => writeInt i
  | .float x => .ok (writeFloat x)
  | .text t => .ok (quote t)
  | .list elements => do
    let parts ← writeEach layout elements
    return "[" ++ Text.join layout.comma parts ++ "]"
  | .tuple elements => do
    let parts ← writeEach layout elements
    return "[" ++ Text.join layout.comma parts ++ "]"
  | .dict entries => do
    let parts ← writeEntries layout entries
    return "\x7b" ++ Text.join layout.comma parts ++ "\x7d"
  | .cycle => .error .circular
  | .bytes _ => .error (.noForm "bytes")
  | .set _ => .error (.noForm "set")
  | .object => .error (.noForm "object")

/-- Several values, in order. -/
def writeEach (layout : Layout) : List Value → Except Fault (List Text)
  | [] => .ok []
  | value :: rest => do
    let first ← write layout value
    let others ← writeEach layout rest
    return first :: others

/-- The entries of a dictionary, in order. -/
def writeEntries (layout : Layout) : List (Value × Value) → Except Fault (List Text)
  | [] => .ok []
  | (key, value) :: rest => do
    let name ← keyText key
    let content ← write layout value
    let others ← writeEntries layout rest
    return (quote name ++ layout.colon ++ content) :: others

end

theorem digitChar_val_ge {d : Nat} (digit : d < 16) : 0x20 ≤ (Nat.digitChar d).toNat := by
  have cases : d = 0 ∨ d = 1 ∨ d = 2 ∨ d = 3 ∨ d = 4 ∨ d = 5 ∨ d = 6 ∨ d = 7 ∨ d = 8 ∨ d = 9 ∨
      d = 10 ∨ d = 11 ∨ d = 12 ∨ d = 13 ∨ d = 14 ∨ d = 15 := by omega
  rcases cases with h | h | h | h | h | h | h | h | h | h | h | h | h | h | h | h <;> subst h <;>
    decide

theorem escape_val (c : CodePoint) : ∀ d ∈ escape c, 0x20 ≤ d.val := by
  by_cases visible : 0x20 ≤ c.val
  · intro d mem
    unfold escape at mem
    split at mem
    · revert d
      decide
    split at mem
    · revert d
      decide
    · simp only [List.mem_singleton] at mem
      rw [mem]
      exact visible
  · have control : ∀ n : Fin 0x20, (escape (CodePoint.ofNat n.val)).all (0x20 ≤ ·.val) = true := by
      decide +kernel
    have holds := control ⟨c.val, by omega⟩
    rw [CodePoint.ofNat_val] at holds
    intro d mem
    simpa using List.all_eq_true.mp holds d mem

end Courier.Json
