import VoiceAssistants.Python.Integers
import VoiceAssistants.Python.JsonRoundTrip

/-!
# `str` and `int` of decoded values

What `str(value)` and `int(value)` give for a value of `json.loads`, and the exceptions that reading a dictionary can
raise.  How floats are rounded and written, and what Python writes for values that are no texts, is `Coercions`.
-/

namespace VoiceAssistants
namespace Python

/-- The exceptions that matter to a handler. -/
inductive Raised
  | keyError
  | typeError
  | valueError
  | attributeError
  | overflowError
  deriving DecidableEq, Repr

structure Coercions where
  floats : Json.Floats
  /-- `str(value)` of a value that is no text. -/
  repr : Json → String
  /-- `int(value)` of a float: an infinite one overflows, and `nan` is no integer. -/
  floatInt : String → Except Raised Int

namespace Coercions

variable (coercions : Coercions)

/-- `str(value)` -/
def str : Json → String
  | .str value => value
  | value => coercions.repr value

/-- `int(value)` -/
def int : Json → Except Raised Int
  | .int number => .ok number
  | .bool value => .ok (if value then 1 else 0)
  | .float repr => coercions.floatInt repr
  | .str text =>
      match parseInt text with
      | some number => .ok number
      | none => .error .valueError
  | .null | .arr _ | .obj _ => .error .typeError

/-- `json.loads(text)` -/
def loads (text : List Char) : Except Raised Json :=
  match Json.loads coercions.floats text with
  | some value => .ok value
  | none => .error .valueError

theorem loads_dumps {value : Json} (h : Json.Canonical coercions.floats value) :
    coercions.loads value.dumps = .ok value := by
  rw [loads, Json.loads_dumps h]

end Coercions

/-- `value[name]` -/
def item (value : Json) (name : String) : Except Raised Json :=
  match value with
  | .obj _ =>
      match value.member? name with
      | some member => .ok member
      | none => .error .keyError
  | _ => .error .typeError

/-- `value.get(name)`, with `None` for the default. -/
def getMember (value : Json) (name : String) : Except Raised (Option Json) :=
  match value with
  | .obj _ => .ok (value.member? name)
  | _ => .error .attributeError

/-- A member that is `None` is like one that is absent. -/
def notNone : Option Json → Option Json
  | some .null => none
  | member => member

end Python
end VoiceAssistants
