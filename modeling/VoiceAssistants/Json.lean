import VoiceAssistants.Text
import VoiceAssistants.Collections.OrderedMap

/-!
# JSON objects as Python dictionaries

A JSON object is a map that remembers the order of insertion.  The values that the program looks at are texts, lists of
texts and truth values; every other value is kept as the text that `json.dumps` gives it.

`text?` is `value.get(key)` where a text is looked for, a merge `{**value, key: …}` is a `set` on a copy, and `dumps`
is `json.dumps(value)` with its default separators and ASCII escapes.
-/

namespace VoiceAssistants

open Collections

inductive JsonValue
  | null
  | bool (value : Bool)
  | text (value : String)
  | texts (items : List String)
  | other (json : String)
  deriving DecidableEq, Repr

abbrev JsonObject := OrderedMap String JsonValue

namespace JsonObject

/-- The text of a member, if it is one. -/
def text? (object : JsonObject) (key : String) : Option String :=
  match object.get key with
  | some (.text value) => some value
  | _ => none

/-- `value.get("status")`. -/
def status (object : JsonObject) : Option String :=
  object.text? "status"

theorem text?_set_ne {object : JsonObject} {key other : String} {member : JsonValue} (h : other ≠ key) :
    text? (object.set key member) other = text? object other := by
  simp [text?, OrderedMap.get_set_ne h]

/-! ## `json.dumps` -/

/-- Four lower-case hexadecimal digits. -/
def hex4 (code : Nat) : String :=
  let digits := Nat.toDigits 16 code
  String.ofList (List.replicate (4 - digits.length) '0' ++ digits)

/-- A character in a JSON string. -/
def escape (c : Char) : String :=
  match c.toNat with
  | 0x22 => "\\\""
  | 0x5c => "\\\\"
  | 0x0a => "\\n"
  | 0x0d => "\\r"
  | 0x09 => "\\t"
  | 0x08 => "\\b"
  | 0x0c => "\\f"
  | code =>
      if 0x20 ≤ code && code ≤ 0x7e then c.toString
      else String.join ((utf16Codes c.toString).map fun unit => "\\u" ++ hex4 unit)

def quote (text : String) : String :=
  "\"" ++ String.join (text.toList.map escape) ++ "\""

def dumpsValue : JsonValue → String
  | .null => "null"
  | .bool value => if value then "true" else "false"
  | .text value => quote value
  | .texts items => "[" ++ String.intercalate ", " (items.map quote) ++ "]"
  | .other json => json

def dumps (object : JsonObject) : String :=
  "\x7b" ++ String.intercalate ", " (object.entries.map fun member => quote member.1 ++ ": " ++ dumpsValue member.2) ++
    "\x7d"

example : dumps (.ofPairs [("status", .text "confirmed"), ("retryable", .bool false), ("title", .text "Café")]) =
    "\x7b\"status\": \"confirmed\", \"retryable\": false, \"title\": \"Caf\\u00e9\"\x7d" := by
  decide +kernel

end JsonObject

end VoiceAssistants
