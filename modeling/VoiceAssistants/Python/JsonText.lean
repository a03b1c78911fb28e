import VoiceAssistants.Text

/-!
# JSON texts as Python's `json` module reads and writes them

`dumps` is `json.dumps(value, separators=(",", ":"))` with its ASCII escapes, `dumpsWith` writes strings and separators in
another `Style`, `sortKeys` is what `sort_keys=True` does first, and `loads` is `json.loads`: of two members with one name the last counts, in the place of the first.

A float is kept as the text that `json.dumps` writes for it.  How Python rounds and writes floats is the parameter
`Floats`.  A text with a lone surrogate, which a Python string can hold, does not load.
-/

namespace VoiceAssistants
namespace Python

/-- A value of `json.loads`. -/
inductive Json
  | null
  | bool (value : Bool)
  | int (value : Int)
  | float (repr : String)
  | str (value : String)
  | arr (items : List Json)
  | obj (members : List (String × Json))

namespace Json

/-! ## Writing -/

/-- The UTF-16 code units of a character. -/
def units (c : Char) : List Nat :=
  if c.toNat < 0x10000 then [c.toNat]
  else [0xd800 + (c.toNat - 0x10000) / 0x400, 0xdc00 + (c.toNat - 0x10000) % 0x400]

/-- A code unit as a JSON escape. -/
def hexEscape (unit : Nat) : List Char :=
  ['\\', 'u', Nat.digitChar (unit / 4096 % 16), Nat.digitChar (unit / 256 % 16), Nat.digitChar (unit / 16 % 16),
    Nat.digitChar (unit % 16)]

/-- The characters with an escape of their own, and its letter. -/
def shortEscapes : List (Char × Char) :=
  [('"', '"'), ('\\', '\\'), ('\n', 'n'), ('\r', 'r'), ('\t', 't'), ('\x08', 'b'), ('\x0c', 'f')]

/-- A character of a string. -/
def escapeChar (c : Char) : List Char :=
  match shortEscapes.find? (·.1 = c) with
  | some escape => ['\\', escape.2]
  | none => if 0x20 ≤ c.toNat ∧ c.toNat ≤ 0x7e then [c] else (units c).flatMap hexEscape

def dumpsString (text : String) : List Char :=
  '"' :: (text.toList.flatMap escapeChar ++ ['"'])

def dumpsInt : Int → List Char
  | .ofNat n => Nat.toDigits 10 n
  | .negSucc n => '-' :: Nat.toDigits 10 (n + 1)

mutual

/-- `json.dumps(value, separators=(",", ":"))`. -/
def dumps : Json → List Char
  | .null => "null".toList
  | .bool true => "true".toList
  | .bool false => "false".toList
  | .int value => dumpsInt value
  | .float repr => repr.toList
  | .str value => dumpsString value
  | .arr [] => ['[', ']']
  | .arr (item :: items) => '[' :: (dumps item ++ dumpsItems items)
  | .obj [] => ['\x7b', '\x7d']
  | .obj ((key, value) :: members) => '\x7b' :: (dumpsString key ++ ':' :: (dumps value ++ dumpsMembers members))
termination_by structural value => value

/-- The rest of a list. -/
def dumpsItems : List Json → List Char
  | [] => [']']
  | item :: items => ',' :: (dumps item ++ dumpsItems items)
termination_by structural items => items

/-- The rest of an object. -/
def dumpsMembers : List (String × Json) → List Char
  | [] => ['\x7d']
  | (key, value) :: members => ',' :: (dumpsString key ++ ':' :: (dumps value ++ dumpsMembers members))
termination_by structural members => members

end

/-- How the characters of a string are written, and what follows a comma or a colon. -/
structure Style where
  escape : Char → List Char
  space : List Char

/-- The style of `dumps`. -/
def compact : Style :=
  ⟨escapeChar, []⟩

/-- A character of a string with `ensure_ascii=False`. -/
def escapePlain (c : Char) : List Char :=
  match shortEscapes.find? (·.1 = c) with
  | some escape => ['\\', escape.2]
  | none => if c.toNat < 0x20 then hexEscape c.toNat else [c]

/-- The style of `json.dumps(value, ensure_ascii=False)`. -/
def plain : Style :=
  ⟨escapePlain, [' ']⟩

def dumpsStringWith (style : Style) (text : String) : List Char :=
  '"' :: (text.toList.flatMap style.escape ++ ['"'])

mutual

/-- `json.dumps(value)` in a style. -/
def dumpsWith (style : Style) : Json → List Char
  | .null => "null".toList
  | .bool true => "true".toList
  | .bool false => "false".toList
  | .int value => dumpsInt value
  | .float repr => repr.toList
  | .str value => dumpsStringWith style value
  | .arr [] => ['[', ']']
  | .arr (item :: items) => '[' :: (dumpsWith style item ++ dumpsItemsWith style items)
  | .obj [] => ['\x7b', '\x7d']
  | .obj ((key, value) :: members) =>
      '\x7b' :: (dumpsStringWith style key ++
        ':' :: (style.space ++ (dumpsWith style value ++ dumpsMembersWith style members)))
termination_by structural value => value

/-- The rest of a list. -/
def dumpsItemsWith (style : Style) : List Json → List Char
  | [] => [']']
  | item :: items => ',' :: (style.space ++ (dumpsWith style item ++ dumpsItemsWith style items))
termination_by structural items => items

/-- The rest of an object. -/
def dumpsMembersWith (style : Style) : List (String × Json) → List Char
  | [] => ['\x7d']
  | (key, value) :: members =>
      ',' :: (style.space ++ (dumpsStringWith style key ++
        ':' :: (style.space ++ (dumpsWith style value ++ dumpsMembersWith style members))))
termination_by structural members => members

end

/-- Members in the order of their names. -/
def sortMembers (members : List (String × Json)) : List (String × Json) :=
  members.insertionSort fun first second => first.1 ≤ second.1

mutual

/-- The value with the members of every object sorted. -/
def sortKeys : Json → Json
  | .arr items => .arr (sortItems items)
  | .obj members => .obj (sortMembers (sortValues members))
  | .null => .null
  | .bool value => .bool value
  | .int value => .int value
  | .float repr => .float repr
  | .str value => .str value
termination_by structural value => value

def sortItems : List Json → List Json
  | [] => []
  | item :: items => sortKeys item :: sortItems items
termination_by structural items => items

def sortValues : List (String × Json) → List (String × Json)
  | [] => []
  | (key, value) :: members => (key, sortKeys value) :: sortValues members
termination_by structural members => members

end

/-! ## Numbers -/

def isNumberChar (c : Char) : Bool :=
  c.isDigit || c == '-' || c == '+' || c == '.' || c == 'e' || c == 'E'

/-- `0|[1-9][0-9]*` -/
def isNatLiteral (digits : List Char) : Bool :=
  !digits.isEmpty && digits.all Char.isDigit && (digits.length == 1 || digits.head? != some '0')

/-- Drop a minus sign. -/
def unsigned : List Char → List Char
  | '-' :: digits => digits
  | digits => digits

def isIntLiteral (token : List Char) : Bool :=
  isNatLiteral (unsigned token)

/-- `[eE][-+]?[0-9]+` -/
def isExponent : List Char → Bool
  | [] => false
  | c :: rest =>
      let digits := match rest with
        | '-' :: digits => digits
        | '+' :: digits => digits
        | digits => digits
      (c == 'e' || c == 'E') && !digits.isEmpty && digits.all Char.isDigit

/-- An integer part that a fraction, an exponent or both follow. -/
def isFloatLiteral (token : List Char) : Bool :=
  let whole := (unsigned token).takeWhile Char.isDigit
  isNatLiteral whole &&
    match (unsigned token).dropWhile Char.isDigit with
    | '.' :: rest =>
        !(rest.takeWhile Char.isDigit).isEmpty &&
          ((rest.dropWhile Char.isDigit).isEmpty || isExponent (rest.dropWhile Char.isDigit))
    | rest => isExponent rest

def intValue : List Char → Int
  | '-' :: digits => -(Nat.ofDigitChars 10 digits 0 : Int)
  | digits => Nat.ofDigitChars 10 digits 0

/-- The words for the floats that no literal denotes. -/
def floatWords : List String :=
  ["NaN", "Infinity", "-Infinity"]

/-- A text that `json.dumps` can have written for a float, and that `json.loads` reads as the same float. -/
def FloatText (repr : List Char → String) (text : String) : Prop :=
  text ∈ floatWords ∨
    text.toList.all isNumberChar = true ∧ isFloatLiteral text.toList = true ∧ repr text.toList = text

/-- Python's floats: what `json.dumps` writes for the float of a literal, which is read back as the same float. -/
structure Floats where
  repr : List Char → String
  written : ∀ literal, FloatText repr (repr literal)

/-- The value of a number. -/
def numberOf (floats : Floats) (token : List Char) : Option Json :=
  if isIntLiteral token then some (.int (intValue token))
  else if isFloatLiteral token then some (.float (floats.repr token))
  else none

def words : List (String × Json) :=
  [("null", .null), ("true", .bool true), ("false", .bool false), ("NaN", .float "NaN"),
    ("Infinity", .float "Infinity"), ("-Infinity", .float "-Infinity")]

/-- A number or a word at the start of a text. -/
def scanScalar (floats : Floats) (text : List Char) : Option (Json × List Char) :=
  match numberOf floats (text.takeWhile isNumberChar) with
  | some value => some (value, text.dropWhile isNumberChar)
  | none => words.findSome? fun word =>
      if word.1.toList.isPrefixOf text then some (word.2, text.drop word.1.length) else none

/-! ## Strings -/

def hexQuad (a b c d : Char) : Option Nat := do
  let a ← hexDigit a
  let b ← hexDigit b
  let c ← hexDigit c
  let d ← hexDigit d
  return a * 4096 + b * 256 + c * 16 + d

/-- The character of a short escape. -/
def unescape (letter : Char) : Option Char :=
  if letter = '/' then some '/' else (shortEscapes.find? (·.2 = letter)).map Prod.fst

/-- The rest of a string, as code units and characters, and what follows it. -/
def scanUnits : List Char → Option (List Nat × List Char)
  | [] => none
  | '"' :: rest => some ([], rest)
  | '\\' :: 'u' :: a :: b :: c :: d :: rest =>
      match hexQuad a b c d, scanUnits rest with
      | some unit, some scanned => some (unit :: scanned.1, scanned.2)
      | _, _ => none
  | '\\' :: letter :: rest =>
      match unescape letter, scanUnits rest with
      | some c, some scanned => some (c.toNat :: scanned.1, scanned.2)
      | _, _ => none
  | c :: rest =>
      if c.toNat < 0x20 then none
      else (scanUnits rest).map fun scanned => (c.toNat :: scanned.1, scanned.2)

/-- Pairs of surrogates become characters. -/
def joinUnits : List Nat → Option (List Char)
  | [] => some []
  | [unit] => if 0xd800 ≤ unit ∧ unit < 0xe000 then none else some [Char.ofNat unit]
  | unit :: low :: rest =>
      if 0xd800 ≤ unit ∧ unit < 0xdc00 then
        if 0xdc00 ≤ low ∧ low < 0xe000 then
          (joinUnits rest).map (Char.ofNat (0x10000 + (unit - 0xd800) * 0x400 + (low - 0xdc00)) :: ·)
        else none
      else if 0xdc00 ≤ unit ∧ unit < 0xe000 then none
      else (joinUnits (low :: rest)).map (Char.ofNat unit :: ·)

def scanString (text : List Char) : Option (String × List Char) := do
  let (units, rest) ← scanUnits text
  let value ← joinUnits units
  return (String.ofList value, rest)

/-! ## Reading -/

def isJsonSpace (c : Char) : Bool :=
  c == ' ' || c == '\t' || c == '\n' || c == '\r'

def skipSpace (text : List Char) : List Char :=
  text.dropWhile isJsonSpace

/-- `d[key] = value` -/
def setMember (key : String) (value : Json) : List (String × Json) → List (String × Json)
  | [] => [(key, value)]
  | member :: members =>
      if member.1 = key then (key, value) :: members else member :: setMember key value members

/-- `dict(members)` -/
def dict (members : List (String × Json)) : List (String × Json) :=
  members.foldl (fun object member => setMember member.1 member.2 object) []

/-- `value[key]`; `none` is the `KeyError`, or a value that is no dictionary. -/
def member? (value : Json) (key : String) : Option Json :=
  match value with
  | .obj members => (members.find? (·.1 = key)).map Prod.snd
  | _ => none

/-- Python's truth of a value. -/
def truthy : Json → Bool
  | .null => false
  | .bool value => value
  | .int value => value != 0
  | .float repr => repr != "0.0" && repr != "-0.0"
  | .str value => value != ""
  | .arr items => !items.isEmpty
  | .obj members => !members.isEmpty

/-- `value.get(key, otherwise) or otherwise` for an `otherwise` that is false. -/
def getOr (value : Json) (key : String) (otherwise : Json) : Json :=
  ((value.member? key).filter truthy).getD otherwise

/-- A name with its colon. -/
def scanKey : List Char → Option (String × List Char)
  | '"' :: rest =>
      match scanString rest with
      | some scanned =>
          match skipSpace scanned.2 with
          | ':' :: rest => some (scanned.1, skipSpace rest)
          | _ => none
      | none => none
  | _ => none

mutual

/-- A value at the start of a text, and what follows it; the first argument bounds the depth. -/
def scanValue (floats : Floats) : Nat → List Char → Option (Json × List Char)
  | 0, _ => none
  | _ + 1, [] => none
  | fuel + 1, c :: rest =>
      if c = '"' then (scanString rest).map fun scanned => (.str scanned.1, scanned.2)
      else if c = '[' then
        if (skipSpace rest).head? = some ']' then some (.arr [], (skipSpace rest).tail)
        else do
          let first ← scanValue floats fuel (skipSpace rest)
          let others ← scanItems floats fuel first.2
          return (.arr (first.1 :: others.1), others.2)
      else if c = '\x7b' then
        if (skipSpace rest).head? = some '\x7d' then some (.obj [], (skipSpace rest).tail)
        else do
          let key ← scanKey (skipSpace rest)
          let first ← scanValue floats fuel key.2
          let others ← scanMembers floats fuel first.2
          return (.obj (dict ((key.1, first.1) :: others.1)), others.2)
      else scanScalar floats (c :: rest)
termination_by structural fuel => fuel

/-- The rest of a list. -/
def scanItems (floats : Floats) : Nat → List Char → Option (List Json × List Char)
  | 0, _ => none
  | fuel + 1, text =>
      match skipSpace text with
      | ']' :: rest => some ([], rest)
      | ',' :: rest => do
          let first ← scanValue floats fuel (skipSpace rest)
          let others ← scanItems floats fuel first.2
          return (first.1 :: others.1, others.2)
      | _ => none
termination_by structural fuel => fuel

/-- The rest of an object. -/
def scanMembers (floats : Floats) : Nat → List Char → Option (List (String × Json) × List Char)
  | 0, _ => none
  | fuel + 1, text =>
      match skipSpace text with
      | '\x7d' :: rest => some ([], rest)
      | ',' :: rest => do
          let key ← scanKey (skipSpace rest)
          let first ← scanValue floats fuel key.2
          let others ← scanMembers floats fuel first.2
          return ((key.1, first.1) :: others.1, others.2)
      | _ => none
termination_by structural fuel => fuel

end

/-- `json.loads(text)`; `none` is the `JSONDecodeError`.  Every nested value takes a character, so that the length of the
text bounds the depth. -/
def loads (floats : Floats) (text : List Char) : Option Json :=
  match scanValue floats (text.length + 1) (skipSpace text) with
  | some scanned => if (skipSpace scanned.2).isEmpty then some scanned.1 else none
  | none => none

end Json

end Python
end VoiceAssistants
