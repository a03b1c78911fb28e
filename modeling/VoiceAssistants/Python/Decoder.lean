import VoiceAssistants.Exceptions
import VoiceAssistants.Python.Coercions
import VoiceAssistants.Python.JsonText

/-!
# `json.loads` with the limits of the interpreter

What Python decodes of any text, and each exception that `json.loads`, `str` and `int` can raise.  A string is the list
of its code points, among which an escape can put a lone surrogate.  `json.loads` enters so many arrays and objects at
once before it is a `RecursionError`, and an integer of too many digits is a `ValueError`.

`loops_end` says that the bound on the loops over items and members is never met.
-/

namespace VoiceAssistants
namespace Python

/-- A value of `json.loads`; the strings are lists of code points. -/
inductive Decoded
  | null
  | bool (value : Bool)
  | int (value : Int)
  | float (repr : String)
  | str (codes : List Nat)
  | arr (items : List Decoded)
  | obj (members : List (List Nat × Decoded))

/-- An exception: those of `Raised`, that of too deep a nesting, and those of the file system. -/
inductive Thrown
  | raised (exception : Raised)
  | recursionError
  | osError
  deriving DecidableEq, Repr

/-- The interpreter that runs the program. -/
structure Interpreter where
  floats : Json.Floats
  /-- `int(number)` of a finite float. -/
  truncated : String → Int
  /-- `repr(value)` -/
  repr : Decoded → String
  /-- Values that `repr` cannot write before the stack is used up. -/
  reprTooDeep : Decoded → Bool
  /-- Values that `json.dumps` cannot write before the stack is used up. -/
  dumpsTooDeep : Decoded → Bool
  /-- The arrays and objects that `json.loads` can be in at once. -/
  scanDepth : Nat
  /-- `sys.get_int_max_str_digits()`, of which zero is no limit. -/
  maxStrDigits : Nat

/-- The code points of a text. -/
def codesOf (text : String) : List Nat :=
  text.toList.map Char.toNat

def isSurrogate (code : Nat) : Bool :=
  0xd800 ≤ code && code < 0xe000

/-- The text of code points among which no surrogate is. -/
def textOfCodes (codes : List Nat) : Option String :=
  if codes.any isSurrogate then none else some (String.ofList (codes.map Char.ofNat))

namespace Decoded

open Exceptions

/-! ## Scalars -/

/-- Why a text is not decoded. -/
inductive Failure
  | invalid
  | tooDeep
  deriving DecidableEq, Repr

/-- Pairs of surrogates become characters, and a surrogate alone stays. -/
def joinCodes : List Nat → List Nat
  | unit :: low :: rest =>
      if 0xd800 ≤ unit ∧ unit < 0xdc00 ∧ 0xdc00 ≤ low ∧ low < 0xe000 then
        (0x10000 + (unit - 0xd800) * 0x400 + (low - 0xdc00)) :: joinCodes rest
      else unit :: joinCodes (low :: rest)
  | codes => codes

/-- The rest of a string. -/
def scanString (text : List Char) : Except Failure (List Nat × List Char) :=
  match Json.scanUnits text with
  | some (units, rest) => .ok (joinCodes units, rest)
  | none => .error .invalid

def words : List (String × Decoded) :=
  [("null", .null), ("true", .bool true), ("false", .bool false), ("NaN", .float "NaN"),
    ("Infinity", .float "Infinity"), ("-Infinity", .float "-Infinity")]

section Scan

variable (interpreter : Interpreter)

/-- `int(digits)` and `str(number)` refuse so many digits. -/
def tooManyDigits (digits : Nat) : Bool :=
  interpreter.maxStrDigits != 0 && digits > interpreter.maxStrDigits

def scanScalar (text : List Char) : Except Failure (Decoded × List Char) :=
  let token := text.takeWhile Json.isNumberChar
  let rest := text.dropWhile Json.isNumberChar
  if Json.isIntLiteral token then
    if tooManyDigits interpreter (Json.unsigned token).length then .error .invalid
    else .ok (.int (Json.intValue token), rest)
  else if Json.isFloatLiteral token then .ok (.float (interpreter.floats.repr token), rest)
  else
    match words.find? fun word => word.1.toList.isPrefixOf text with
    | some word => .ok (word.2, text.drop word.1.toList.length)
    | none => .error .invalid

/-! ## Arrays and objects -/

/-- A name with its colon. -/
def scanKey : List Char → Except Failure (List Nat × List Char)
  | '"' :: rest => do
      let name ← scanString rest
      match Json.skipSpace name.2 with
      | ':' :: rest => return (name.1, Json.skipSpace rest)
      | _ => throw .invalid
  | _ => .error .invalid

/-- The rest of an array or object after an entry, with the scanner of the entries. -/
def scanRest {α : Type} (close : Char) (entry : List Char → Except Failure (α × List Char)) :
    (fuel : Nat) → List Char → Except Failure (List α × List Char)
  | 0, _ => .error .invalid
  | fuel + 1, text =>
      match Json.skipSpace text with
      | [] => .error .invalid
      | c :: rest =>
          if c = close then .ok ([], rest)
          else if c = ',' then do
            let first ← entry (Json.skipSpace rest)
            let others ← scanRest close entry fuel first.2
            return (first.1 :: others.1, others.2)
          else .error .invalid

/-- The entries between an opening bracket or brace and the closing one. -/
def scanEntries {α : Type} (close : Char) (entry : List Char → Except Failure (α × List Char)) (text : List Char) :
    Except Failure (List α × List Char) :=
  match Json.skipSpace text with
  | [] => .error .invalid
  | c :: rest =>
      if c = close then .ok ([], rest)
      else do
        let first ← entry (c :: rest)
        let others ← scanRest close entry (first.2.length + 1) first.2
        return (first.1 :: others.1, others.2)

/-- `d[key] = value` -/
def setMember (key : List Nat) (value : Decoded) : List (List Nat × Decoded) → List (List Nat × Decoded)
  | [] => [(key, value)]
  | member :: members =>
      if member.1 = key then (key, value) :: members else member :: setMember key value members

/-- `dict(members)` -/
def dict (members : List (List Nat × Decoded)) : List (List Nat × Decoded) :=
  members.foldl (fun object member => setMember member.1 member.2 object) []

variable (scan : List Char → Except Failure (Decoded × List Char))

def scanMember (text : List Char) : Except Failure ((List Nat × Decoded) × List Char) := do
  let name ← scanKey text
  let value ← scan name.2
  return ((name.1, value.1), value.2)

/-- What follows an opening bracket. -/
def scanArray (text : List Char) : Except Failure (Decoded × List Char) := do
  let items ← scanEntries ']' scan text
  return (.arr items.1, items.2)

/-- What follows an opening brace. -/
def scanObject (text : List Char) : Except Failure (Decoded × List Char) := do
  let members ← scanEntries '\x7d' (scanMember scan) text
  return (.obj (dict members.1), members.2)

/-- A value, with the scanners for what follows an opening bracket and an opening brace. -/
def scanWith (array object : List Char → Except Failure (Decoded × List Char)) : List Char → Except Failure (Decoded × List Char)
  | '"' :: rest => do
      let codes ← scanString rest
      return (.str codes.1, codes.2)
  | '[' :: rest => array rest
  | '\x7b' :: rest => object rest
  | text => scanScalar interpreter text

/-- A value that is nested at most so deep. -/
def scanValue : (depth : Nat) → List Char → Except Failure (Decoded × List Char)
  | 0 => scanWith interpreter (fun _ => .error .tooDeep) fun _ => .error .tooDeep
  | depth + 1 => scanWith interpreter (scanArray (scanValue depth)) (scanObject (scanValue depth))

/-- The whole text. -/
def scanText (text : List Char) : Except Failure Decoded := do
  let value ← scanValue interpreter interpreter.scanDepth (Json.skipSpace text)
  if Json.skipSpace value.2 = [] then return value.1 else throw .invalid

end Scan

/-! ## The bound on the loops -/

theorem length_skipSpace_le (text : List Char) : (Json.skipSpace text).length ≤ text.length :=
  (List.dropWhile_sublist _).length_le

/-- A string ends after its closing quote. -/
theorem length_scanUnits_lt {text rest : List Char} {units : List Nat} (h : Json.scanUnits text = some (units, rest)) :
    rest.length < text.length := by
  fun_induction Json.scanUnits text generalizing units rest with
  | case1 => cases h
  | case2 text =>
      cases h
      exact Nat.lt_succ_self _
  | case3 a b c d text unit scanned hscanned hunit ih =>
      cases h
      have := ih hscanned
      simp only [List.length_cons]
      omega
  | case4 => cases h
  | case5 letter text _ c scanned hscanned hc ih =>
      cases h
      have := ih hscanned
      simp only [List.length_cons]
      omega
  | case6 => cases h
  | case7 => cases h
  | case8 c text _ _ _ _ ih =>
      obtain ⟨scanned, hscanned, heq⟩ := Option.map_eq_some_iff.mp h
      cases heq
      have := ih hscanned
      simp only [List.length_cons]
      omega

theorem length_scanString_lt {text : List Char} {scanned : List Nat × List Char} (h : scanString text = .ok scanned) :
    scanned.2.length < text.length := by
  unfold scanString at h
  cases hunits : Json.scanUnits text with
  | none =>
      rw [hunits] at h
      cases h
  | some result =>
      rw [hunits] at h
      cases h
      exact length_scanUnits_lt hunits

theorem length_scanKey_lt {text : List Char} {name : List Nat × List Char} (h : scanKey text = .ok name) :
    name.2.length < text.length := by
  unfold scanKey at h
  split at h
  · rename_i rest
    obtain ⟨scanned, hscanned, h⟩ := bind_eq_ok.mp h
    have hname := length_scanString_lt hscanned
    have hspace := length_skipSpace_le scanned.2
    split at h
    · rename_i after hafter
      cases h
      have hrest := length_skipSpace_le after
      rw [hafter] at hspace
      simp only [List.length_cons] at hspace ⊢
      omega
    · cases h
  · cases h

theorem length_dropWhile_lt {text : List Char} (h : text.takeWhile Json.isNumberChar ≠ []) :
    (text.dropWhile Json.isNumberChar).length < text.length := by
  have hsplit := congrArg List.length (List.takeWhile_append_dropWhile (p := Json.isNumberChar) (l := text))
  rw [List.length_append] at hsplit
  have hpos := List.length_pos_iff.mpr h
  omega

/-- A number has a digit, and no word is empty. -/
theorem length_scanScalar_lt {interpreter : Interpreter} {text : List Char} {scanned : Decoded × List Char}
    (h : scanScalar interpreter text = .ok scanned) : scanned.2.length < text.length := by
  unfold scanScalar at h
  dsimp only at h
  by_cases hint : Json.isIntLiteral (text.takeWhile Json.isNumberChar) = true
  · rw [if_pos hint] at h
    have hne : text.takeWhile Json.isNumberChar ≠ [] := by
      intro hnil
      rw [hnil] at hint
      exact Bool.noConfusion hint
    split at h
    · cases h
    · cases h
      exact length_dropWhile_lt hne
  rw [if_neg hint] at h
  by_cases hfloat : Json.isFloatLiteral (text.takeWhile Json.isNumberChar) = true
  · rw [if_pos hfloat] at h
    have hne : text.takeWhile Json.isNumberChar ≠ [] := by
      intro hnil
      rw [hnil] at hfloat
      exact Bool.noConfusion hfloat
    cases h
    exact length_dropWhile_lt hne
  rw [if_neg hfloat] at h
  split at h
  · rename_i word hword
    cases h
    have hprefix := List.find?_some hword
    have hlength := (List.isPrefixOf_iff_prefix.mp hprefix).length_le
    have hpos : ∀ word ∈ words, 0 < word.1.toList.length := by decide
    have hnonempty := hpos word (List.mem_of_find?_eq_some hword)
    rw [List.length_drop]
    omega
  · cases h

/-- A scanner that takes at least one character for a value. -/
def Shortens {α : Type} (scan : List Char → Except Failure (α × List Char)) : Prop :=
  ∀ text scanned, scan text = .ok scanned → scanned.2.length < text.length

section Entries

variable {α : Type} {close : Char} {entry : List Char → Except Failure (α × List Char)}

theorem length_scanRest_lt (hentry : Shortens entry) {fuel : Nat} {text : List Char} {entries : List α × List Char}
    (h : scanRest close entry fuel text = .ok entries) : entries.2.length < text.length := by
  induction fuel generalizing text entries with
  | zero => cases h
  | succ fuel ih =>
      have hspace := length_skipSpace_le text
      unfold scanRest at h
      split at h
      · cases h
      rename_i c rest hrest
      rw [hrest, List.length_cons] at hspace
      split at h
      · cases h
        exact hspace
      split at h
      · obtain ⟨first, hfirst, h⟩ := bind_eq_ok.mp h
        obtain ⟨others, hothers, h⟩ := bind_eq_ok.mp h
        cases h
        have hone := hentry _ _ hfirst
        have hskipped := length_skipSpace_le rest
        have hmore := ih hothers
        show others.2.length < text.length
        omega
      · cases h

theorem shortens_scanEntries (hentry : Shortens entry) : Shortens (scanEntries close entry) := by
  intro text scanned h
  have hspace := length_skipSpace_le text
  unfold scanEntries at h
  split at h
  · cases h
  rename_i c rest hrest
  rw [hrest, List.length_cons] at hspace
  split at h
  · cases h
    exact hspace
  · obtain ⟨first, hfirst, h⟩ := bind_eq_ok.mp h
    obtain ⟨others, hothers, h⟩ := bind_eq_ok.mp h
    cases h
    have hone := hentry _ _ hfirst
    have hmore := length_scanRest_lt hentry hothers
    rw [List.length_cons] at hone
    show others.2.length < text.length
    omega

/-- With more than a turn for each character, the bound on the loop is not met: more turns change nothing. -/
theorem scanRest_fuel (hentry : Shortens entry) {fuel more : Nat} {text : List Char} (hfuel : text.length < fuel)
    (hmore : text.length < more) : scanRest close entry fuel text = scanRest close entry more text := by
  induction fuel generalizing more text with
  | zero => exact absurd hfuel (Nat.not_lt_zero _)
  | succ fuel ih =>
      obtain _ | more := more
      · exact absurd hmore (Nat.not_lt_zero _)
      have hspace := length_skipSpace_le text
      unfold scanRest
      split
      · rfl
      rename_i c rest hrest
      rw [hrest, List.length_cons] at hspace
      split
      · rfl
      split
      · cases hfirst : entry (Json.skipSpace rest) with
        | error failure => rfl
        | ok first =>
            have hone := hentry _ _ hfirst
            have hskipped := length_skipSpace_le rest
            have hsame : scanRest close entry fuel first.2 = scanRest close entry more first.2 := by
              apply ih
              · omega
              · omega
            show (scanRest close entry fuel first.2 >>= _) = (scanRest close entry more first.2 >>= _)
            rw [hsame]
      · rfl

end Entries

theorem shortens_scanMember {scan : List Char → Except Failure (Decoded × List Char)} (hscan : Shortens scan) :
    Shortens (scanMember scan) := by
  intro text scanned h
  obtain ⟨name, hname, h⟩ := bind_eq_ok.mp h
  obtain ⟨value, hvalue, h⟩ := bind_eq_ok.mp h
  cases h
  exact lt_trans (hscan _ _ hvalue) (length_scanKey_lt hname)

theorem shortens_scanArray {scan : List Char → Except Failure (Decoded × List Char)} (hscan : Shortens scan) :
    Shortens (scanArray scan) := by
  intro text scanned h
  obtain ⟨items, hitems, h⟩ := bind_eq_ok.mp h
  cases h
  exact shortens_scanEntries hscan _ _ hitems

theorem shortens_scanObject {scan : List Char → Except Failure (Decoded × List Char)} (hscan : Shortens scan) :
    Shortens (scanObject scan) := by
  intro text scanned h
  obtain ⟨members, hmembers, h⟩ := bind_eq_ok.mp h
  cases h
  exact shortens_scanEntries (shortens_scanMember hscan) _ _ hmembers

theorem shortens_scanWith {interpreter : Interpreter} {array object : List Char → Except Failure (Decoded × List Char)}
    (harray : Shortens array) (hobject : Shortens object) : Shortens (scanWith interpreter array object) := by
  intro text scanned h
  unfold scanWith at h
  split at h
  · obtain ⟨codes, hcodes, h⟩ := bind_eq_ok.mp h
    cases h
    exact Nat.lt_succ_of_lt (length_scanString_lt hcodes)
  · exact Nat.lt_succ_of_lt (harray _ _ h)
  · exact Nat.lt_succ_of_lt (hobject _ _ h)
  · exact length_scanScalar_lt h

/-- Every value takes a character, at any depth. -/
theorem scanValue_shortens (interpreter : Interpreter) (depth : Nat) : Shortens (scanValue interpreter depth) := by
  induction depth with
  | zero => exact shortens_scanWith (fun _ _ h => by cases h) (fun _ _ h => by cases h)
  | succ depth ih => exact shortens_scanWith (shortens_scanArray ih) (shortens_scanObject ih)

/-- The loops over items and members end before their bound, at any depth. -/
theorem loops_end (interpreter : Interpreter) (depth : Nat) {fuel : Nat} {text : List Char} (h : text.length < fuel) :
    scanRest ']' (scanValue interpreter depth) fuel text =
        scanRest ']' (scanValue interpreter depth) (text.length + 1) text ∧
      scanRest '\x7d' (scanMember (scanValue interpreter depth)) fuel text =
        scanRest '\x7d' (scanMember (scanValue interpreter depth)) (text.length + 1) text := by
  have hscan := scanValue_shortens interpreter depth
  constructor
  · exact scanRest_fuel hscan h (Nat.lt_succ_self _)
  · exact scanRest_fuel (shortens_scanMember hscan) h (Nat.lt_succ_self _)

/-! ## Lookup -/

/-- `value.get(name)` of a dictionary. -/
def member? (value : Decoded) (name : String) : Option Decoded :=
  match value with
  | .obj members => (members.find? (·.1 = codesOf name)).map Prod.snd
  | _ => none

/-- A member that is `None` is like one that is absent. -/
def notNone : Option Decoded → Option Decoded
  | some .null => none
  | member => member

/-! ## Writing -/

/-- A code point of a string. -/
def escapeCode (code : Nat) : List Char :=
  if isSurrogate code then Json.hexEscape code else Json.escapeChar (Char.ofNat code)

def dumpsString (codes : List Nat) : List Char :=
  '"' :: (codes.flatMap escapeCode ++ ['"'])

mutual

/-- `json.dumps(value, separators=(",", ":"))` -/
def dumps : Decoded → List Char
  | .null => "null".toList
  | .bool true => "true".toList
  | .bool false => "false".toList
  | .int value => Json.dumpsInt value
  | .float repr => repr.toList
  | .str codes => dumpsString codes
  | .arr [] => ['[', ']']
  | .arr (item :: items) => '[' :: (dumps item ++ dumpsItems items)
  | .obj [] => ['\x7b', '\x7d']
  | .obj ((name, value) :: members) => '\x7b' :: (dumpsString name ++ ':' :: (dumps value ++ dumpsMembers members))
termination_by structural value => value

/-- The rest of a list. -/
def dumpsItems : List Decoded → List Char
  | [] => [']']
  | item :: items => ',' :: (dumps item ++ dumpsItems items)
termination_by structural items => items

/-- The rest of an object. -/
def dumpsMembers : List (List Nat × Decoded) → List Char
  | [] => ['\x7d']
  | (name, value) :: members => ',' :: (dumpsString name ++ ':' :: (dumps value ++ dumpsMembers members))
termination_by structural members => members

end

/-- Members in the order of their names' code points. -/
def sortMembers (members : List (List Nat × Decoded)) : List (List Nat × Decoded) :=
  members.insertionSort fun first second => lexLe first.1 second.1

mutual

/-- The value with the members of every object sorted, as `sort_keys=True` writes it. -/
def sortKeys : Decoded → Decoded
  | .arr items => .arr (sortItems items)
  | .obj members => .obj (sortMembers (sortValues members))
  | .null => .null
  | .bool value => .bool value
  | .int value => .int value
  | .float repr => .float repr
  | .str codes => .str codes
termination_by structural value => value

def sortItems : List Decoded → List Decoded
  | [] => []
  | item :: items => sortKeys item :: sortItems items
termination_by structural items => items

def sortValues : List (List Nat × Decoded) → List (List Nat × Decoded)
  | [] => []
  | (name, value) :: members => (name, sortKeys value) :: sortValues members
termination_by structural members => members

end

end Decoded

namespace Interpreter

variable (interpreter : Interpreter)

/-! ## The exceptions -/

/-- `json.loads(text)`; a `JSONDecodeError` is a `ValueError`. -/
def loads (text : List Char) : Except Thrown Decoded :=
  match Decoded.scanText interpreter text with
  | .ok value => .ok value
  | .error .invalid => .error (.raised .valueError)
  | .error .tooDeep => .error .recursionError

/-- `json.dumps(value, sort_keys=True, separators=(",", ":"))` -/
def dumps (value : Decoded) : Except Thrown (List Char) :=
  if interpreter.dumpsTooDeep value then .error .recursionError else .ok value.sortKeys.dumps

/-- `str(value)` -/
def str : Decoded → Except Thrown (List Nat)
  | .str codes => .ok codes
  | value => if interpreter.reprTooDeep value then .error .recursionError else .ok (codesOf (interpreter.repr value))

/-- `int(text)` -/
def parse (codes : List Nat) : Option Int := do
  let text ← textOfCodes codes
  if Decoded.tooManyDigits interpreter (text.toList.countP fun c => (decimalDigit c).isSome) then none
  else parseInt text

/-- `int(value)` -/
def int : Decoded → Except Thrown Int
  | .int number => .ok number
  | .bool value => .ok (if value then 1 else 0)
  | .float text =>
      if text = "NaN" then .error (.raised .valueError)
      else if text = "Infinity" ∨ text = "-Infinity" then .error (.raised .overflowError)
      else .ok (interpreter.truncated text)
  | .str codes =>
      match interpreter.parse codes with
      | some number => .ok number
      | none => .error (.raised .valueError)
  | .null | .arr _ | .obj _ => .error (.raised .typeError)

end Interpreter

end Python
end VoiceAssistants
