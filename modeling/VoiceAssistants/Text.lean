import Mathlib.Data.List.DropRight
import Mathlib.Data.List.Sort

/-!
# Text in JavaScript and in Python

Both languages' strings are modelled as strings of code points.  What differs is what is measured:
JavaScript's `length` counts UTF-16 code units and its `sort` compares them, Python's `len` counts code points;
and Python's `str.strip` removes every character of `str.isspace` from both ends, where JavaScript's `trim` removes
its own white space.

A UUID is its 128-bit value.  `Uuid.parse` is Python's `uuid.UUID(text)` as documented: a string of 32
hexadecimal digits in which curly braces, hyphens and a URN prefix are optional.
-/

namespace VoiceAssistants

/-- A literal is the list of its characters. -/
theorem toList_literal {text : String} {chars : List Char} (htext : text = String.ofList chars) : text.toList = chars := by
  rw [htext, String.toList_ofList]

theorem not_mem_toList {c : Char} {text : String} {chars : List Char} (htext : text = String.ofList chars)
    (h : c ∉ chars) : c ∉ text.toList := by
  rw [toList_literal htext]
  exact h

/-- The number of UTF-16 code units of a character. -/
def utf16Units (c : Char) : Nat :=
  if c.val < 0x10000 then 1 else 2

/-- JavaScript's `value.length`. -/
def jsLength (value : String) : Nat :=
  value.toList.foldl (fun units c => units + utf16Units c) 0

/-- The UTF-16 code units of a text. -/
def utf16Codes (text : String) : List Nat :=
  text.toList.flatMap fun c =>
    let code := c.toNat
    if code < 0x10000 then [code]
    else [0xd800 + (code - 0x10000) / 0x400, 0xdc00 + (code - 0x10000) % 0x400]

/-- The lexicographic order of JavaScript's string comparison. -/
def lexLe : List Nat → List Nat → Bool
  | [], _ => true
  | _ :: _, [] => false
  | a :: as, b :: bs => if a = b then lexLe as bs else a < b

/-- `texts.slice().sort()`. -/
def jsSort (texts : List String) : List String :=
  texts.insertionSort fun a b => lexLe (utf16Codes a) (utf16Codes b)

/-- `boundedString(value, maxLength)`: a non-empty string of at most `maxLength` units, or `null`.  A value
that is not a string is `none`. -/
def boundedString (value : Option String) (maxLength : Nat) : Option String :=
  value.filter fun text => 0 < jsLength text && jsLength text ≤ maxLength

theorem boundedString_eq_some {value : Option String} {maxLength : Nat} {text : String}
    (h : boundedString value maxLength = some text) : value = some text :=
  (Option.filter_eq_some_iff.mp h).1

/-- The characters for which Python's `str.isspace` is true. -/
def isSpace (c : Char) : Bool :=
  let code := c.toNat
  (0x09 ≤ code && code ≤ 0x0d) || (0x1c ≤ code && code ≤ 0x20) || code == 0x85 || code == 0xa0 ||
    code == 0x1680 || (0x2000 ≤ code && code ≤ 0x200a) || code == 0x2028 || code == 0x2029 ||
    code == 0x202f || code == 0x205f || code == 0x3000

/-- Python's `text.strip()`. -/
def strip (text : String) : String :=
  String.ofList ((text.toList.dropWhile isSpace).rdropWhile isSpace)

/-- The white space and the line terminators of JavaScript. -/
def isJsSpace (c : Char) : Bool :=
  let code := c.toNat
  (0x09 ≤ code && code ≤ 0x0d) || code == 0x20 || code == 0xa0 || code == 0x1680 ||
    (0x2000 ≤ code && code ≤ 0x200a) || code == 0x2028 || code == 0x2029 || code == 0x202f || code == 0x205f ||
    code == 0x3000 || code == 0xfeff

/-- JavaScript's `text.trim()`. -/
def jsTrim (text : String) : String :=
  String.ofList ((text.toList.dropWhile isJsSpace).rdropWhile isJsSpace)

/-- Dropping at the end keeps a first element that is not dropped. -/
theorem dropWhile_rdropWhile {α : Type} (p : α → Bool) (l : List α) :
    ((l.dropWhile p).rdropWhile p).dropWhile p = (l.dropWhile p).rdropWhile p := by
  cases hl : (l.dropWhile p).rdropWhile p with
  | nil => rfl
  | cons c rest =>
      have hprefix : (c :: rest) <+: l.dropWhile p := hl ▸ List.rdropWhile_prefix p _
      obtain ⟨tail, htail⟩ := hprefix
      have hhead : p c = false := by
        have hne : l.dropWhile p ≠ [] := by
          rw [← htail]
          simp
        have := List.head_dropWhile_not p hne
        simpa [← htail] using this
      simp [hhead]

@[simp] theorem strip_strip (text : String) : strip (strip text) = strip text := by
  simp [strip, dropWhile_rdropWhile, List.rdropWhile_idempotent]

@[simp] theorem jsTrim_jsTrim (text : String) : jsTrim (jsTrim text) = jsTrim text := by
  simp [jsTrim, dropWhile_rdropWhile, List.rdropWhile_idempotent]

/-- A text without white space stays as it is. -/
theorem strip_ofList {text : List Char} (h : ∀ c ∈ text, isSpace c = false) :
    strip (String.ofList text) = String.ofList text := by
  have hleft : text.dropWhile isSpace = text := by
    apply List.dropWhile_eq_self_iff.mpr
    intro hpos
    rw [h _ (List.getElem_mem hpos)]
    exact Bool.false_ne_true
  have hright : text.rdropWhile isSpace = text := by
    apply List.rdropWhile_eq_self_iff.mpr
    intro hne
    rw [h _ (List.getLast_mem hne)]
    exact Bool.false_ne_true
  unfold strip
  rw [String.toList_ofList, hleft, hright]

/-! ## UUIDs -/

/-- A UUID. -/
abbrev Uuid := BitVec 128

/-- Python's `text.replace(pattern, "")`: drop every occurrence from left to right.  `skip` counts the
characters of the current occurrence that are still to be dropped. -/
def removeAll (pattern : List Char) : Nat → List Char → List Char
  | _, [] => []
  | skip + 1, _ :: rest => removeAll pattern skip rest
  | 0, c :: rest =>
      if pattern.isPrefixOf (c :: rest) then removeAll pattern (pattern.length - 1) rest
      else c :: removeAll pattern 0 rest

/-- The value of a hexadecimal digit. -/
def hexDigit (c : Char) : Option Nat :=
  if '0' ≤ c && c ≤ '9' then some (c.toNat - '0'.toNat)
  else if 'a' ≤ c && c ≤ 'f' then some (c.toNat - 'a'.toNat + 10)
  else if 'A' ≤ c && c ≤ 'F' then some (c.toNat - 'A'.toNat + 10)
  else none

/-- The value of a string of hexadecimal digits. -/
def hexValue (digits : List Char) : Option Nat :=
  digits.foldlM (fun value c => (hexDigit c).map (value * 16 + ·)) 0

/-- `uuid.UUID(text)`; `none` is the `ValueError`. -/
def Uuid.parse (text : String) : Option Uuid :=
  let unprefixed := removeAll "uuid:".toList 0 (removeAll "urn:".toList 0 text.toList)
  let brace (c : Char) : Bool := c.toNat == 0x7b || c.toNat == 0x7d
  let digits := ((unprefixed.dropWhile brace).rdropWhile brace).filter (· != '-')
  if digits.length = 32 then (hexValue digits).map (BitVec.ofNat 128) else none

/-- `str(uuid)`: the hexadecimal digits in groups of 8, 4, 4, 4 and 12. -/
def Uuid.text (uuid : Uuid) : String :=
  let digits := (List.range 32).map fun i => Nat.digitChar ((uuid >>> (4 * (31 - i))).toNat % 16)
  let group (start length : Nat) : String := String.ofList ((digits.drop start).take length)
  "-".intercalate [group 0 8, group 8 4, group 12 4, group 16 4, group 20 12]

example :
    Uuid.parse "11111111-1111-4111-8111-111111111111" =
      Uuid.parse "urn:uuid:11111111111141118111111111111111" := by
  decide +kernel

end VoiceAssistants
