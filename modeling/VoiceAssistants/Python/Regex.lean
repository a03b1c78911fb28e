import VoiceAssistants.Python.JsonText

/-!
# Regular expressions of Python's `re` module

`Regex.parse` reads the syntax that the patterns of the repository are written in, and `Regex.search` is `re.search` as far
as it says whether there is a match.  Of a match it matters only where it can end, so `Regex.ends` gives every such
position.  What is known of the characters of Unicode is the parameter `Unicode`.
-/

namespace VoiceAssistants
namespace Python

/-- The methods of `str`, and the module `unicodedata`. -/
structure Unicode where
  /-- `text.lower()` -/
  lower : String → String
  /-- `text.casefold()` -/
  casefold : String → String
  /-- `unicodedata.normalize("NFKD", text)` -/
  nfkd : String → String
  /-- `unicodedata.combining(c) != 0` -/
  combining : Char → Bool
  /-- `c.isalnum()` -/
  isAlnum : Char → Bool
  /-- `c.isdecimal()` -/
  isDecimal : Char → Bool
  /-- The characters that `re.IGNORECASE` takes for the same as one. -/
  variants : Char → List Char

/-- `\w` -/
def Unicode.isWord (unicode : Unicode) (c : Char) : Bool :=
  unicode.isAlnum c || c == '_'

namespace Regex

/-! ## Patterns -/

/-- What stands in a set. -/
inductive Item
  | char (c : Char)
  | range (first last : Char)
  | space
  | digit
  | word

end Regex

inductive Regex
  | empty
  | set (negated : Bool) (items : List Regex.Item)
  | seq (first second : Regex)
  | alt (first second : Regex)
  /-- `least` times and up to `extra` times more; `none` is any number. -/
  | repeated (least : Nat) (extra : Option Nat) (body : Regex)
  | start
  | finish
  | boundary

namespace Regex

section Parsing

/-- A character or a class, in a set or by itself. -/
def parseItem : List Char → Option (Item × List Char)
  | '\\' :: 's' :: rest => some (.space, rest)
  | '\\' :: 'd' :: rest => some (.digit, rest)
  | '\\' :: 'w' :: rest => some (.word, rest)
  | '\\' :: 'u' :: a :: b :: c :: d :: rest => (Json.hexQuad a b c d).map fun code => (.char (Char.ofNat code), rest)
  | '\\' :: c :: rest => if c.isAlphanum then none else some (.char c, rest)
  | c :: rest => some (.char c, rest)
  | [] => none

/-- The items of a set up to its bracket. -/
def parseItems : Nat → List Char → Option (List Item × List Char)
  | 0, _ => none
  | _ + 1, ']' :: rest => some ([], rest)
  | fuel + 1, text => do
      let (item, rest) ← parseItem text
      match item, rest with
      | .char _, '-' :: ']' :: rest => return ([item, .char '-'], rest)
      | .char first, '-' :: rest =>
          match ← parseItem rest with
          | (.char last, rest) =>
              let (items, rest) ← parseItems fuel rest
              return (.range first last :: items, rest)
          | _ => none
      | _, rest =>
          let (items, rest) ← parseItems fuel rest
          return (item :: items, rest)

def parseNat (text : List Char) : Option (Nat × List Char) :=
  let digits := text.takeWhile Char.isDigit
  if digits.isEmpty then none
  else some (digits.foldl (fun value c => value * 10 + (c.toNat - '0'.toNat)) 0, text.dropWhile Char.isDigit)

/-- What follows an atom. -/
def parseQuantifier (body : Regex) : List Char → Option (Regex × List Char)
  | '*' :: rest => some (.repeated 0 none body, rest)
  | '+' :: rest => some (.repeated 1 none body, rest)
  | '?' :: rest => some (.repeated 0 (some 1) body, rest)
  | '\x7b' :: rest => do
      let (least, rest) ← parseNat rest
      match rest with
      | '\x7d' :: rest => return (.repeated least (some 0) body, rest)
      | ',' :: '\x7d' :: rest => return (.repeated least none body, rest)
      | ',' :: rest =>
          match ← parseNat rest with
          | (most, '\x7d' :: rest) => return (.repeated least (some (most - least)) body, rest)
          | _ => none
      | _ => none
  | rest => some (body, rest)

mutual

/-- Alternatives, up to a closing parenthesis. -/
def parseAlternatives : Nat → List Char → Option (Regex × List Char)
  | 0, _ => none
  | fuel + 1, text => do
      let (first, rest) ← parseSequence fuel text
      match rest with
      | '|' :: rest =>
          let (second, rest) ← parseAlternatives fuel rest
          return (.alt first second, rest)
      | rest => return (first, rest)
termination_by structural fuel => fuel

def parseSequence : Nat → List Char → Option (Regex × List Char)
  | 0, _ => none
  | _ + 1, [] => some (.empty, [])
  | fuel + 1, c :: rest =>
      if c = ')' ∨ c = '|' then some (.empty, c :: rest)
      else do
        let (atom, rest) ← parseAtom fuel (c :: rest)
        let (first, rest) ← parseQuantifier atom rest
        let (second, rest) ← parseSequence fuel rest
        return (.seq first second, rest)
termination_by structural fuel => fuel

def parseAtom : Nat → List Char → Option (Regex × List Char)
  | 0, _ => none
  | fuel + 1, '(' :: rest => do
      let inner ←
        match rest with
        | '?' :: ':' :: rest => some rest
        | '?' :: _ => none
        | rest => some rest
      match ← parseAlternatives fuel inner with
      | (inner, ')' :: rest) => return (inner, rest)
      | _ => none
  | fuel + 1, '[' :: '^' :: rest => (parseItems fuel rest).map fun (items, rest) => (.set true items, rest)
  | fuel + 1, '[' :: rest => (parseItems fuel rest).map fun (items, rest) => (.set false items, rest)
  | _ + 1, '\\' :: 'b' :: rest => some (.boundary, rest)
  | _ + 1, '^' :: rest => some (.start, rest)
  | _ + 1, '$' :: rest => some (.finish, rest)
  | _ + 1, '.' :: rest => some (.set true [.char '\n'], rest)
  | _ + 1, text =>
      if text.head?.any ['*', '+', '?', '\x7b'].contains then none
      else (parseItem text).map fun (item, rest) => (.set false [item], rest)
termination_by structural fuel => fuel

end

/-- A whole pattern, as its characters. -/
def parseText (pattern : List Char) : Option Regex :=
  match parseAlternatives (3 * pattern.length + 3) pattern with
  | some (regex, []) => some regex
  | _ => none

/-- `re.compile(pattern)`; `none` is a syntax that is not used. -/
def parse (pattern : String) : Option Regex :=
  parseText pattern.toList

/-- The patterns of a list are all in the syntax. -/
def AllParse (patterns : List String) : Prop :=
  ∀ pattern ∈ patterns, (parse pattern).isSome = true

theorem allParse_nil : AllParse [] :=
  fun _ hpattern => nomatch hpattern

/-- A pattern is parsed as its characters, since the kernel reads them off a literal at once. -/
theorem allParse_cons {chars : List Char} {patterns : List String} (h : (parseText chars).isSome = true)
    (hpatterns : AllParse patterns) : AllParse (String.ofList chars :: patterns) := by
  intro other hother
  rcases List.mem_cons.mp hother with rfl | hmem
  · rw [parse, String.toList_ofList]
    exact h
  · exact hpatterns other hmem

end Parsing

/-! ## Matching -/

section Matching

variable (unicode : Unicode) (ignoreCase : Bool) (text : List Char)

def Item.contains (c : Char) : Item → Bool
  | .char other => c == other
  | .range first last => first.toNat ≤ c.toNat && c.toNat ≤ last.toNat
  | .space => isSpace c
  | .digit => unicode.isDecimal c
  | .word => unicode.isWord c

/-- A character is one of the items, in one of its cases. -/
def inSet (items : List Item) (c : Char) : Bool :=
  items.any fun item => item.contains unicode c || ignoreCase && (unicode.variants c).any (item.contains unicode)

/-- `\b` -/
def atBoundary (position : Nat) : Bool :=
  let before := 0 < position && text[position - 1]?.any unicode.isWord
  let after := text[position]?.any unicode.isWord
  before != after

/-- `$`, which is also before a newline at the end. -/
def atFinish (position : Nat) : Bool :=
  position == text.length || position + 1 == text.length && text[position]? == some '\n'

/-- The positions after `count` steps. -/
def times (next : Nat → List Nat) : (count : Nat) → List Nat → List Nat
  | 0, positions => positions
  | count + 1, positions => times next count (positions.flatMap next).eraseDups

/-- The positions after up to `count` steps. -/
def within (next : Nat → List Nat) : (count : Nat) → List Nat → List Nat
  | 0, positions => positions
  | count + 1, positions =>
      if positions.isEmpty then []
      else positions ++ within next count (positions.flatMap next).eraseDups

/-- Where a match that starts at a position can end. -/
def ends : Regex → Nat → List Nat
  | .empty, position => [position]
  | .set negated items, position =>
      if text[position]?.any fun c => inSet unicode ignoreCase items c != negated then [position + 1] else []
  | .seq first second, position => ((first.ends position).flatMap second.ends).eraseDups
  | .alt first second, position => first.ends position ++ second.ends position
  | .repeated least extra body, position =>
      (within body.ends (extra.getD text.length) (times body.ends least [position])).eraseDups
  | .start, position => if position = 0 then [position] else []
  | .finish, position => if atFinish text position then [position] else []
  | .boundary, position => if atBoundary unicode text position then [position] else []

/-- `bool(re.search(pattern, text))` -/
def search (regex : Regex) : Bool :=
  (List.range (text.length + 1)).any fun position => !(regex.ends unicode ignoreCase text position).isEmpty

/-- None of the patterns has a match. -/
def NoneMatch (patterns : List String) : Prop :=
  ∀ pattern ∈ patterns, ((parse pattern).any fun regex => regex.search unicode ignoreCase text) = false

variable {unicode} {ignoreCase} {text}

theorem noneMatch_nil : NoneMatch unicode ignoreCase text [] := by
  intro pattern hpattern
  cases hpattern

/-- As `allParse_cons`. -/
theorem noneMatch_cons {chars : List Char} {patterns : List String}
    (h : ((parseText chars).any fun regex => regex.search unicode ignoreCase text) = false)
    (hpatterns : NoneMatch unicode ignoreCase text patterns) :
    NoneMatch unicode ignoreCase text (String.ofList chars :: patterns) := by
  intro other hother
  rcases List.mem_cons.mp hother with rfl | hmem
  · rw [parse, String.toList_ofList]
    exact h
  · exact hpatterns other hmem

theorem any_filterMap_parse {patterns : List String} (h : NoneMatch unicode ignoreCase text patterns) :
    ((patterns.filterMap parse).any fun regex => regex.search unicode ignoreCase text) = false := by
  rw [List.any_eq_false]
  intro regex hregex
  obtain ⟨pattern, hpattern, hparse⟩ := List.mem_filterMap.mp hregex
  have hnone := h pattern hpattern
  rw [hparse, Option.any_some] at hnone
  rw [hnone]
  exact Bool.false_ne_true

/-- Every match has a character. -/
def consumes : Regex → Bool
  | .set _ _ => true
  | .seq first second => first.consumes || second.consumes
  | .alt first second => first.consumes && second.consumes
  | .repeated least _ body => decide (0 < least) && body.consumes
  | .empty | .start | .finish | .boundary => false

theorem times_nil (next : Nat → List Nat) (count : Nat) : times next count [] = [] := by
  induction count with
  | zero => rfl
  | succ count ih => exact ih

theorem within_nil (next : Nat → List Nat) (count : Nat) : within next count [] = [] := by
  cases count with
  | zero => rfl
  | succ count => rfl

theorem ends_of_consumes {regex : Regex} (h : regex.consumes = true) (position : Nat) :
    regex.ends unicode ignoreCase [] position = [] := by
  induction regex generalizing position with
  | set negated items => rfl
  | seq first second ihFirst ihSecond =>
      rw [ends]
      rcases Bool.or_eq_true _ _ ▸ h with hfirst | hsecond
      · rw [ihFirst hfirst]
        rfl
      · have hnone : second.ends unicode ignoreCase [] = fun _ => [] := funext (ihSecond hsecond)
        rw [hnone, List.flatMap_eq_nil_iff.mpr fun _ _ => rfl]
        rfl
  | alt first second ihFirst ihSecond =>
      obtain ⟨hfirst, hsecond⟩ := Bool.and_eq_true _ _ ▸ h
      rw [ends, ihFirst hfirst, ihSecond hsecond]
      rfl
  | repeated least extra body ih =>
      obtain ⟨hleast, hbody⟩ := Bool.and_eq_true _ _ ▸ h
      obtain ⟨fewer, rfl⟩ := Nat.exists_eq_add_of_lt (of_decide_eq_true hleast)
      have hnone : body.ends unicode ignoreCase [] = fun _ => [] := funext (ih hbody)
      have htimes : times (fun _ => []) (0 + fewer + 1) [position] = [] := times_nil _ (0 + fewer)
      rw [ends, hnone, htimes, within_nil]
      rfl
  | empty => cases h
  | start => cases h
  | finish => cases h
  | boundary => cases h

/-- There is no such match in the empty text. -/
theorem search_nil {regex : Regex} (h : regex.consumes = true) : regex.search unicode ignoreCase [] = false := by
  rw [search, List.any_eq_false]
  intro position _
  rw [ends_of_consumes h]
  exact Bool.false_ne_true

end Matching

end Regex
end Python
end VoiceAssistants
