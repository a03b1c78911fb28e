import VoiceAssistants.Python.JsonRoundTrip

/-!
# Flat objects as `JSON.stringify` writes them

`stringify` is `JSON.stringify` of an object whose members are texts and integers.  It escapes what JSON requires and
writes every other character as it is, where Python's `json.dumps` writes ASCII only.

* `loads_stringify` — Python reads it back.
* `stringify_eq_dumps_iff` — the two write an object alike exactly if its texts are of ASCII without the delete character.
-/

namespace VoiceAssistants
namespace JavaScript

open Python
open Python.Json (hexEscape shortEscapes dumpsString dumpsInt Delimited)

/-- A text or an integer. -/
inductive Scalar
  | text (value : String)
  | int (value : Int)
  deriving DecidableEq, Repr

def Scalar.json : Scalar → Json
  | text value => .str value
  | int value => .int value

/-- The object, as Python sees it. -/
def jsonMembers (members : List (String × Scalar)) : List (String × Json) :=
  members.map fun member => (member.1, member.2.json)

/-- A character of a string. -/
def stringifyChar (c : Char) : List Char :=
  match shortEscapes.find? (·.1 = c) with
  | some escape => ['\\', escape.2]
  | none => if 0x20 ≤ c.toNat then [c] else hexEscape c.toNat

def stringifyString (text : String) : List Char :=
  '"' :: (text.toList.flatMap stringifyChar ++ ['"'])

def stringifyScalar : Scalar → List Char
  | .text value => stringifyString value
  | .int value => dumpsInt value

/-- The rest of an object. -/
def stringifyMembers : List (String × Scalar) → List Char
  | [] => ['\x7d']
  | (key, value) :: members =>
      ',' :: (stringifyString key ++ ':' :: (stringifyScalar value ++ stringifyMembers members))

/-- `JSON.stringify(object)` -/
def stringify : List (String × Scalar) → List Char
  | [] => ['\x7b', '\x7d']
  | (key, value) :: members =>
      '\x7b' :: (stringifyString key ++ ':' :: (stringifyScalar value ++ stringifyMembers members))

/-! ## Reading -/

/-- The escape of a character is read as the character. -/
theorem scanUnits_stringifyChar (c : Char) (rest : List Char) :
    Json.scanUnits (stringifyChar c ++ rest) =
      (Json.scanUnits rest).map fun scanned => (c.toNat :: scanned.1, scanned.2) := by
  unfold stringifyChar
  cases hfind : shortEscapes.find? (·.1 = c) with
  | some escape =>
      have hmem : escape ∈ shortEscapes := List.mem_of_find?_eq_some hfind
      have hc : escape.1 = c := by simpa using List.find?_some hfind
      subst hc
      simp only [shortEscapes, List.mem_cons, List.not_mem_nil, or_false] at hmem
      rcases hmem with rfl | rfl | rfl | rfl | rfl | rfl | rfl
      all_goals exact Json.scanUnits_short (by decide) (by decide) rest
  | none =>
      by_cases hprints : 0x20 ≤ c.toNat
      · have hquote : c ≠ '"' := by
          rintro rfl
          cases hfind
        have hslash : c ≠ '\\' := by
          rintro rfl
          cases hfind
        simp only [hprints, if_true]
        exact Json.scanUnits_plain hquote hslash hprints rest
      · simp only [hprints, if_false]
        exact Json.scanUnits_hexEscape (by omega) rest

theorem scanUnits_stringify (text rest : List Char) :
    Json.scanUnits (text.flatMap stringifyChar ++ '"' :: rest) = some (text.map Char.toNat, rest) := by
  induction text with
  | nil => rfl
  | cons c text ih =>
      rw [List.flatMap_cons, List.append_assoc, scanUnits_stringifyChar, ih]
      rfl

/-- Characters that are written as they are need not be joined. -/
theorem joinUnits_codes (text : List Char) : Json.joinUnits (text.map Char.toNat) = some text := by
  induction text with
  | nil => rfl
  | cons c text ih =>
      have hvalid := Json.toNat_not_surrogate c
      rw [List.map_cons, Json.joinUnits_scalar (by omega), ih, Char.ofNat_toNat]
      rfl

theorem scanString_stringify (text : String) (rest : List Char) :
    Json.scanString (text.toList.flatMap stringifyChar ++ '"' :: rest) = some (text, rest) := by
  simp only [Json.scanString, scanUnits_stringify, joinUnits_codes, Option.bind_eq_bind, Option.bind_some,
    String.ofList_toList]
  rfl

/-- A scalar's text starts a value. -/
theorem startsValue_scalar (value : Scalar) : Json.StartsValue (stringifyScalar value) := by
  cases value with
  | text value => exact ⟨'"', _, rfl, by decide, by decide⟩
  | int value =>
      have hcanonical : Json.Canonical default (.int value) := trivial
      exact Json.startsValue_dumps hcanonical

/-- A scalar is scanned from its text. -/
theorem scanValue_scalar (floats : Json.Floats) (value : Scalar) {rest : List Char} (fuel : Nat) (hrest : Delimited rest) :
    Json.scanValue floats (fuel + 1) (stringifyScalar value ++ rest) = some (value.json, rest) := by
  cases value with
  | text value =>
      simp only [stringifyScalar, stringifyString, List.cons_append, List.append_assoc, List.nil_append, Json.scanValue,
        scanString_stringify, if_true, Option.map_some]
      rfl
  | int value =>
      obtain ⟨hnumber, hchars⟩ := Json.numberOf_dumpsInt floats value
      obtain ⟨c, text, htext, -⟩ := startsValue_scalar (.int value)
      have hne : dumpsInt value ≠ [] := by
        intro hnil
        rw [stringifyScalar, hnil] at htext
        cases htext
      exact Json.scanValue_scalar (Json.scanScalar_number hnumber hchars hrest) (Json.head_of_numberChars hchars) hne

theorem scanKey_stringify {key : String} {value rest : List Char} (hvalue : Json.StartsValue value) :
    Json.scanKey (stringifyString key ++ ':' :: (value ++ rest)) = some (key, value ++ rest) := by
  have hskip : Json.skipSpace (':' :: (value ++ rest)) = ':' :: (value ++ rest) := rfl
  rw [stringifyString, List.cons_append, List.append_assoc, List.singleton_append]
  simp only [Json.scanKey, scanString_stringify, hskip, (hvalue.skipSpace rest).1]

theorem delimited_members (members : List (String × Scalar)) (rest : List Char) :
    Delimited (stringifyMembers members ++ rest) := by
  cases members <;>
  · intro c hc
    obtain rfl := Option.some.inj hc
    rfl

theorem scanMembers_stringify (floats : Json.Floats) (members : List (String × Scalar)) (rest : List Char) {fuel : Nat}
    (hfuel : members.length < fuel) :
    Json.scanMembers floats fuel (stringifyMembers members ++ rest) = some (jsonMembers members, rest) := by
  induction members generalizing fuel with
  | nil =>
      cases fuel with
      | zero => cases hfuel
      | succ fuel => rfl
  | cons member members ih =>
      obtain ⟨key, value⟩ := member
      cases fuel with
      | zero => cases hfuel
      | succ fuel =>
          have hfuel' : members.length < fuel := Nat.lt_of_succ_lt_succ hfuel
          obtain ⟨fuel, rfl⟩ : ∃ n, fuel = n + 1 := Nat.exists_eq_succ_of_ne_zero (by omega)
          have htext : stringifyMembers ((key, value) :: members) ++ rest =
              ',' :: (stringifyString key ++ ':' :: (stringifyScalar value ++ (stringifyMembers members ++ rest))) := by
            simp [stringifyMembers]
          have hcomma : Json.skipSpace (',' :: (stringifyString key ++ ':' :: (stringifyScalar value ++
              (stringifyMembers members ++ rest)))) =
              ',' :: (stringifyString key ++ ':' :: (stringifyScalar value ++ (stringifyMembers members ++ rest))) := rfl
          have hskip : Json.skipSpace (stringifyString key ++ ':' :: (stringifyScalar value ++
              (stringifyMembers members ++ rest))) =
              stringifyString key ++ ':' :: (stringifyScalar value ++ (stringifyMembers members ++ rest)) := rfl
          have hkey : Json.scanKey (stringifyString key ++ ':' :: (stringifyScalar value ++
              (stringifyMembers members ++ rest))) = some (key, stringifyScalar value ++ (stringifyMembers members ++ rest)) :=
            scanKey_stringify (startsValue_scalar value)
          have hfirst := scanValue_scalar floats value fuel (delimited_members members rest)
          rw [htext, Json.scanMembers, hcomma]
          simp only [Option.bind_eq_bind, hskip, hkey, hfirst, Option.bind_some, ih hfuel']
          rfl

theorem length_stringifyMembers (members : List (String × Scalar)) : members.length < (stringifyMembers members).length := by
  induction members with
  | nil => decide
  | cons member members ih =>
      obtain ⟨key, value⟩ := member
      simp only [stringifyMembers, List.length_cons, List.length_append]
      omega

/-- Python reads an object of different names as it was written. -/
theorem loads_stringify {floats : Json.Floats} {members : List (String × Scalar)}
    (hnames : (members.map Prod.fst).Nodup) :
    Json.loads floats (stringify members) = some (.obj (jsonMembers members)) := by
  cases members with
  | nil => rfl
  | cons member members =>
      obtain ⟨key, value⟩ := member
      have hnames' : ((jsonMembers ((key, value) :: members)).map Prod.fst).Nodup := by
        simpa [jsonMembers, Function.comp_def] using hnames
      -- what follows the brace
      have hlength : members.length + 1 < (stringify ((key, value) :: members)).length := by
        have hshort := length_stringifyMembers members
        simp only [stringify, List.length_cons, List.length_append]
        omega
      obtain ⟨fuel, hfuel⟩ : ∃ n, (stringify ((key, value) :: members)).length = n + 1 :=
        Nat.exists_eq_succ_of_ne_zero (by omega)
      have hskip : Json.skipSpace (stringifyString key ++ ':' :: (stringifyScalar value ++ stringifyMembers members)) =
          stringifyString key ++ ':' :: (stringifyScalar value ++ stringifyMembers members) := rfl
      have hhead : (stringifyString key ++ ':' :: (stringifyScalar value ++ stringifyMembers members)).head? ≠
          some '\x7d' := by
        simp [stringifyString]
      have hkey : Json.scanKey (stringifyString key ++ ':' :: (stringifyScalar value ++ stringifyMembers members)) =
          some (key, stringifyScalar value ++ stringifyMembers members) :=
        scanKey_stringify (startsValue_scalar value)
      have hdelimited := delimited_members members []
      have hothers := scanMembers_stringify floats members [] (show members.length < fuel + 1 by omega)
      rw [List.append_nil] at hdelimited hothers
      have hfirst := scanValue_scalar floats value fuel hdelimited
      have hscan : Json.scanValue floats ((stringify ((key, value) :: members)).length + 1)
          (stringify ((key, value) :: members)) = some (.obj (jsonMembers ((key, value) :: members)), []) := by
        rw [hfuel, stringify, Json.scanValue, if_neg (by decide), if_neg (by decide), if_pos rfl, hskip, if_neg hhead, hkey]
        simp only [Option.bind_eq_bind, Option.bind_some, hfirst, hothers]
        have hdict : Json.dict ((key, value.json) :: jsonMembers members) = jsonMembers ((key, value) :: members) :=
          Json.dict_of_nodup hnames'
        rw [hdict]
        rfl
      have hspace : Json.skipSpace (stringify ((key, value) :: members)) = stringify ((key, value) :: members) := rfl
      simp only [Json.loads, hspace, hscan]
      rfl

/-! ## The two writers -/

/-- Python writes no delete character, and nothing beyond ASCII. -/
theorem lt_of_mem_escapeChar {original c : Char} (h : c ∈ Json.escapeChar original) : c.toNat < 0x7f := by
  unfold Json.escapeChar at h
  cases hfind : shortEscapes.find? (·.1 = original) with
  | some escape =>
      have hmem : escape ∈ shortEscapes := List.mem_of_find?_eq_some hfind
      have hshort : shortEscapes.all (fun escape => ['\\', escape.2].all fun c => decide (c.toNat < 0x7f)) = true := by
        decide
      rw [hfind] at h
      exact of_decide_eq_true (List.all_eq_true.mp (List.all_eq_true.mp hshort escape hmem) c h)
  | none =>
      simp only [hfind] at h
      split at h
      · rename_i hprints
        obtain rfl := List.mem_singleton.mp h
        omega
      · obtain ⟨unit, -, hmem⟩ := List.mem_flatMap.mp h
        have hdigits : ∀ d < 16, (Nat.digitChar d).toNat < 0x7f := by decide
        simp only [hexEscape, List.mem_cons, List.not_mem_nil, or_false] at hmem
        rcases hmem with rfl | rfl | rfl | rfl | rfl | rfl
        · decide
        · decide
        all_goals exact hdigits _ (by omega)

/-- A character is written alike by both exactly if it is of ASCII and not the delete character. -/
theorem stringifyChar_eq {c : Char} (h : c.toNat < 0x7f) : stringifyChar c = Json.escapeChar c := by
  unfold stringifyChar Json.escapeChar
  cases shortEscapes.find? (·.1 = c) with
  | some escape => rfl
  | none =>
      by_cases hprints : 0x20 ≤ c.toNat
      · have hplain : 0x20 ≤ c.toNat ∧ c.toNat ≤ 0x7e := ⟨hprints, by omega⟩
        simp only [hprints, hplain, and_self, if_true]
      · have hunits : Json.units c = [c.toNat] := if_pos (by omega)
        simp only [hprints, false_and, if_false, hunits, List.flatMap_cons, List.flatMap_nil, List.append_nil]

theorem mem_stringifyChar {c : Char} (h : 0x7f ≤ c.toNat) : c ∈ stringifyChar c := by
  unfold stringifyChar
  cases hfind : shortEscapes.find? (·.1 = c) with
  | some escape =>
      have hmem : escape ∈ shortEscapes := List.mem_of_find?_eq_some hfind
      have hc : escape.1 = c := by simpa using List.find?_some hfind
      have hshort : shortEscapes.all (fun escape => decide (escape.1.toNat < 0x7f)) = true := by decide
      have hsmall := of_decide_eq_true (List.all_eq_true.mp hshort escape hmem)
      rw [hc] at hsmall
      omega
  | none =>
      have hprints : 0x20 ≤ c.toNat := by omega
      simp only [hprints, if_true]
      exact List.mem_cons_self

/-- A text of ASCII without the delete character. -/
def Plain (text : String) : Prop :=
  ∀ c ∈ text.toList, c.toNat < 0x7f

theorem plain_iff_all {text : String} : text.toList.all (fun c => c.toNat < 0x7f) = true ↔ Plain text := by
  simp [Plain]

instance (text : String) : Decidable (Plain text) :=
  decidable_of_iff _ plain_iff_all

/-- A text is written alike by both exactly if it is plain. -/
theorem stringifyString_eq_iff {text : String} : stringifyString text = dumpsString text ↔ Plain text := by
  constructor
  · intro h c hc
    by_cases hsmall : c.toNat < 0x7f
    · exact hsmall
    · -- such a character is in the one text only
      have hmem : c ∈ text.toList.flatMap stringifyChar :=
        List.mem_flatMap.mpr ⟨c, hc, mem_stringifyChar (by omega)⟩
      rw [List.append_cancel_right (List.cons.inj h).2] at hmem
      obtain ⟨original, -, hescape⟩ := List.mem_flatMap.mp hmem
      exact lt_of_mem_escapeChar hescape
  · intro h
    have hsame : text.toList.flatMap stringifyChar = text.toList.flatMap Json.escapeChar :=
      List.flatMap_congr fun c hc => stringifyChar_eq (h c hc)
    rw [stringifyString, hsame, dumpsString]

def Scalar.Plain : Scalar → Prop
  | text value => JavaScript.Plain value
  | int _ => True

instance (value : Scalar) : Decidable value.Plain :=
  match value with
  | .text value => inferInstanceAs (Decidable (Plain value))
  | .int _ => inferInstanceAs (Decidable True)

theorem stringifyScalar_eq_iff {value : Scalar} : stringifyScalar value = value.json.dumps ↔ value.Plain := by
  cases value with
  | text value => exact stringifyString_eq_iff
  | int value => exact ⟨fun _ => trivial, fun _ => rfl⟩

/-- The members whose names and values are plain. -/
def PlainMembers (members : List (String × Scalar)) : Prop :=
  ∀ member ∈ members, Plain member.1 ∧ member.2.Plain

instance (members : List (String × Scalar)) : Decidable (PlainMembers members) :=
  inferInstanceAs (Decidable (∀ member ∈ members, Plain member.1 ∧ member.2.Plain))

theorem plainMembers_nil : PlainMembers [] :=
  fun _ hmember => absurd hmember List.not_mem_nil

theorem plainMembers_cons {key : String} {value : Scalar} {members : List (String × Scalar)} :
    PlainMembers ((key, value) :: members) ↔ (Plain key ∧ value.Plain) ∧ PlainMembers members :=
  List.forall_mem_cons

theorem stringifyMembers_eq {members : List (String × Scalar)} (h : PlainMembers members) :
    stringifyMembers members = Json.dumpsMembers (jsonMembers members) := by
  induction members with
  | nil => rfl
  | cons member members ih =>
      obtain ⟨key, value⟩ := member
      obtain ⟨⟨hkey, hvalue⟩, hothers⟩ := plainMembers_cons.mp h
      rw [stringifyMembers, stringifyString_eq_iff.mpr hkey, stringifyScalar_eq_iff.mpr hvalue, ih hothers]
      rfl

/-! ### What only JavaScript writes -/

theorem lt_of_mem_dumpsString {text : String} {c : Char} (h : c ∈ dumpsString text) : c.toNat < 0x7f := by
  rw [dumpsString, List.mem_cons, List.mem_append, List.mem_singleton] at h
  rcases h with rfl | h | rfl
  · decide
  · obtain ⟨original, -, hescape⟩ := List.mem_flatMap.mp h
    exact lt_of_mem_escapeChar hescape
  · decide

theorem lt_of_isNumberChar {c : Char} (h : Json.isNumberChar c = true) : c.toNat < 0x7f := by
  simp only [Json.isNumberChar, Bool.or_eq_true, beq_iff_eq] at h
  rcases h with ((((h | rfl) | rfl) | rfl) | rfl) | rfl
  · have hdigit := Char.isDigit_iff_toNat.mp h
    have hnine : '9'.toNat = 0x39 := rfl
    omega
  all_goals decide

theorem lt_of_mem_dumpsScalar {value : Scalar} {c : Char} (h : c ∈ value.json.dumps) : c.toNat < 0x7f := by
  cases value with
  | text value => exact lt_of_mem_dumpsString h
  | int value =>
      obtain ⟨-, hchars⟩ := Json.numberOf_dumpsInt default value
      exact lt_of_isNumberChar (List.all_eq_true.mp hchars c h)

theorem lt_of_mem_dumpsMembers {members : List (String × Scalar)} {c : Char}
    (h : c ∈ Json.dumpsMembers (jsonMembers members)) : c.toNat < 0x7f := by
  induction members with
  | nil =>
      obtain rfl := List.mem_singleton.mp h
      decide
  | cons member members ih =>
      obtain ⟨key, value⟩ := member
      have hsplit : c = ',' ∨ c ∈ dumpsString key ∨ c = ':' ∨ c ∈ value.json.dumps ∨
          c ∈ Json.dumpsMembers (jsonMembers members) := by
        simpa [jsonMembers, Json.dumpsMembers] using h
      rcases hsplit with rfl | hkey | rfl | hvalue | hothers
      · decide
      · exact lt_of_mem_dumpsString hkey
      · decide
      · exact lt_of_mem_dumpsScalar hvalue
      · exact ih hothers

theorem mem_stringifyString {text : String} {c : Char} (hmem : c ∈ text.toList) (hc : 0x7f ≤ c.toNat) :
    c ∈ stringifyString text := by
  have hchars : c ∈ text.toList.flatMap stringifyChar := List.mem_flatMap.mpr ⟨c, hmem, mem_stringifyChar hc⟩
  exact List.mem_cons_of_mem _ (List.mem_append_left _ hchars)

/-- Members that are not plain have a character in their text that Python never writes. -/
theorem exists_mem_stringifyMembers {members : List (String × Scalar)} (h : ¬ PlainMembers members) :
    ∃ c ∈ stringifyMembers members, 0x7f ≤ c.toNat := by
  induction members with
  | nil => exact absurd plainMembers_nil h
  | cons member members ih =>
      obtain ⟨key, value⟩ := member
      by_cases hkey : Plain key
      · by_cases hvalue : value.Plain
        · have hothers : ¬ PlainMembers members := by
            intro hplain
            exact h (plainMembers_cons.mpr ⟨⟨hkey, hvalue⟩, hplain⟩)
          obtain ⟨c, hmem, hc⟩ := ih hothers
          refine ⟨c, ?_, hc⟩
          simp [stringifyMembers, hmem]
        · cases value with
          | int value => exact absurd trivial hvalue
          | text value =>
              obtain ⟨c, hmem, hc⟩ : ∃ c ∈ value.toList, ¬ c.toNat < 0x7f := by
                simpa [Scalar.Plain, Plain] using hvalue
              have hvalueText := mem_stringifyString hmem (not_lt.mp hc)
              refine ⟨c, ?_, not_lt.mp hc⟩
              simp [stringifyMembers, stringifyScalar, hvalueText]
      · obtain ⟨c, hmem, hc⟩ : ∃ c ∈ key.toList, ¬ c.toNat < 0x7f := by
          simpa [Plain] using hkey
        have hkeyText := mem_stringifyString hmem (not_lt.mp hc)
        refine ⟨c, ?_, not_lt.mp hc⟩
        simp [stringifyMembers, hkeyText]

/-- Both languages write an object alike exactly if its members are plain. -/
theorem stringify_eq_dumps_iff {members : List (String × Scalar)} :
    stringify members = (Json.obj (jsonMembers members)).dumps ↔ PlainMembers members := by
  cases members with
  | nil => exact ⟨fun _ => plainMembers_nil, fun _ => rfl⟩
  | cons member members =>
      -- apart from its first character the text is that of the members after a comma
      obtain ⟨key, value⟩ := member
      have hstringify : stringify ((key, value) :: members) =
          '\x7b' :: (stringifyMembers ((key, value) :: members)).tail := rfl
      have hdumps : (Json.obj (jsonMembers ((key, value) :: members))).dumps =
          '\x7b' :: (Json.dumpsMembers (jsonMembers ((key, value) :: members))).tail := rfl
      rw [hstringify, hdumps, List.cons.injEq, eq_self, true_and]
      constructor
      · intro hsame
        by_contra hplain
        obtain ⟨c, hmem, hc⟩ := exists_mem_stringifyMembers hplain
        have hwritten : c ∈ Json.dumpsMembers (jsonMembers ((key, value) :: members)) := by
          have hcons : c ∈ ',' :: (stringifyMembers ((key, value) :: members)).tail := hmem
          rw [hsame] at hcons
          exact hcons
        have hsmall := lt_of_mem_dumpsMembers hwritten
        omega
      · intro hplain
        rw [stringifyMembers_eq hplain]

end JavaScript
end VoiceAssistants
