import VoiceAssistants.Exceptions
import VoiceAssistants.Python.IsoTime
import VoiceAssistants.Python.JsonText
import VoiceAssistants.Backend.FreeSlots

/-!
# Business hours, compiled and read

A company's profile gives hours for some weekdays, as text.  `compile_company_policy` checks each text with a regular
expression and `int`, and keeps the text; `_compute_free_slots` splits the text and reads it with `time.fromisoformat`.
The two agree where the digits are those of ASCII: `\d` and `int` know the digits of all scripts.

Of the compiler this is the part that reads `businessRules`.  `day.lower()` and `casefold()` are written out for the
letters that a weekday's name or `closed` can come from.
-/

namespace VoiceAssistants
namespace Capabilities

open Collections Python Exceptions
open GoogleCalendar (Dates Zone openingHours weekday weekdays splitHours computeFreeSlots freeSlots dayLength slotTurns)

/-! ## The texts -/

def isDecimal (c : Char) : Bool :=
  (decimalDigit c).isSome

/-- `[01]\d|2[0-3]` -/
def isHour (tens units : Char) : Bool :=
  (tens == '0' || tens == '1') && isDecimal units || tens == '2' && ['0', '1', '2', '3'].contains units

/-- `[0-5]\d` -/
def isMinute (tens units : Char) : Bool :=
  ['0', '1', '2', '3', '4', '5'].contains tens && isDecimal units

/-- A text that `(?:[01]\d|2[0-3]):[0-5]\d` matches. -/
structure Clock where
  hourTens : Char
  hourUnits : Char
  minuteTens : Char
  minuteUnits : Char
  isHour : isHour hourTens hourUnits = true
  isMinute : isMinute minuteTens minuteUnits = true
deriving DecidableEq

def Clock.text (clock : Clock) : List Char :=
  [clock.hourTens, clock.hourUnits, ':', clock.minuteTens, clock.minuteUnits]

/-- A clock time at the start of a text, and what follows it. -/
def matchClock : List Char → Option (Clock × List Char)
  | a :: b :: ':' :: c :: d :: rest =>
      if h : Capabilities.isHour a b = true ∧ Capabilities.isMinute c d = true then
        some (⟨a, b, c, d, h.1, h.2⟩, rest)
      else none
  | _ => none

/-- `_BUSINESS_HOURS_RE.fullmatch(text)` with its two groups.  White space is neither a hyphen nor a digit, so that each
`\s*` takes all there is. -/
def matchBusinessHours (text : List Char) : Option (Clock × Clock) :=
  match matchClock text with
  | none => none
  | some (opening, rest) =>
      match rest.dropWhile isSpace with
      | '-' :: rest =>
          match matchClock (rest.dropWhile isSpace) with
          | some (closing, []) => some (opening, closing)
          | _ => none
      | _ => none

/-- `(int(part) for part in group.split(":"))`; `none` is an exception. -/
def hourAndMinute (group : List Char) : Option (Int × Int) :=
  match (group.splitOn ':').map fun part => parseInt (String.ofList part) with
  | [some hour, some minute] => some (hour, minute)
  | _ => none

/-- `.replace("–", "-").replace("—", "-")` of a character. -/
def hyphen (c : Char) : Char :=
  if c.toNat = 0x2013 ∨ c.toNat = 0x2014 then '-' else c

/-- `casefold` of a character, where its result is one character of ASCII. -/
def fold (c : Char) : Char :=
  if c.toNat = 0x17f then 's' else c.toLower

/-- `day.lower()` -/
def lower (day : String) : String :=
  String.ofList (day.toList.map Char.toLower)

/-! ## The compiler -/

/-- The hours of a day: closed, or the times that the compiler has checked. -/
inductive DayHours
  | closed
  | range (opening closing : Clock)
deriving DecidableEq

/-- The text that the policy holds. -/
def DayHours.text : DayHours → String
  | .closed => "closed"
  | .range opening closing => String.ofList (opening.text ++ '-' :: closing.text)

/-- The body of the loop over the days, for one value. -/
def compileHoursValue (value : String) : Except String DayHours :=
  if value.length > 100 then .error "each business_hours value must be text up to 100 characters"
  else
    let normalizedValue := (strip value).toList.map hyphen
    if normalizedValue = [] ∨ normalizedValue.map fold = "closed".toList then .ok .closed
    else
      match matchBusinessHours normalizedValue with
      | none => .error "business_hours values must be 'Closed' or use HH:MM-HH:MM 24-hour local time"
      | some (opening, closing) =>
          match hourAndMinute opening.text, hourAndMinute closing.text with
          | some start, some stop =>
              -- the tuples are compared in order
              if start.1 > stop.1 ∨ start.1 = stop.1 ∧ start.2 ≥ stop.2 then
                .error "business_hours ranges must end after they start on the same day"
              else .ok (.range opening closing)
          | _, _ => .error "invalid literal for int() with base 10"

/-- The body of the loop over the days. -/
def compileDay (compiled : OrderedMap String DayHours) (member : String × Json) :
    Except String (OrderedMap String DayHours) :=
  if weekdays.contains (lower member.1) then
    match member.2 with
    | .str value => (compileHoursValue value).map fun hours => compiled.set (lower member.1) hours
    | _ => .error "each business_hours value must be text up to 100 characters"
  else .error "business_hours contains an invalid weekday"

/-- The hours of the profile, once they are known to be an object. -/
def compileBusinessHours (hours : Json) : Except String (OrderedMap String DayHours) :=
  match hours with
  | .obj members =>
      if members.length > 7 then .error "business_hours must contain at most seven weekdays"
      else members.foldlM compileDay .empty
  | _ => .error "business_hours must contain at most seven weekdays"

def compileTone : Json → Except String String
  | .str tone =>
      if ["professional", "friendly", "warm", "concise"].contains tone then .ok tone
      else .error "tone must be a supported response style"
  | _ => .error "tone must be a supported response style"

def compileEscalationRule : Json → Except String String
  | .str rule =>
      if rule.length > 500 then .error "each escalation rule must be text up to 500 characters" else .ok rule
  | _ => .error "each escalation rule must be text up to 500 characters"

def compileEscalationRules : Json → Except String (List String)
  | .arr rules =>
      if rules.length > 10 then .error "escalation_rules must contain at most ten items"
      else rules.mapM compileEscalationRule
  | _ => .error "escalation_rules must contain at most ten items"

/-- `businessRules` of the compiled policy; `business_hours` holds the text of each day. -/
structure BusinessRules where
  tone : String
  businessHours : OrderedMap String DayHours
  escalationRules : List String
deriving DecidableEq

/-- `business_rules` of a profile. -/
def businessRulesOf (profile : Json) : Json :=
  profile.getOr "businessRules" (.obj [])

/-- `hours` of a profile. -/
def businessHoursOf (profile : Json) : Json :=
  (businessRulesOf profile).getOr "business_hours" (.obj [])

/-- The part of `compile_company_policy` that compiles `businessRules`. -/
def compileBusinessRules (profile : Json) : Except String BusinessRules :=
  match businessRulesOf profile with
  | .obj rules => do
      let tone ← compileTone (((Json.obj rules).member? "tone").getD (.str "friendly"))
      let businessHours ← compileBusinessHours (businessHoursOf profile)
      let escalationRules ← compileEscalationRules ((Json.obj rules).getOr "escalation_rules" (.arr []))
      return ⟨tone, businessHours, escalationRules⟩
  | _ => .error "businessRules must be an object"

/-- `business_hours` of the compiled policy. -/
def BusinessRules.hoursTexts (rules : BusinessRules) : List (String × String) :=
  rules.businessHours.entries.map fun entry => (entry.1, entry.2.text)

/-! ## What a clock time stands for -/

/-- The value of a decimal digit, for a character that is one. -/
def digit (c : Char) : Nat :=
  (decimalDigit c).getD 0

theorem digit_eq (c : Char) : digit c = (decimalDigit c).getD 0 := rfl

theorem isDecimal_eq (c : Char) : isDecimal c = (decimalDigit c).isSome := rfl

theorem decimalDigit_of_isDecimal {c : Char} (h : isDecimal c = true) : decimalDigit c = some (digit c) := by
  obtain ⟨value, hvalue⟩ := Option.isSome_iff_exists.mp h
  rw [digit_eq, hvalue]
  rfl

theorem isDecimal_of_isDigit {c : Char} (h : c.isDigit = true) : isDecimal c = true := by
  rw [isDecimal_eq, decimalDigit_of_isDigit h]
  rfl

theorem digit_lt {c : Char} : digit c < 10 := by
  rw [digit_eq]
  cases hdigit : decimalDigit c with
  | none => exact Nat.zero_lt_succ 9
  | some value => exact decimalDigit_lt hdigit

theorem digit_of_isDigit {c : Char} (h : c.isDigit = true) : digit c = c.toNat - 0x30 := by
  rw [digit_eq, decimalDigit_of_isDigit h]
  rfl

/-- The colon is no digit, no white space and no dash. -/
theorem colon_facts : isDecimal ':' = false ∧ isSpace ':' = false ∧
    ':'.toNat ≠ 0x2d ∧ ':'.toNat ≠ 0x2013 ∧ ':'.toNat ≠ 0x2014 := by
  decide +kernel

namespace Clock

variable {clock : Clock}

def hour (clock : Clock) : Nat :=
  digit clock.hourTens * 10 + digit clock.hourUnits

def minute (clock : Clock) : Nat :=
  digit clock.minuteTens * 10 + digit clock.minuteUnits

/-- The time that the compiler has checked, since midnight. -/
def time (clock : Clock) : Int :=
  ((clock.hour : Int) * 60 + clock.minute) * minuteLength

/-- The digits are those of ASCII. -/
def ascii (clock : Clock) : Bool :=
  clock.hourUnits.isDigit && clock.minuteUnits.isDigit

/-- The hours: `0` or `1` and a decimal digit, or `2` and a digit up to `3`. -/
theorem hour_cases (clock : Clock) :
    (clock.hourTens = '0' ∨ clock.hourTens = '1') ∧ isDecimal clock.hourUnits = true ∨
      clock.hourTens = '2' ∧ clock.hourUnits ∈ ['0', '1', '2', '3'] := by
  have hvalid : ((clock.hourTens == '0' || clock.hourTens == '1') && isDecimal clock.hourUnits ||
      clock.hourTens == '2' && ['0', '1', '2', '3'].contains clock.hourUnits) = true := clock.isHour
  rw [Bool.or_eq_true, Bool.and_eq_true, Bool.and_eq_true, Bool.or_eq_true, beq_iff_eq, beq_iff_eq, beq_iff_eq,
    List.contains_iff_mem] at hvalid
  exact hvalid

/-- The minutes: a digit up to `5` and a decimal digit. -/
theorem minute_cases (clock : Clock) :
    clock.minuteTens ∈ ['0', '1', '2', '3', '4', '5'] ∧ isDecimal clock.minuteUnits = true := by
  have hvalid : (['0', '1', '2', '3', '4', '5'].contains clock.minuteTens && isDecimal clock.minuteUnits) = true :=
    clock.isMinute
  rw [Bool.and_eq_true, List.contains_iff_mem] at hvalid
  exact hvalid

theorem isDigit_hourTens (clock : Clock) : clock.hourTens.isDigit = true := by
  rcases clock.hour_cases with ⟨htens | htens, -⟩ | ⟨htens, -⟩
  all_goals
    rw [htens]
    rfl

theorem isDigit_minuteTens (clock : Clock) : clock.minuteTens.isDigit = true := by
  have hdigits : ∀ c ∈ ['0', '1', '2', '3', '4', '5'], c.isDigit = true := by simp
  exact hdigits _ clock.minute_cases.1

theorem isDecimal_hourUnits : isDecimal clock.hourUnits = true := by
  have hdigits : ∀ c ∈ ['0', '1', '2', '3'], c.isDigit = true := by simp
  rcases clock.hour_cases with ⟨-, hunits⟩ | ⟨-, hunits⟩
  · exact hunits
  · exact isDecimal_of_isDigit (hdigits _ hunits)

theorem isDecimal_minuteUnits : isDecimal clock.minuteUnits = true :=
  clock.minute_cases.2

/-- Every character is a decimal digit or the colon. -/
theorem mem_text {c : Char} (h : c ∈ clock.text) : isDecimal c = true ∨ c = ':' := by
  simp only [text, List.mem_cons, List.not_mem_nil, or_false] at h
  rcases h with rfl | rfl | rfl | rfl | rfl
  · exact .inl (isDecimal_of_isDigit (isDigit_hourTens _))
  · exact .inl isDecimal_hourUnits
  · exact .inr rfl
  · exact .inl (isDecimal_of_isDigit (isDigit_minuteTens _))
  · exact .inl isDecimal_minuteUnits

/-- Hours are below 24. -/
theorem hour_lt (hascii : clock.hourUnits.isDigit = true) : clock.hour < 24 := by
  have hunits := isDigit_eq.mp hascii
  unfold hour
  rw [digit_of_isDigit (isDigit_hourTens _), digit_of_isDigit hascii]
  have hsmall : ∀ c ∈ ['0', '1', '2', '3'], c.toNat ≤ 0x33 := by simp
  have h0 : '0'.toNat = 0x30 := rfl
  have h1 : '1'.toNat = 0x31 := rfl
  have h2 : '2'.toNat = 0x32 := rfl
  rcases clock.hour_cases with ⟨htens | htens, -⟩ | ⟨htens, hthree⟩
  · rw [htens, h0]
    omega
  · rw [htens, h1]
    omega
  · have hthree := hsmall _ hthree
    rw [htens, h2]
    omega

/-- Minutes are below 60. -/
theorem minute_lt (clock : Clock) : clock.minute < 60 := by
  have hsmall : ∀ c ∈ ['0', '1', '2', '3', '4', '5'], c.toNat ≤ 0x35 := by simp
  have htens := hsmall _ clock.minute_cases.1
  have hunits : digit clock.minuteUnits < 10 := digit_lt
  unfold minute
  rw [digit_of_isDigit (isDigit_minuteTens _)]
  omega

/-- The digits and the colon are no white space, and none of them is a dash. -/
theorem isSpace_text {c : Char} (h : c ∈ clock.text) : isSpace c = false := by
  rcases mem_text h with hdecimal | rfl
  · exact isSpace_of_decimalDigit (decimalDigit_of_isDecimal hdecimal)
  · exact colon_facts.2.1

theorem toNat_text {c : Char} (h : c ∈ clock.text) : c.toNat ≠ 0x2d ∧ c.toNat ≠ 0x2013 ∧ c.toNat ≠ 0x2014 := by
  rcases mem_text h with hdecimal | rfl
  · have hcode := toNat_of_decimalDigit (decimalDigit_of_isDecimal hdecimal)
    omega
  · exact colon_facts.2.2

theorem strip_text : strip (String.ofList clock.text) = String.ofList clock.text :=
  strip_ofList fun _ hc => isSpace_text hc

theorem decimalDigit_fields (clock : Clock) :
    decimalDigit clock.hourTens = some (digit clock.hourTens) ∧
      decimalDigit clock.hourUnits = some (digit clock.hourUnits) ∧
      decimalDigit clock.minuteTens = some (digit clock.minuteTens) ∧
      decimalDigit clock.minuteUnits = some (digit clock.minuteUnits) :=
  ⟨decimalDigit_of_isDecimal (isDecimal_of_isDigit (isDigit_hourTens _)), decimalDigit_of_isDecimal isDecimal_hourUnits,
    decimalDigit_of_isDecimal (isDecimal_of_isDigit (isDigit_minuteTens _)), decimalDigit_of_isDecimal isDecimal_minuteUnits⟩

/-- `int` reads both halves. -/
theorem hourAndMinute_text : hourAndMinute clock.text = some ((clock.hour : Int), (clock.minute : Int)) := by
  have hcolon : ':' ∉ [clock.hourTens, clock.hourUnits] ∧ ':' ∉ [clock.minuteTens, clock.minuteUnits] := by
    have hne : ∀ c, isDecimal c = true → ':' ≠ c := by
      rintro c hdecimal rfl
      exact Bool.false_ne_true (colon_facts.1.symm.trans hdecimal)
    have hhour := hne _ (isDecimal_of_isDigit (isDigit_hourTens clock))
    have hminute := hne _ (isDecimal_of_isDigit (isDigit_minuteTens clock))
    constructor
    · rw [List.mem_pair, not_or]
      exact ⟨hhour, hne _ isDecimal_hourUnits⟩
    · rw [List.mem_pair, not_or]
      exact ⟨hminute, hne _ isDecimal_minuteUnits⟩
  have hsplit : clock.text.splitOn ':' =
      [[clock.hourTens, clock.hourUnits], [clock.minuteTens, clock.minuteUnits]] := by
    have happend := List.splitOn_append_cons_self_of_not_mem hcolon.1 [clock.minuteTens, clock.minuteUnits]
    rw [List.splitOn_eq_singleton hcolon.2] at happend
    exact happend
  have hfields := decimalDigit_fields clock
  have hhour := parseInt_digits hfields.1 hfields.2.1
  have hminute := parseInt_digits hfields.2.2.1 hfields.2.2.2
  unfold hourAndMinute
  rw [hsplit, List.map_cons, List.map_cons, List.map_nil, hhour, hminute]
  rfl

/-- `time.fromisoformat` reads the text where the digits are those of ASCII, and then as the time that `int` read. -/
theorem timeFromIso_text :
    timeFromIso (String.ofList clock.text) = if clock.ascii then some clock.time else none := by
  have hfirst : clock.hourTens ≠ 'T' := by
    intro heq
    have hdigit := isDigit_hourTens clock
    rw [heq] at hdigit
    exact absurd hdigit (by decide)
  unfold text
  rw [timeFromIso_hourMinute hfirst]
  by_cases hascii : clock.ascii = true
  · have hunits := Bool.and_eq_true_iff.mp hascii
    have hhour := hour_lt hunits.1
    have hminute := minute_lt clock
    unfold hour at hhour
    unfold minute at hminute
    rw [digit_of_isDigit (isDigit_hourTens _), digit_of_isDigit hunits.1] at hhour
    rw [digit_of_isDigit (isDigit_minuteTens _), digit_of_isDigit hunits.2] at hminute
    rw [if_pos hascii]
    unfold twoDigits time hour minute
    rw [isDigit_hourTens, hunits.1, isDigit_minuteTens, hunits.2, digit_of_isDigit (isDigit_hourTens _),
      digit_of_isDigit hunits.1, digit_of_isDigit (isDigit_minuteTens _), digit_of_isDigit hunits.2]
    simp only [Bool.and_true, if_true, if_pos hhour, if_pos hminute]
    rfl
  · rw [if_neg hascii]
    rcases Bool.and_eq_false_iff.mp (eq_false_of_ne_true hascii) with hunits | hunits
    · rw [twoDigits, hunits, Bool.and_false]
      rfl
    · have hnone : twoDigits 60 clock.minuteTens clock.minuteUnits = none := by
        rw [twoDigits, hunits, Bool.and_false]
        rfl
      rw [hnone]
      cases twoDigits 24 clock.hourTens clock.hourUnits with
      | none => rfl
      | some hour => rfl

end Clock

/-! ## Texts whose digits are those of ASCII -/

/-- Every decimal digit of a text is one of ASCII. -/
def asciiDigits (text : List Char) : Bool :=
  text.all fun c => !isDecimal c || c.isDigit

theorem asciiDigits_append {text text' : List Char} :
    asciiDigits (text ++ text') = (asciiDigits text && asciiDigits text') :=
  List.all_append

theorem asciiDigits_cons {c : Char} {text : List Char} :
    asciiDigits (c :: text) = ((!isDecimal c || c.isDigit) && asciiDigits text) :=
  List.all_cons

theorem isDecimal_of_isSpace {c : Char} (h : isSpace c = true) : isDecimal c = false := by
  cases hdecimal : isDecimal c with
  | false => rfl
  | true =>
      rw [isSpace_of_decimalDigit (decimalDigit_of_isDecimal hdecimal)] at h
      cases h

theorem isDecimal_hyphen : isDecimal '-' = false := by
  decide +kernel

theorem fold_of_isDecimal {c : Char} (h : isDecimal c = true) : fold c = c := by
  have hcode := toNat_of_decimalDigit (decimalDigit_of_isDecimal h)
  have hother : c.toNat ≠ 0x17f := by omega
  have hupper : ¬ (c.val ≥ 'A'.val ∧ c.val ≤ 'Z'.val) := by
    intro hletter
    have hlow : 0x41 ≤ c.toNat := hletter.1
    have hhigh : c.toNat ≤ 0x5a := hletter.2
    omega
  rw [fold, if_neg hother]
  exact dif_neg hupper

/-- White space has no digits. -/
theorem asciiDigits_takeWhile {text : List Char} : asciiDigits (text.takeWhile isSpace) = true := by
  apply List.all_eq_true.mpr
  intro c hc
  rw [isDecimal_of_isSpace (List.mem_takeWhile_imp hc)]
  rfl

theorem asciiDigits_dropWhile {text : List Char} : asciiDigits (text.dropWhile isSpace) = asciiDigits text := by
  have hsplit : asciiDigits text = asciiDigits (text.takeWhile isSpace ++ text.dropWhile isSpace) := by
    rw [List.takeWhile_append_dropWhile]
  rw [hsplit, asciiDigits_append, asciiDigits_takeWhile, Bool.true_and]

theorem asciiDigits_strip {value : String} : asciiDigits (strip value).toList = asciiDigits value.toList := by
  have hreverse : ∀ text : List Char, asciiDigits text.reverse = asciiDigits text := fun _ => List.all_reverse
  unfold strip List.rdropWhile
  rw [String.toList_ofList, hreverse, asciiDigits_dropWhile, hreverse, asciiDigits_dropWhile]

/-- A dash and the hyphen that replaces it are no digits. -/
theorem asciiDigits_hyphen {text : List Char} : asciiDigits (text.map hyphen) = asciiDigits text := by
  unfold asciiDigits
  rw [List.all_map]
  congr 1
  funext c
  rw [Function.comp_apply]
  by_cases hdash : c.toNat = 0x2013 ∨ c.toNat = 0x2014
  · have hnot : isDecimal c = false := by
      cases hdecimal : isDecimal c with
      | false => rfl
      | true =>
          have hcode := toNat_of_decimalDigit (decimalDigit_of_isDecimal hdecimal)
          omega
    rw [hyphen, if_pos hdash, hnot, isDecimal_hyphen]
    rfl
  · rw [hyphen, if_neg hdash]

theorem asciiDigits_text {clock : Clock} : asciiDigits clock.text = clock.ascii := by
  unfold Clock.text Clock.ascii
  rw [asciiDigits_cons, asciiDigits_cons, asciiDigits_cons, asciiDigits_cons, asciiDigits_cons, Clock.isDigit_hourTens,
    Clock.isDigit_minuteTens, Clock.isDecimal_hourUnits, Clock.isDecimal_minuteUnits]
  rw [colon_facts.1]
  show (_ && (_ && (true && (_ && (_ && true))))) = _
  simp

/-! ## What the compiler accepts -/

theorem matchClock_eq_some {text rest : List Char} {clock : Clock} (h : matchClock text = some (clock, rest)) :
    text = clock.text ++ rest := by
  unfold matchClock at h
  split at h
  · split at h
    · cases h
      rfl
    · cases h
  · cases h

/-- A match is two clock times with a hyphen between them, and white space around it. -/
theorem asciiDigits_of_match {text : List Char} {opening closing : Clock}
    (h : matchBusinessHours text = some (opening, closing)) :
    asciiDigits text = (opening.ascii && closing.ascii) := by
  unfold matchBusinessHours at h
  split at h
  · cases h
  · rename_i first rest hopening
    split at h
    · rename_i last hrest
      split at h
      · rename_i second hclosing
        cases h
        have hlast : asciiDigits last = closing.ascii := by
          rw [← asciiDigits_dropWhile, matchClock_eq_some hclosing, List.append_nil, asciiDigits_text]
        have hrestDigits : asciiDigits rest = closing.ascii := by
          rw [← asciiDigits_dropWhile, hrest, asciiDigits_cons, isDecimal_hyphen, hlast]
          rfl
        rw [matchClock_eq_some hopening, asciiDigits_append, asciiDigits_text, hrestDigits]
      · cases h
    · cases h

/-- The value of a day that compiles: the digits of the range are those of the text, and the range ends after it starts. -/
theorem compileHoursValue_eq_range {value : String} {opening closing : Clock}
    (h : compileHoursValue value = .ok (.range opening closing)) :
    asciiDigits value.toList = (opening.ascii && closing.ascii) ∧ opening.time < closing.time := by
  unfold compileHoursValue at h
  split at h
  · cases h
  · rename_i hlength
    simp only at h
    split at h
    · cases h
    · split at h
      · cases h
      · rename_i first last hmatch
        rw [Clock.hourAndMinute_text, Clock.hourAndMinute_text] at h
        simp only at h
        split at h
        · cases h
        · rename_i hordered
          cases h
          constructor
          · rw [← asciiDigits_of_match hmatch, asciiDigits_hyphen, asciiDigits_strip]
          · have hopening := Clock.minute_lt opening
            have hclosing := Clock.minute_lt closing
            unfold Clock.time minuteLength
            omega

/-- A text that stands for a closed day has no digits. -/
theorem compileHoursValue_eq_closed {value : String} (h : compileHoursValue value = .ok .closed) :
    asciiDigits value.toList = true := by
  unfold compileHoursValue at h
  split at h
  · cases h
  · simp only at h
    split at h
    · rename_i hclosed
      rw [← asciiDigits_strip, ← asciiDigits_hyphen]
      rcases hclosed with hempty | hclosed
      · rw [hempty]
        rfl
      · apply List.all_eq_true.mpr
        intro c hc
        have hfold : fold c ∈ "closed".toList := hclosed ▸ List.mem_map_of_mem hc
        cases hdecimal : isDecimal c with
        | false => rfl
        | true =>
            -- a digit is not folded, and is no letter
            rw [fold_of_isDecimal hdecimal] at hfold
            have hletters : "closed".toList.all (fun c => !isDecimal c) = true := by decide +kernel
            have hletter : (!isDecimal c) = true := List.all_eq_true.mp hletters c hfold
            rw [hdecimal] at hletter
            cases hletter
    · split at h
      · cases h
      · split at h
        · split at h
          · cases h
          · cases h
        · cases h

/-! ## What the scheduler reads -/

/-- The times that the compiler has checked; `none` is a closed day. -/
def DayHours.times : DayHours → Option (Int × Int)
  | .closed => none
  | .range opening closing => some (opening.time, closing.time)

/-- What `_compute_free_slots` reads from the text of a day. -/
def readHours (dates : Dates) (value : String) : Option (Int × Int) :=
  if (strip value).toList.map Char.toLower = "closed".toList then none
  else
    match splitHours value with
    | [first, last] =>
        match dates.timeFromIso (strip first), dates.timeFromIso (strip last) with
        | some opening, some closing => if opening ≥ closing then none else some (opening, closing)
        | _, _ => none
    | _ => none

/-- The day is looked up by its name. -/
theorem openingHours_eq {dates : Dates} {rules : BusinessRules} {day : Int} :
    openingHours dates day (some rules.hoursTexts) =
      if rules.businessHours.entries = [] then some (9 * 3600000000, 17 * 3600000000)
      else (rules.businessHours.get (weekday day)).bind fun hours => readHours dates hours.text := by
  unfold openingHours BusinessRules.hoursTexts OrderedMap.get
  cases hentries : rules.businessHours.entries with
  | nil => rfl
  | cons entry rest =>
      have hne : entry :: rest ≠ [] := List.cons_ne_nil _ _
      rw [if_neg hne, Option.getD_some]
      dsimp only
      rw [List.find?_map, List.map_cons, List.isEmpty_cons, if_neg Bool.false_ne_true]
      have hpredicate : ((fun entry : String × String => decide (entry.1 = weekday day)) ∘
          fun entry : String × DayHours => (entry.1, entry.2.text)) = fun entry => decide (entry.1 = weekday day) := rfl
      rw [hpredicate]
      cases (entry :: rest).find? fun entry => decide (entry.1 = weekday day) with
      | none => rfl
      | some found =>
          dsimp only [Option.map_some, Option.bind_some]
          unfold readHours
          generalize splitHours found.2.text = parts
          rcases parts with _ | ⟨first, _ | ⟨last, _ | ⟨more, others⟩⟩⟩
          · rfl
          · rfl
          · cases dates.timeFromIso (strip first) <;> cases dates.timeFromIso (strip last) <;> rfl
          · rfl

/-- The text of a range has no white space and no dash. -/
theorem mem_range_text {opening closing : Clock} {c : Char} (h : c ∈ opening.text ++ '-' :: closing.text) :
    isSpace c = false ∧ hyphen c = c := by
  have hclock : ∀ clock : Clock, c ∈ clock.text → isSpace c = false ∧ hyphen c = c := by
    intro clock hc
    exact ⟨Clock.isSpace_text hc, if_neg (not_or.mpr (Clock.toNat_text hc).2)⟩
  rcases List.mem_append.mp h with hopening | hclosing
  · exact hclock opening hopening
  · rcases List.mem_cons.mp hclosing with rfl | hclosing
    · exact ⟨by decide, by decide⟩
    · exact hclock closing hclosing

theorem strip_range {opening closing : Clock} :
    strip (DayHours.range opening closing).text = (DayHours.range opening closing).text :=
  strip_ofList fun _ hc => (mem_range_text hc).1

/-- The text of a range splits at its hyphen into the two clock times. -/
theorem splitHours_range {opening closing : Clock} :
    splitHours (DayHours.range opening closing).text = [String.ofList opening.text, String.ofList closing.text] := by
  have hmap : (opening.text ++ '-' :: closing.text).map hyphen = opening.text ++ '-' :: closing.text := by
    conv_rhs => rw [← List.map_id (opening.text ++ '-' :: closing.text)]
    exact List.map_congr_left fun c hc => (mem_range_text hc).2
  have hnot : ∀ clock : Clock, '-' ∉ clock.text := fun clock hhyphen => (Clock.toNat_text hhyphen).1 rfl
  unfold splitHours
  rw [strip_range]
  show (((String.ofList (opening.text ++ '-' :: closing.text)).toList.map hyphen).splitOn '-').map String.ofList = _
  rw [String.toList_ofList, hmap, List.splitOn_append_cons_self_of_not_mem (hnot opening),
    List.splitOn_eq_singleton (hnot closing)]
  rfl

section Reading

variable {dates : Dates}

theorem readHours_closed : readHours dates DayHours.closed.text = none := by
  unfold readHours
  have hclosed : (strip DayHours.closed.text).toList.map Char.toLower = "closed".toList := by decide +kernel
  rw [if_pos hclosed]

/-- A range is read as it was checked, where its digits are those of ASCII; otherwise the day has no slots. -/
theorem readHours_range {opening closing : Clock} (h : opening.time < closing.time) :
    readHours { dates with timeFromIso := timeFromIso } (DayHours.range opening closing).text =
      if (opening.ascii && closing.ascii) = true then some (opening.time, closing.time) else none := by
  have hopen : ¬ (strip (DayHours.range opening closing).text).toList.map Char.toLower = "closed".toList := by
    intro hclosed
    have hlength := congrArg List.length hclosed
    rw [strip_range, List.length_map] at hlength
    unfold DayHours.text at hlength
    rw [String.toList_ofList, List.length_append] at hlength
    simp [Clock.text] at hlength
  unfold readHours
  rw [if_neg hopen, splitHours_range]
  simp only [Clock.strip_text, Clock.timeFromIso_text]
  cases hfirst : opening.ascii with
  | false => rfl
  | true =>
      cases hlast : closing.ascii with
      | false => rfl
      | true =>
          have hordered : ¬ opening.time ≥ closing.time := not_le.mpr h
          simp only [if_true, if_neg hordered, Bool.and_true]

end Reading

/-! ## The days of a profile -/

/-- The value that counts for a day: the last of those whose key is the day's name, but for upper and lower case. -/
def lastValue (members : List (String × Json)) (day : String) : Option Json :=
  ((members.filter fun member => lower member.1 = day).getLast?).map Prod.snd

/-- The digits that a profile's hours give for a day are those of ASCII. -/
def asciiHours (hours : Json) (day : String) : Bool :=
  match hours with
  | .obj members =>
      match lastValue members day with
      | some (.str value) => asciiDigits value.toList
      | _ => true
  | _ => true

theorem lastValue_concat {members : List (String × Json)} {member : String × Json} {day : String} :
    lastValue (members ++ [member]) day = if lower member.1 = day then some member.2 else lastValue members day := by
  unfold lastValue
  rw [List.filter_append]
  by_cases hday : lower member.1 = day
  · have hkept : [member].filter (fun member => lower member.1 = day) = [member] := by
      simp [hday]
    rw [hkept, List.getLast?_concat, if_pos hday]
    rfl
  · have hdropped : [member].filter (fun member => lower member.1 = day) = [] := by
      simp [hday]
    rw [hdropped, List.append_nil, if_neg hday]

/-- One day adds its hours under its name. -/
theorem compileDay_eq_ok {compiled compiled' : OrderedMap String DayHours} {member : String × Json}
    (h : compileDay compiled member = .ok compiled') :
    ∃ value hours, member.2 = .str value ∧ compileHoursValue value = .ok hours ∧
      compiled' = compiled.set (lower member.1) hours := by
  unfold compileDay at h
  split at h
  · split at h
    · rename_i value hvalue
      cases hhours : compileHoursValue value with
      | error message =>
          rw [hhours] at h
          cases h
      | ok hours =>
          rw [hhours] at h
          cases h
          exact ⟨value, hours, hvalue, hhours, rfl⟩
    · cases h
  · cases h

theorem weekday_of_compileDay {compiled compiled' : OrderedMap String DayHours} {member : String × Json}
    (h : compileDay compiled member = .ok compiled') : lower member.1 ∈ weekdays := by
  unfold compileDay at h
  split at h
  · rename_i hday
    exact List.contains_iff_mem.mp hday
  · cases h

/-- The hours of a day come from the value that counts for it. -/
def CompiledFrom (value : Option Json) (hours : Option DayHours) : Prop :=
  value = none ∧ hours = none ∨
    ∃ text compiled, value = some (.str text) ∧ hours = some compiled ∧ compileHoursValue text = .ok compiled

/-- One turn of the loop over the days. -/
theorem compiledFrom_step {members : List (String × Json)} {compiled compiled' : OrderedMap String DayHours}
    {member : String × Json} {day : String} (h : CompiledFrom (lastValue members day) (compiled.get day))
    (hnext : compileDay compiled member = .ok compiled') :
    CompiledFrom (lastValue (members ++ [member]) day) (compiled'.get day) := by
  obtain ⟨value, hours, hvalue, hhours, rfl⟩ := compileDay_eq_ok hnext
  rw [lastValue_concat, OrderedMap.get_set]
  by_cases hday : lower member.1 = day
  · rw [if_pos hday, if_pos hday.symm, hvalue]
    exact .inr ⟨value, hours, rfl, rfl, hhours⟩
  · rw [if_neg hday, if_neg (Ne.symm hday)]
    exact h

theorem compiledFrom_of_foldlM {members : List (String × Json)} {compiled : OrderedMap String DayHours}
    (h : members.foldlM compileDay .empty = .ok compiled) (day : String) :
    CompiledFrom (lastValue members day) (compiled.get day) :=
  foldlM_induction (motive := fun before compiled => CompiledFrom (lastValue before day) (compiled.get day))
    (.inl ⟨rfl, rfl⟩) (fun _ _ _ _ hbefore hnext => compiledFrom_step hbefore hnext) h

theorem compiledFrom_of_compile {hours : Json} {compiled : OrderedMap String DayHours}
    (h : compileBusinessHours hours = .ok compiled) :
    ∃ members, hours = .obj members ∧ ∀ day, CompiledFrom (lastValue members day) (compiled.get day) := by
  unfold compileBusinessHours at h
  split at h
  · rename_i members
    split at h
    · cases h
    · exact ⟨members, rfl, compiledFrom_of_foldlM h⟩
  · cases h

/-- What the loop over the days builds: a weekday's name for each entry, and at most one entry for each member. -/
theorem entries_of_foldlM {members : List (String × Json)} {compiled : OrderedMap String DayHours}
    (h : members.foldlM compileDay .empty = .ok compiled) :
    compiled.entries.length ≤ members.length ∧ ∀ entry ∈ compiled.entries, entry.1 ∈ weekdays := by
  refine foldlM_induction (motive := fun before (compiled : OrderedMap String DayHours) =>
    compiled.entries.length ≤ before.length ∧ ∀ entry ∈ compiled.entries, entry.1 ∈ weekdays) ?hstart ?hstep h
  case hstart => exact ⟨Nat.le_refl 0, fun entry hentry => absurd hentry List.not_mem_nil⟩
  case hstep =>
    rintro before state member next ⟨hlength, hdays⟩ hnext
    have hday := weekday_of_compileDay hnext
    obtain ⟨value, hours, -, -, rfl⟩ := compileDay_eq_ok hnext
    constructor
    · rw [List.length_append]
      exact le_trans OrderedMap.length_entries_set_le (Nat.add_le_add_right hlength 1)
    · intro entry hentry
      rcases OrderedMap.mem_of_mem_set hentry with rfl | hold
      · exact hday
      · exact hdays entry hold

theorem entries_of_compile {hours : Json} {compiled : OrderedMap String DayHours}
    (h : compileBusinessHours hours = .ok compiled) :
    compiled.entries.length ≤ 7 ∧ ∀ entry ∈ compiled.entries, entry.1 ∈ weekdays := by
  unfold compileBusinessHours at h
  split at h
  · split at h
    · cases h
    · rename_i hseven
      have hentries := entries_of_foldlM h
      exact ⟨le_trans hentries.1 (not_lt.mp hseven), hentries.2⟩
  · cases h

theorem length_text (hours : DayHours) : hours.text.length ≤ 11 := by
  cases hours with
  | closed => decide
  | range opening closing =>
      unfold DayHours.text
      rw [String.length_ofList]
      exact Nat.le_refl 11

/-- The rules of a profile hold its compiled hours. -/
theorem compileBusinessHours_of_rules {profile : Json} {rules : BusinessRules}
    (h : compileBusinessRules profile = .ok rules) :
    compileBusinessHours (businessHoursOf profile) = .ok rules.businessHours := by
  unfold compileBusinessRules at h
  split at h
  · rename_i members hmembers
    cases htone : compileTone (((Json.obj members).member? "tone").getD (.str "friendly")) with
    | error message =>
        rw [htone] at h
        cases h
    | ok tone =>
        cases hhours : compileBusinessHours (businessHoursOf profile) with
        | error message =>
            rw [htone, hhours] at h
            cases h
        | ok businessHours =>
            cases hrules : compileEscalationRules ((Json.obj members).getOr "escalation_rules" (.arr [])) with
            | error message =>
                rw [htone, hhours, hrules] at h
                cases h
            | ok escalationRules =>
                rw [htone, hhours, hrules] at h
                cases h
                rfl
  · cases h

/-! ## The two agree -/

/-- The hours that the compiled policy means for a day: nine to five where no day has hours, none where the day has none
or is closed, and otherwise the times that the compiler has checked. -/
def BusinessRules.meaning (rules : BusinessRules) (day : Int) : Option (Int × Int) :=
  if rules.businessHours.entries = [] then some (9 * 3600000000, 17 * 3600000000)
  else (rules.businessHours.get (weekday day)).bind DayHours.times

section Agreement

variable {dates : Dates} {profile : Json} {rules : BusinessRules}

/-- The hours of a day, on both sides. -/
theorem meaning_cases (h : compileBusinessRules profile = .ok rules) (day : Int) :
    openingHours { dates with timeFromIso := timeFromIso } day (some rules.hoursTexts) = rules.meaning day ∧
        asciiHours (businessHoursOf profile) (weekday day) = true ∨
      openingHours { dates with timeFromIso := timeFromIso } day (some rules.hoursTexts) ≠ rules.meaning day ∧
        asciiHours (businessHoursOf profile) (weekday day) = false := by
  obtain ⟨members, hmembers, hfrom⟩ := compiledFrom_of_compile (compileBusinessHours_of_rules h)
  have hascii : asciiHours (businessHoursOf profile) (weekday day) = asciiHours (.obj members) (weekday day) := by
    rw [hmembers]
  rw [openingHours_eq, BusinessRules.meaning, hascii]
  unfold asciiHours
  dsimp only
  rcases hfrom (weekday day) with ⟨hvalue, hnone⟩ | ⟨value, hours, hvalue, hhours, hcompiled⟩
  · -- the day has no hours
    rw [hvalue, hnone, Option.bind_none, Option.bind_none]
    exact .inl ⟨rfl, rfl⟩
  · have hne : rules.businessHours.entries ≠ [] := by
      intro hempty
      have hmem := OrderedMap.mem_entries.mpr hhours
      rw [hempty] at hmem
      cases hmem
    rw [hvalue, hhours, if_neg hne, if_neg hne]
    dsimp only [Option.bind_some]
    cases hours with
    | closed =>
        rw [readHours_closed, compileHoursValue_eq_closed hcompiled]
        exact .inl ⟨rfl, rfl⟩
    | range opening closing =>
        obtain ⟨hdigits, hordered⟩ := compileHoursValue_eq_range hcompiled
        rw [readHours_range hordered, hdigits]
        by_cases hboth : (opening.ascii && closing.ascii) = true
        · rw [if_pos hboth]
          exact .inl ⟨rfl, hboth⟩
        · rw [if_neg hboth]
          exact .inr ⟨nofun, eq_false_of_ne_true hboth⟩

theorem openingHours_of_ascii (h : compileBusinessRules profile = .ok rules) {day : Int}
    (hascii : asciiHours (businessHoursOf profile) (weekday day) = true) :
    openingHours { dates with timeFromIso := timeFromIso } day (some rules.hoursTexts) = rules.meaning day := by
  rcases meaning_cases h day with ⟨hread, -⟩ | ⟨-, hother⟩
  · exact hread
  · rw [hascii] at hother
    cases hother

theorem ascii_of_openingHours (h : compileBusinessRules profile = .ok rules) {day : Int}
    (hread : openingHours { dates with timeFromIso := timeFromIso } day (some rules.hoursTexts) = rules.meaning day) :
    asciiHours (businessHoursOf profile) (weekday day) = true := by
  rcases meaning_cases  h day with ⟨-, hascii⟩ | ⟨hne, -⟩
  · exact hascii
  · exact absurd hread hne

/-- The slots of a day are those between the times that the compiler has checked. -/
theorem computeFreeSlots_agree (h : compileBusinessRules profile = .ok rules) {day : Int}
    (hascii : asciiHours (businessHoursOf profile) (weekday day) = true) (zone : Zone) (busy : List (Int × Int))
    (durationMinutes : Nat) :
    computeFreeSlots { dates with timeFromIso := timeFromIso } zone day busy durationMinutes (some rules.hoursTexts) =
      (rules.meaning day).elim [] fun hours =>
        freeSlots zone busy (durationMinutes * 60000000) (day * dayLength + hours.2)
          (zone.toUtc (day * dayLength + hours.2)) (slotTurns hours.1 hours.2) (day * dayLength + hours.1) := by
  unfold computeFreeSlots
  rw [openingHours_of_ascii h hascii]
  cases rules.meaning day with
  | none => rfl
  | some hours => rfl

/-- The scheduler reads the hours of a day as the compiler means them exactly where their digits are those of ASCII. -/
theorem hours_agree_iff (h : compileBusinessRules profile = .ok rules) (day : Int) :
    openingHours { dates with timeFromIso := timeFromIso } day (some rules.hoursTexts) = rules.meaning day ↔
      asciiHours (businessHoursOf profile) (weekday day) = true :=
  ⟨ascii_of_openingHours h, openingHours_of_ascii h⟩

end Agreement

/-! ## Two profiles -/

/-- A profile that gives hours for Monday only. -/
def sampleProfile (monday : String) : Json :=
  .obj [("businessRules", .obj [("business_hours", .obj [("Monday", .str monday)])])]

/-- Dates of which nothing is used but times. -/
def noDates : Dates :=
  ⟨fun _ => none, fun _ => "", fun _ => none, fun _ => none, fun _ => ""⟩

/-- The rules of the profile, when it is accepted. -/
def sampleRules (monday : String) : Option BusinessRules :=
  (compileBusinessRules (sampleProfile monday)).toOption

/-- A Monday (the day 4) with an en dash and spaces. -/
theorem hours_agree_iff_monday :
    ∃ rules, compileBusinessRules (sampleProfile " 09:00 – 17:00 ") = .ok rules ∧
      (openingHours { noDates with timeFromIso := timeFromIso } 4 (some rules.hoursTexts) = rules.meaning 4 ↔
        asciiHours (businessHoursOf (sampleProfile " 09:00 – 17:00 ")) (weekday 4) = true) := by
  have haccepted : (sampleRules " 09:00 – 17:00 ").isSome = true := by decide +kernel
  obtain ⟨rules, hrules⟩ := Option.isSome_iff_exists.mp haccepted
  have hcompiled := toOption_eq_some.mp hrules
  exact ⟨rules, hcompiled, hours_agree_iff hcompiled 4⟩

/-- The nine of another script: the compiler means nine to five, the scheduler sees a closed day. -/
theorem hours_of_other_script :
    ∃ rules, compileBusinessRules (sampleProfile "0٩:00-17:00") = .ok rules ∧
      rules.meaning 4 = some (9 * 3600000000, 17 * 3600000000) ∧
      openingHours { noDates with timeFromIso := timeFromIso } 4 (some rules.hoursTexts) = none := by
  have haccepted : (sampleRules "0٩:00-17:00").any (fun rules =>
      decide (rules.meaning 4 = some (9 * 3600000000, 17 * 3600000000) ∧
        openingHours { noDates with timeFromIso := timeFromIso } 4 (some rules.hoursTexts) = none)) = true := by
    decide +kernel
  obtain ⟨rules, hrules, hboth⟩ := (Option.any_eq_true _ _).mp haccepted
  exact ⟨rules, toOption_eq_some.mp hrules, of_decide_eq_true hboth⟩

end Capabilities
end VoiceAssistants
