import VoiceAssistants.Python.Integers

/-!
# Times of day in ISO 8601

`timeFromIso` is `time.fromisoformat(text)` as documented: hours, hours and minutes, or hours, minutes and seconds, with
colons or without, a fraction of a second, and a leading `T`; only the digits of ASCII count.  A time is the number of
microseconds since midnight.  Offsets from UTC are left out.
-/

namespace VoiceAssistants
namespace Python

/-- A minute in microseconds. -/
def minuteLength : Int := 60000000

/-- Two ASCII digits that stand for a number below `bound`. -/
def twoDigits (bound : Nat) (tens units : Char) : Option Int :=
  if tens.isDigit && units.isDigit then
    let value := (tens.toNat - 0x30) * 10 + (units.toNat - 0x30)
    if value < bound then some value else none
  else none

/-- What follows the seconds: nothing, or a decimal mark and digits, of which six count. -/
def fractionFromIso : List Char → Option Int
  | [] => some 0
  | mark :: digits =>
      if (mark = '.' || mark = ',') && !digits.isEmpty && digits.all Char.isDigit then
        some (((digits ++ List.replicate 6 '0').take 6).foldl (fun value c => value * 10 + (c.toNat - 0x30)) 0 : Nat)
      else none

/-- What follows the minutes: nothing, or seconds; `separator` is `":"` or empty. -/
def secondsFromIso (separator : List Char) (text : List Char) : Option Int :=
  if text = [] then some 0
  else if separator.isPrefixOf text then
    match text.drop separator.length with
    | tens :: units :: fraction => do
        let second ← twoDigits 60 tens units
        let microsecond ← fractionFromIso fraction
        some (second * 1000000 + microsecond)
    | _ => none
  else none

/-- What follows the hours: nothing, or minutes. -/
def minutesFromIso : List Char → Option Int
  | [] => some 0
  | ':' :: tens :: units :: seconds => do
      let minute ← twoDigits 60 tens units
      let rest ← secondsFromIso [':'] seconds
      some (minute * minuteLength + rest)
  | tens :: units :: seconds => do
      let minute ← twoDigits 60 tens units
      let rest ← secondsFromIso [] seconds
      some (minute * minuteLength + rest)
  | _ => none

/-- `time.fromisoformat(text)`; `none` is the `ValueError`. -/
def timeFromIso (text : String) : Option Int :=
  let unprefixed := if text.toList.head? = some 'T' then text.toList.tail else text.toList
  match unprefixed with
  | tens :: units :: minutes => do
      let hour ← twoDigits 24 tens units
      let rest ← minutesFromIso minutes
      some (hour * (60 * minuteLength) + rest)
  | _ => none

/-- A time of five characters: hours, a colon and minutes. -/
theorem timeFromIso_hourMinute {a b c d : Char} (h : a ≠ 'T') :
    timeFromIso (String.ofList [a, b, ':', c, d]) =
      (twoDigits 24 a b).bind fun hour => (twoDigits 60 c d).map fun minute => (hour * 60 + minute) * minuteLength := by
  have hhead : [a, b, ':', c, d].head? ≠ some 'T' := fun heq => h (Option.some.inj heq)
  unfold timeFromIso
  rw [String.toList_ofList, if_neg hhead]
  show ((twoDigits 24 a b).bind fun hour => (minutesFromIso [':', c, d]).bind fun rest =>
    some (hour * (60 * minuteLength) + rest)) = _
  congr 1
  funext hour
  show (((twoDigits 60 c d).bind fun minute => some (minute * minuteLength + 0)).bind fun rest =>
    some (hour * (60 * minuteLength) + rest)) = _
  cases twoDigits 60 c d with
  | none => rfl
  | some minute =>
      show some (hour * (60 * minuteLength) + (minute * minuteLength + 0)) = some ((hour * 60 + minute) * minuteLength)
      congr 1
      unfold minuteLength
      omega

example : timeFromIso "T0930" = timeFromIso "09:30:00.000000" := by decide +kernel

end Python
end VoiceAssistants
