import Outdent.Source.Extent
import Outdent.Toml.Strings
import Outdent.Value

/-!
# Numbers and points in time of settings files

Integers in four bases, floats, days and times of a day. A reader takes a value from the front of a
text and gives back what is left.
-/
namespace Outdent.Toml

open Text

/-- The number that digits write which underscores may separate. -/
def ofSeparated (base : Nat) (digits : Text) : Nat := ofDigits base (digits.filter (· != '_'))

/-- An integer in base two, eight or sixteen. -/
def based? : Reader Value
  | '0' :: letter :: rest =>
    let base := if letter = 'x' then 16 else if letter = 'o' then 8 else if letter = 'b' then 2
      else 0
    match Source.digitsLength (isDigit base) rest with
    | 0 => none
    | length => some (.integer (ofSeparated base (rest.take length)), rest.drop length)
  | _ => none

/-- Length of the whole part of a number: a zero, or digits that begin with another one. -/
def wholeLength : Text → Nat
  | '0' :: _ => 1
  | text => Source.digitsLength Char.isDigit text

/-- Length of the part of a number behind its point, with the point. -/
def fractionLength : Text → Nat
  | '.' :: rest =>
    match Source.digitsLength Char.isDigit rest with
    | 0 => 0
    | length => length + 1
  | _ => 0

/-- An integer or a float in base ten. -/
def decimal? (text : Text) : Option (Value × Text) :=
  let (negative, text) := match text with
    | '-' :: rest => (true, rest)
    | '+' :: rest => (false, rest)
    | rest => (false, rest)
  match wholeLength text with
  | 0 => none
  | whole =>
    let rest := text.drop whole
    let fraction := fractionLength rest
    let behind := rest.drop fraction
    let exponent := Source.exponentLength behind
    let left := behind.drop exponent
    if fraction = 0 && exponent = 0 then
      let value := Int.ofNat (ofSeparated 10 (text.take whole))
      some (.integer (if negative then -value else value), left)
    else
      let places := (rest.take fraction).filter Char.isDigit
      let digits := ofSeparated 10 (text.take whole ++ places)
      let power := Int.ofNat (ofSeparated 10 ((behind.take exponent).filter Char.isDigit))
      let power := if (behind.take exponent).contains '-' then -power else power
      some (.float (floatOfDecimal negative digits (power - places.length)), left)

/-- The floats that are no numbers. -/
def unusual? : Reader Value
  | '-' :: 'i' :: 'n' :: 'f' :: rest => some (.float (-1.0 / 0.0), rest)
  | '+' :: 'i' :: 'n' :: 'f' :: rest => some (.float (1.0 / 0.0), rest)
  | 'i' :: 'n' :: 'f' :: rest => some (.float (1.0 / 0.0), rest)
  | '-' :: 'n' :: 'a' :: 'n' :: rest => some (.float (0.0 / 0.0), rest)
  | '+' :: 'n' :: 'a' :: 'n' :: rest => some (.float (0.0 / 0.0), rest)
  | 'n' :: 'a' :: 'n' :: rest => some (.float (0.0 / 0.0), rest)
  | _ => none

/-- A number of a fixed count of digits between two bounds. -/
def fixed? (width low high : Nat) (text : Text) : Option (Nat × Text) := do
  let digits := text.take width
  if digits.length = width then
    let value ← number? 10 digits
    if low ≤ value ∧ value ≤ high then some (value, text.drop width) else none
  else none

/-- A given character. -/
def mark? (character : Char) : Text → Option Text
  | first :: rest => if first = character then some rest else none
  | [] => none

/-- The millionths of a second that digits behind a point write. -/
def fraction? : Text → Nat × Text
  | '.' :: rest =>
    let digits := rest.takeWhile Char.isDigit
    if digits.isEmpty then (0, '.' :: rest)
    else (ofDigits 10 ((digits ++ List.replicate 6 '0').take 6), rest.drop digits.length)
  | rest => (0, rest)

/-- A time of a day. -/
def clock? (text : Text) : Option (Clock × Text) := do
  let (hour, rest) ← fixed? 2 0 23 text
  let (minute, rest) ← fixed? 2 0 59 (← mark? ':' rest)
  let (second, rest) ← fixed? 2 0 59 (← mark? ':' rest)
  let (fraction, rest) := fraction? rest
  some (⟨hour, minute, second, fraction⟩, rest)

/-- Does a year have a day more? -/
def isLeap (year : Nat) : Bool := year % 4 = 0 && (year % 100 != 0 || year % 400 = 0)

/-- The number of days of a month. -/
def daysOf (year month : Nat) : Nat :=
  if month = 2 then if isLeap year then 29 else 28
  else if month = 4 ∨ month = 6 ∨ month = 9 ∨ month = 11 then 30 else 31

/-- Is there such a day? There is no year zero. -/
def isDay (day : Day) : Bool :=
  0 < day.year && 0 < day.month && day.month ≤ 12 && 0 < day.day &&
    day.day ≤ daysOf day.year day.month

/-- A day. -/
def day? (text : Text) : Option (Day × Text) := do
  let (year, rest) ← fixed? 4 0 9999 text
  let (month, rest) ← fixed? 2 1 12 (← mark? '-' rest)
  let (day, rest) ← fixed? 2 1 31 (← mark? '-' rest)
  if isDay ⟨year, month, day⟩ then some (⟨year, month, day⟩, rest) else none

/-- How many minutes a place is ahead, if that is said. -/
def ahead? (text : Text) : Option Int × Text :=
  match text with
  | [] => (none, [])
  | sign :: rest =>
    if sign = 'Z' ∨ sign = 'z' then (some 0, rest)
    else if sign = '+' ∨ sign = '-' then
      let said := do
        let (hours, rest) ← fixed? 2 0 23 rest
        let (minutes, rest) ← fixed? 2 0 59 (← mark? ':' rest)
        some (Int.ofNat (hours * 60 + minutes), rest)
      match said with
      | some (minutes, rest) => (some (if sign = '-' then -minutes else minutes), rest)
      | none => (none, text)
    else (none, text)

/-- A day, a time of a day, or both. -/
def moment? (text : Text) : Option (Value × Text) :=
  match day? text with
  | none => (clock? text).map fun (clock, rest) => (.moment (.clock clock), rest)
  | some (day, rest) =>
    let time := match rest with
      | between :: more =>
        if between = 'T' ∨ between = 't' ∨ between = ' ' then clock? more else none
      | [] => none
    match time with
    | none => some (.moment (.day day), rest)
    | some (clock, rest) =>
      let (ahead, rest) := ahead? rest
      some (.moment (.both day clock ahead), rest)

end Outdent.Toml
