import Outdent.Source.Tree
import Outdent.Text.Decimal
import Outdent.Text.Quoted

/-!
# Values

The values that options are given as: what a data format can hold, and tests of expressions. Every
value has a text; inside of lists and tables that text is the one a programmer would write. Main
statement: `plain_text`, the text of a text is the text itself.
-/
namespace Outdent

/-- A day. -/
structure Day where
  year : Nat
  month : Nat
  day : Nat
  deriving DecidableEq

/-- A time of a day, with millionths of seconds. -/
structure Clock where
  hour : Nat
  minute : Nat
  second : Nat
  fraction : Nat
  deriving DecidableEq

/-- A point in time, or a part of what says it. -/
inductive Moment where
  /-- A day. -/
  | day (day : Day)
  /-- A time of a day. -/
  | clock (clock : Clock)
  /-- A time of a day on a day, and how many minutes the place is ahead. -/
  | both (day : Day) (clock : Clock) (ahead : Option Int)
  deriving DecidableEq

namespace Moment

/-- A number with zeros in front. -/
def padded (width number : Nat) : Text :=
  List.replicate (width - (Text.ofNat number).length) '0' ++ Text.ofNat number

/-- A day in the order year, month, day. -/
def dayText (day : Day) : Text :=
  padded 4 day.year ++ '-' :: padded 2 day.month ++ '-' :: padded 2 day.day

/-- A time of a day. -/
def clockText (clock : Clock) : Text :=
  padded 2 clock.hour ++ ':' :: padded 2 clock.minute ++ ':' :: padded 2 clock.second ++
    if clock.fraction = 0 then [] else '.' :: padded 6 clock.fraction

/-- How far a place is ahead, in hours and minutes. -/
def aheadText (ahead : Int) : Text :=
  (if ahead < 0 then '-' else '+') :: padded 2 (ahead.natAbs / 60) ++
    ':' :: padded 2 (ahead.natAbs % 60)

/-- The text of a point in time. -/
def text : Moment → Text
  | .day date => dayText date
  | .clock time => clockText time
  | .both date time ahead =>
    dayText date ++ ' ' :: clockText time ++ (ahead.map aheadText).getD []

/-- The numbers of a time of a day, without zeros at the end except for hour and minute. -/
def clockNumbers (clock : Clock) : List Nat :=
  [clock.hour, clock.minute] ++
    if clock.fraction ≠ 0 then [clock.second, clock.fraction]
    else if clock.second ≠ 0 then [clock.second] else []

/-- The expression for a difference of places. -/
def aheadExpression (ahead : Int) : Text :=
  if ahead = 0 then "datetime.timezone.utc"
  else
    let seconds := "seconds=".toList ++ Text.ofInt (ahead * 60 % 86400)
    "datetime.timezone(datetime.timedelta(".toList ++
      (if ahead < 0 then "days=-1, ".toList else []) ++ seconds ++ "))".toList

/-- The expression for a point in time. -/
def expression : Moment → Text
  | .day date =>
    "datetime.date(".toList ++
      Text.join ", ".toList ([date.year, date.month, date.day].map Text.ofNat) ++ [')']
  | .clock time =>
    "datetime.time(".toList ++ Text.join ", ".toList ((clockNumbers time).map Text.ofNat) ++ [')']
  | .both date time ahead =>
    "datetime.datetime(".toList ++
      Text.join ", ".toList
        (([date.year, date.month, date.day] ++ clockNumbers time).map Text.ofNat) ++
      (ahead.map fun ahead => ", tzinfo=".toList ++ aheadExpression ahead).getD [] ++ [')']

end Moment

/-- A value of an option. -/
inductive Value where
  /-- No value. -/
  | nothing
  /-- A truth value. -/
  | truth (value : Bool)
  /-- An integer. -/
  | integer (value : Int)
  /-- A float. -/
  | float (value : Float)
  /-- A text. -/
  | text (value : Text)
  /-- A point in time. -/
  | moment (value : Moment)
  /-- Values in order. -/
  | list (values : List Value)
  /-- Values with names, in order. -/
  | table (entries : List (Text × Value))
  /-- A test of expressions. -/
  | test (holds : Source.Tree → Bool)

namespace Value

/-- What kind of value it is. -/
def typeName : Value → Text
  | nothing => "NoneType"
  | truth _ => "bool"
  | integer _ => "int"
  | float _ => "float"
  | text _ => "str"
  | moment _ => "datetime"
  | list _ => "list"
  | table _ => "dict"
  | test _ => "function"

/-- Does a value count as true? Nothing, zero and what is empty do not. -/
def isTrue : Value → Bool
  | nothing => false
  | truth value => value
  | integer value => value != 0
  | float value => value != 0.0
  | text value => !value.isEmpty
  | moment _ => true
  | list values => !values.isEmpty
  | table entries => !entries.isEmpty
  | test _ => true

mutual

/-- The text of a value inside of another one. -/
def expression : Value → Text
  | nothing => "None"
  | truth true => "True"
  | truth false => "False"
  | integer value => Text.ofInt value
  | float value => Text.ofFloat value
  | text value => Text.quoted value
  | moment value => value.expression
  | list values => '[' :: Text.join [',', ' '] (expressions values) ++ [']']
  | table entries => '\x7b' :: Text.join [',', ' '] (entryExpressions entries) ++ ['\x7d']
  | test _ => "<function>"

/-- The texts of several values. -/
def expressions : List Value → List Text
  | [] => []
  | value :: values => value.expression :: expressions values

/-- The texts of several values with names. -/
def entryExpressions : List (Text × Value) → List Text
  | [] => []
  | (name, value) :: entries =>
    (Text.quoted name ++ ':' :: ' ' :: value.expression) :: entryExpressions entries

end

/-- The text of a value. -/
def plain : Value → Text
  | text value => value
  | moment value => value.text
  | value => value.expression

/-- The text of a text is the text itself. -/
@[simp] theorem plain_text (value : Text) : (text value).plain = value := rfl

end Value

end Outdent
