import Outdent.Options.Entries
import Outdent.Text.Blank
import Outdent.Text.Digits

/-!
# Checks of values

Whether a value can be taken for a truth value, a whole number, a text, a list or a test, and for
which one. A value that cannot is complained of, with its place. Main statement: `truthOf_truth`, a
truth value is taken for itself.
-/
namespace Outdent

/-- What is wrong with a value. -/
inductive Complaint where
  /-- A text or number that is no truth value. -/
  | truthText
  /-- Something else that is no truth value. -/
  | truthKind
  /-- Names of markers that are missing or blank. -/
  | blankName
  /-- Something that is no test. -/
  | testKind
  /-- A name that no option has. -/
  | unknownName
  /-- A name that is no text. -/
  | nameKind
  /-- A float that is no whole number. -/
  | fraction
  /-- A text that is no whole number. -/
  | integerText
  /-- A text that is too long for a whole number. -/
  | integerLength
  /-- Something else that is no whole number. -/
  | integerKind
  /-- A float that is no number. -/
  | infiniteNumber
  /-- Something that is no text. -/
  | textKind
  /-- Something that is no list. -/
  | listKind
  /-- Something that is no table. -/
  | tableKind
  deriving DecidableEq

namespace Complaint

/-- The short word for a complaint. -/
def word : Complaint → Text
  | truthText => "bool_parsing"
  | truthKind => "bool_type"
  | blankName => "value_error"
  | testKind => "callable_type"
  | unknownName => "extra_forbidden"
  | nameKind => "invalid_key"
  | fraction => "int_from_float"
  | integerText => "int_parsing"
  | integerLength => "int_parsing_size"
  | integerKind => "int_type"
  | infiniteNumber => "finite_number"
  | textKind => "string_type"
  | listKind => "list_type"
  | tableKind => "dict_type"

/-- The sentence for a complaint that has one of its own. -/
def sentence? : Complaint → Option Text
  | blankName => some "Value error, tag_name must contain at least one non-empty identifier".toList
  | _ => none

end Complaint

/-- A step to a place inside a value. -/
inductive Place where
  /-- The value of a name. -/
  | name (name : Text)
  /-- A value of a list, or the value of a number. -/
  | index (index : Int)
  deriving DecidableEq

/-- A complaint and what it is about. -/
structure Detail where
  /-- Where the value stands. -/
  place : List Place
  /-- What is wrong with it. -/
  complaint : Complaint
  deriving DecidableEq

namespace Value

/-- Words for false, in small form. -/
def falseWords : List Text := List.map String.toList ["0", "off", "f", "false", "n", "no"]

/-- Words for true, in small form. -/
def trueWords : List Text := List.map String.toList ["1", "on", "t", "true", "y", "yes"]

/-- The truth value of an integer of 64 bits. -/
def truthOfInteger (value : Int) : Except Complaint Bool :=
  if value = 0 then .ok false else if value = 1 then .ok true else .error .truthText

/-- The least integer above those of 64 bits. -/
def wordLimit : Int := 0x8000000000000000

/-- The truth value that a value is taken for. Numbers of more than 64 bits are none at all. -/
def truthOf : Value → Except Complaint Bool
  | truth value => .ok value
  | integer value =>
    if -wordLimit ≤ value ∧ value < wordLimit then truthOfInteger value else .error .truthKind
  | float value =>
    match Text.integerOfFloat? value with
    | some value =>
      if -wordLimit < value ∧ value < wordLimit then truthOfInteger value else .error .truthKind
    | none => .error .truthKind
  | text value =>
    if falseWords.contains (Text.lower value) then .ok false
    else if trueWords.contains (Text.lower value) then .ok true
    else .error .truthText
  | _ => .error .truthKind

/-- The test that a value is taken for, if it is not nothing. -/
def testOf : Value → Except Complaint (Option (Source.Tree → Bool))
  | nothing => .ok none
  | test holds => .ok (some holds)
  | _ => .error .testKind

/-- Digits without the underscores between them, if there are only single ones. -/
def plainDigits? (digits : Text) : Option Text :=
  let groups := Text.cutAt '_' digits
  if groups.all fun group => !group.isEmpty && group.all Char.isDigit then some groups.flatten
  else none

/-- Text before a point that only zeros follow; the text itself if there is no point. -/
def beforeZeros (text : Text) : Text :=
  match text.dropWhile (· != '.') with
  | '.' :: rest => if rest.all (· == '0') then text.takeWhile (· != '.') else text
  | _ => text

/-- The whole number that a text writes. -/
def integerOfText (text : Text) : Except Complaint Int :=
  if 4300 < text.length then .error .integerLength
  else
    let stripped := beforeZeros (Text.strip text)
    let (negative, digits) := match stripped with
      | '-' :: rest => (true, rest)
      | '+' :: rest => (false, rest)
      | rest => (false, rest)
    match plainDigits? digits with
    | some digits =>
      let value := Int.ofNat (Text.ofDigits 10 digits)
      .ok (if negative then -value else value)
    | none => .error .integerText

/-- The whole number that a value is taken for. -/
def integerOf : Value → Except Complaint Int
  | truth value => .ok (if value then 1 else 0)
  | integer value => .ok value
  | float value =>
    match Text.integerOfFloat? value, Text.FloatParts.ofFloat value with
    | some value, _ => .ok value
    | none, .finite _ _ => .error .fraction
    | none, _ => .error .infiniteNumber
  | text value => integerOfText value
  | _ => .error .integerKind

/-- The text that a value is. -/
def textOf : Value → Except Complaint Text
  | text value => .ok value
  | _ => .error .textKind

/-- The table that a value is. -/
def tableOf : Value → Except Complaint Entries
  | table entries => .ok entries
  | _ => .error .tableKind

/-- A truth value is taken for itself. -/
@[simp] theorem truthOf_truth (value : Bool) : (truth value).truthOf = .ok value := rfl

end Value

/-- What an option comes to: a value, or details of what is wrong with it. -/
abbrev Checked (α : Type) := Except (List Detail) α

namespace Checked

/-- A check of the value at a place. -/
def ofCheck {α : Type} (place : List Place) (check : Except Complaint α) : Checked α :=
  check.mapError fun complaint => [⟨place, complaint⟩]

/-- The details of a check. -/
def details {α : Type} : Checked α → List Detail
  | .ok _ => []
  | .error details => details

/-- Check all values of a list, from an index on. All that is wrong is told. -/
def ofList {α : Type} (place : List Place) (check : Value → Except Complaint α) :
    Nat → List Value → Checked (List α)
  | _, [] => .ok []
  | index, value :: values =>
    match ofCheck (place ++ [.index index]) (check value),
      ofList place check (index + 1) values with
    | .ok first, .ok others => .ok (first :: others)
    | first, others => .error (details first ++ details others)

/-- A list whose values pass a check. -/
def listOf {α : Type} (place : List Place) (check : Value → Except Complaint α) :
    Value → Checked (List α)
  | .list values => ofList place check 0 values
  | _ => .error [⟨place, .listKind⟩]

end Checked

end Outdent
