import Outdent.Text.Basic

/-!
# Digits

Reading numbers in a base of up to sixteen, and the character that a code stands for.
-/
namespace Outdent.Text

/-- The value of a digit in a base. -/
def digit? (base : Nat) (character : Char) : Option Nat :=
  let value :=
    if '0' ≤ character && character ≤ '9' then character.toNat - '0'.toNat
    else if 'a' ≤ character && character ≤ 'f' then character.toNat - 'a'.toNat + 10
    else if 'A' ≤ character && character ≤ 'F' then character.toNat - 'A'.toNat + 10
    else base
  if value < base then some value else none

/-- Is a character a digit in a base? -/
def isDigit (base : Nat) (character : Char) : Bool := (digit? base character).isSome

/-- The number that digits write in a base, the most significant first. -/
def ofDigits (base : Nat) (digits : Text) : Nat :=
  digits.foldl (fun number digit => number * base + (digit? base digit).getD 0) 0

/-- The number that a text writes in a base, if it has a digit and nothing else. -/
def number? (base : Nat) (text : Text) : Option Nat :=
  if !text.isEmpty && text.all (isDigit base) then some (ofDigits base text) else none

/-- The character of a code, unless it is no character. -/
def character? (code : Nat) : Option Char :=
  if code.isValidChar then some (Char.ofNat code) else none

end Outdent.Text
