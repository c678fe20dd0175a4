import Outdent.Text.Blank
import Outdent.Text.Digits

/-!
# Styles

A style is written as words: properties of letters, each of which may be switched off, a colour, a
colour behind the letters, and a link. Two ways to write one style have one name, in which the parts
stand in a fixed order and every part has one spelling. What is no style keeps its text as its name,
apart from blanks around it and capital letters.
-/
namespace Outdent.Console

open Text

/-- The properties of letters in order, each with its words, the chosen one first. -/
def properties : List (List Text) :=
  List.map (List.map String.toList)
    [["bold", "b"], ["dim", "d"], ["italic", "i"], ["underline", "u"], ["blink"], ["blink2"],
      ["reverse", "r"], ["conceal", "c"], ["strike", "s"], ["underline2", "uu"], ["frame"],
      ["encircle"], ["overline", "o"]]

/-- The word that is chosen for a property. -/
def property? (word : Text) : Option Text :=
  (properties.find? fun words => words.contains word).bind List.head?

/-- The names of colours, but for the shades of grey. -/
def colours : List Text :=
  cutAt ' ' ("default black red green yellow blue magenta cyan white bright_black bright_red " ++
    "bright_green bright_yellow bright_blue bright_magenta bright_cyan bright_white " ++
    "navy_blue dark_blue blue3 blue1 dark_green deep_sky_blue4 dodger_blue3 dodger_blue2 " ++
    "green4 spring_green4 turquoise4 deep_sky_blue3 dodger_blue1 green3 spring_green3 " ++
    "dark_cyan light_sea_green deep_sky_blue2 deep_sky_blue1 spring_green2 cyan3 " ++
    "dark_turquoise turquoise2 green1 spring_green1 medium_spring_green cyan2 cyan1 " ++
    "dark_red deep_pink4 purple4 purple3 blue_violet orange4 medium_purple4 slate_blue3 " ++
    "royal_blue1 chartreuse4 dark_sea_green4 pale_turquoise4 steel_blue steel_blue3 " ++
    "cornflower_blue chartreuse3 cadet_blue sky_blue3 steel_blue1 pale_green3 sea_green3 " ++
    "aquamarine3 medium_turquoise chartreuse2 sea_green2 sea_green1 aquamarine1 " ++
    "dark_slate_gray2 dark_magenta dark_violet purple light_pink4 plum4 medium_purple3 " ++
    "slate_blue1 yellow4 wheat4 light_slate_grey light_slate_gray medium_purple " ++
    "light_slate_blue dark_olive_green3 dark_sea_green light_sky_blue3 sky_blue2 " ++
    "dark_sea_green3 dark_slate_gray3 sky_blue1 chartreuse1 light_green pale_green1 " ++
    "dark_slate_gray1 red3 medium_violet_red magenta3 dark_orange3 indian_red hot_pink3 " ++
    "medium_orchid3 medium_orchid medium_purple2 dark_goldenrod light_salmon3 rosy_brown " ++
    "medium_purple1 gold3 dark_khaki navajo_white3 light_steel_blue3 light_steel_blue " ++
    "yellow3 dark_sea_green2 light_cyan3 light_sky_blue1 green_yellow dark_olive_green2 " ++
    "dark_sea_green1 pale_turquoise1 deep_pink3 magenta2 hot_pink2 orchid medium_orchid1 " ++
    "orange3 light_pink3 pink3 plum3 violet light_goldenrod3 tan misty_rose3 thistle3 plum2 " ++
    "khaki3 light_goldenrod2 light_yellow3 light_steel_blue1 yellow2 dark_olive_green1 " ++
    "honeydew2 light_cyan1 red1 deep_pink2 deep_pink1 magenta1 orange_red1 indian_red1 " ++
    "hot_pink dark_orange salmon1 light_coral pale_violet_red1 orchid2 orchid1 orange1 " ++
    "sandy_brown light_salmon1 light_pink1 pink1 plum1 gold1 navajo_white1 misty_rose1 " ++
    "thistle1 yellow1 light_goldenrod1 khaki1 wheat1 cornsilk1").toList

/-- The shades of grey that have a name. -/
def greys : List Nat :=
  [0, 3, 7, 11, 15, 19, 23, 27, 30, 35, 37, 39, 42, 46, 50, 53, 54, 58, 62, 63, 66, 69, 70, 74, 78,
    82, 84, 85, 89, 93, 100]

/-- Is a word the name of a shade of grey? -/
def isGrey (word : Text) : Bool :=
  greys.any fun shade =>
    word == "grey".toList ++ ofNat shade || word == "gray".toList ++ ofNat shade

/-- Are there six digits in base sixteen behind a hash? -/
def isHexadecimal (word : Text) : Bool :=
  match word with
  | '#' :: digits => digits.length == 6 && digits.all (isDigit 16)
  | _ => false

/-- The text between a word with a bracket and the closing bracket at the end. -/
def bracketed? (opening word : Text) : Option Text :=
  if opening.isPrefixOf word && word.getLast? == some ')' then
    some ((word.drop opening.length).dropLast)
  else none

/-- Is a text a number of a byte? -/
def isByte (digits : Text) : Bool :=
  !digits.isEmpty && digits.all Char.isDigit && ofDigits 10 digits ≤ 255

/-- Does a word in small letters name a colour? -/
def isColour (word : Text) : Bool :=
  colours.contains word || isGrey word || isHexadecimal word ||
    (bracketed? "color(" word).any (fun digits => digits.length ≤ 3 && isByte digits) ||
    (bracketed? "rgb(" word).any fun inside =>
      (cutAt ',' inside).length == 3 && (cutAt ',' inside).all isByte

/-- A style by its parts. -/
structure Style where
  /-- Properties that are switched on or off. -/
  settings : List (Text × Bool) := []
  /-- The colour. -/
  colour : Option Text := none
  /-- The colour behind the letters. -/
  background : Option Text := none
  /-- Where a link leads. -/
  link : Option Text := none
  deriving DecidableEq

namespace Style

/-- Switch a property on or off; the last switch counts. -/
def switch (style : Style) (property : Text) (value : Bool) : Style :=
  { style with settings := (property, value) :: style.settings }

/-- Add the parts that words write. -/
def addWords? (style : Style) : List Text → Option Style
  | [] => some style
  | word :: words =>
    let small := lower word
    if small = "on".toList then
      match words with
      | colour :: words =>
        if isColour (lower colour) then
          { style with background := some (lower colour) }.addWords? words
        else none
      | [] => none
    else if small = "not".toList then
      match words with
      | word :: words =>
        (property? word).bind fun property => (style.switch property false).addWords? words
      | [] => none
    else if small = "link".toList then
      match words with
      | link :: words => { style with link := some link }.addWords? words
      | [] => none
    else
      match property? small with
      | some property => (style.switch property true).addWords? words
      | none =>
        if isColour small then { style with colour := some small }.addWords? words else none

/-- The words of a style in order. -/
def words (style : Style) : List Text :=
  (properties.filterMap List.head?).flatMap (fun property =>
    match style.settings.lookup property with
    | some true => [property]
    | some false => ["not".toList, property]
    | none => []) ++
  style.colour.toList ++
  (style.background.map fun colour => ["on".toList, colour]).getD [] ++
  (style.link.map fun link => ["link".toList, link]).getD []

end Style

/-- The words of a text between white space. -/
def wordsOf (text : Text) : List Text :=
  (cutAt ' ' (text.map fun character => if isSpace character then ' ' else character)).filter
    fun word => !word.isEmpty

/-- The name of the style that a text writes. -/
def styleName (text : Text) : Text :=
  if wordsOf text = ["none".toList] then "none"
  else match Style.addWords? {} (wordsOf text) with
    | some style => if style.words.isEmpty then "none" else join [' '] style.words
    | none => lower (strip text)

end Outdent.Console
