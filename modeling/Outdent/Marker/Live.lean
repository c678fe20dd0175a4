import Outdent.Options.Config

/-!
# The marker in a running program

The marker can also be left in a program and applied to a text while it runs. It sees the text that
the literal reads as, and removes its indentation like that of a template of one segment. Anything
else that it is applied to is refused, and only its type is looked at. Main statement: `apply_text`,
applied to a text it gives a text.
-/
namespace Outdent.Marker

/-- A text without the indentation that its lines share. -/
def outdentText (trims : Trims) (text : Text) : Text :=
  match outdent trims [⟨text, some text.points⟩] with
  | segment :: _ => segment.raw
  | [] => []

/-- What a marker can be applied to while a program runs. -/
inductive Operand where
  /-- A text. -/
  | text (text : Text)
  /-- Anything else, of a type with this name. -/
  | other (typeName : Text)

/-- A marker that is applied while a program runs. -/
structure Live where
  /-- Which ends of a text lose their line break. -/
  trims : Trims := {}

namespace Live

/-- The marker with some options. -/
def ofOptions (options : Entries) : Except OptionFault Live :=
  (Config.ofOptions options []).map fun config => ⟨config.trims⟩

/-- Apply the marker. What is no text is refused with a sentence. -/
def apply (live : Live) (operand : Operand) : Except Text Text :=
  match operand with
  | .text text => .ok (outdentText live.trims text)
  | .other typeName => .error ("dedent expects a str, got ".toList ++ typeName)

/-- The text of a truth value. -/
def truthText (value : Bool) : Text := (Value.truth value).expression

/-- The text of the marker. -/
def expression (live : Live) : Text :=
  "Dedent(trim_left=".toList ++ truthText live.trims.left ++ ", trim_right=".toList ++
    truthText live.trims.right ++ [')']

/-- Applied to a text the marker gives the text without the indentation of its lines. -/
@[simp] theorem apply_text (live : Live) (text : Text) :
    live.apply (.text text) = .ok (outdentText live.trims text) := rfl

end Live

end Outdent.Marker
