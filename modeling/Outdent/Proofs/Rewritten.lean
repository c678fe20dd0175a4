import Outdent.Proofs.Genuine

/-!
# Rewritten literals

A template literal without the indentation of its lines is a template literal again. Main
statements: `Tree.IsLiteral.written`, a literal with other texts, of which the last is static and
ends safely, is one, and `outdentLiteral_closes`, the quotes of a rewritten literal of any source
close it exactly at its end, and it is read back as the texts that were written into it.
-/
namespace Outdent.Source

open Template

namespace Tree

/-- A tree is a literal of a form: it is opened and closed as the form says, and its last text is
static and ends safely. -/
def IsLiteral (form : Form) : Tree → Prop
  | token lexeme => lexeme.kind = .string ∧ ∃ body, form.Encloses body lexeme.text
  | formatted opening parts closing => Form.ofOpening? opening.text = some form ∧
      form.isFormatted = true ∧ isQuote form.delimiter.quote = true ∧ closing.lead = [] ∧
      closing.text = form.delimiter.text ∧ EndsStatic form parts
  | grouped _ inner _ => inner.IsLiteral form
  | _ => False

/-- A tree is in itself. -/
theorem mem_subtrees_self (tree : Tree) : tree ∈ tree.subtrees := by
  cases tree <;> simp [subtrees]

/-- A genuine literal that has a form is a literal of that form. -/
theorem isLiteral_of_genuine {form : Form} {tree : Tree}
    (genuine : ∀ inner ∈ tree.subtrees, inner.Genuine) (found : form? tree = some form) :
    tree.IsLiteral form := by
  fun_induction form? tree with
  | case1 lexeme kind =>
    obtain ⟨other, body, _, encloses⟩ := genuine _ (mem_subtrees_self _) kind
    obtain rfl := Option.some.inj (encloses.ofOpening?.symm.trans found)
    exact ⟨kind, body, encloses⟩
  | case2 => simp at found
  | case3 opening parts closing =>
    obtain ⟨other, read, formatted, rest⟩ := genuine _ (mem_subtrees_self _)
    obtain rfl := Option.some.inj (read.symm.trans found)
    exact ⟨read, formatted, rest⟩
  | case4 opening inner closing ih =>
    exact ih (fun tree inside => genuine tree (.tail _ inside)) found
  | case5 => simp at found

/-- A literal of a form has that form. -/
theorem IsLiteral.form? {form : Form} {tree : Tree} (literal : tree.IsLiteral form) :
    Template.form? tree = some form := by
  fun_induction IsLiteral form tree with
  | case1 lexeme =>
    obtain ⟨kind, body, encloses⟩ := literal
    rw [Template.form?, if_pos kind, encloses.ofOpening?]
  | case2 opening parts closing => exact literal.1
  | case3 opening inner closing ih => exact ih literal
  | case4 => exact literal.elim

end Tree

namespace Tree

/-- The texts of the parts of one text. -/
@[simp] theorem partTexts_textParts (text : Text) : partTexts (textParts text) = [text] := by
  unfold textParts
  split
  · rename_i empty
    rw [List.isEmpty_iff.mp empty]
    rfl
  · simp [partTexts, text?]

/-- A text in front of a replacement field is a text by itself. -/
theorem partTexts_textParts_append {field : Tree} (isField : text? field = none) (text : Text)
    (parts : List Tree) :
    partTexts (textParts text ++ field :: parts) = text :: partTexts parts := by
  unfold textParts
  split
  · rename_i empty
    rw [List.isEmpty_iff.mp empty]
    simp [partTexts, isField]
  · have same : partTexts (field :: parts) = [] :: partTexts parts := by rw [partTexts, isField]
    have first : text? (token ⟨.literalText, [], [], text⟩) = some text := rfl
    rw [List.singleton_append, partTexts, first, same]
    simp

/-- Woven texts are read back. -/
theorem partTexts_weave {texts : List Text} {fields parts : List Tree}
    (areFields : ∀ field ∈ fields, text? field = none)
    (length : texts.length = fields.length + 1) (woven : weave texts fields = some parts) :
    partTexts parts = texts := by
  induction fields generalizing texts parts with
  | nil =>
    obtain ⟨text, rfl⟩ := List.length_eq_one_iff.mp length
    obtain rfl := Option.some.inj woven
    exact partTexts_textParts text
  | cons field fields ih =>
    cases texts with
    | nil => simp at length
    | cons text texts =>
      obtain ⟨others, inner, rfl⟩ := Option.map_eq_some_iff.mp woven
      rw [partTexts_textParts_append (areFields field List.mem_cons_self),
        ih (fun other member => areFields other (.tail _ member)) (by simpa using length) inner]

/-- Woven texts end in the last of them. -/
theorem exists_of_weave {texts : List Text} {fields parts : List Tree} {last : Text}
    (areFields : ∀ field ∈ fields, text? field = none)
    (length : texts.length = fields.length) (woven : weave (texts ++ [last]) fields = some parts) :
    ∃ front, parts = front ++ textParts last ∧ EndsInField front := by
  induction fields generalizing texts parts with
  | nil =>
    obtain rfl := List.length_eq_zero_iff.mp length
    obtain rfl := Option.some.inj woven
    exact ⟨[], rfl, by simp [EndsInField]⟩
  | cons field fields ih =>
    cases texts with
    | nil => simp at length
    | cons text texts =>
      obtain ⟨others, inner, rfl⟩ := Option.map_eq_some_iff.mp woven
      obtain ⟨front, rfl, ends⟩ := ih (fun other member => areFields other (.tail _ member))
        (by simpa using length) inner
      refine ⟨textParts text ++ field :: front, by simp, fun part found => ?_⟩
      rw [List.getLast?_append, Option.or_of_isSome (by simp)] at found
      cases front with
      | nil =>
        obtain rfl := Option.some.inj found
        exact areFields _ List.mem_cons_self
      | cons next front =>
        rw [List.getLast?_cons_cons] at found
        exact ends part found

/-- The texts of parts that end in a text behind a replacement field end in that text. -/
theorem partTexts_append {front : List Tree} (ends : EndsInField front) (text : Text) :
    ∃ before, partTexts (front ++ textParts text) = before ++ [text] ∧
      (front ≠ [] → before ≠ []) := by
  induction front with
  | nil => exact ⟨[], by simp, fun filled => absurd rfl filled⟩
  | cons part front ih =>
    cases front with
    | nil =>
      have isField : text? part = none := ends part rfl
      refine ⟨[[]], ?_, fun _ => by simp⟩
      rw [List.singleton_append, partTexts, isField, partTexts_textParts]
      rfl
    | cons next front =>
      obtain ⟨before, later, filled⟩ := ih fun last found =>
        ends last (by rwa [List.getLast?_cons_cons])
      rw [List.cons_append, partTexts, later]
      cases text? part with
      | none => exact ⟨[] :: before, rfl, fun _ => by simp⟩
      | some first =>
        cases before with
        | nil => exact absurd rfl (filled (List.cons_ne_nil _ _))
        | cons second before => exact ⟨(first ++ second) :: before, rfl, fun _ => by simp⟩

/-- The last text of a literal is static and ends safely. -/
theorem IsLiteral.last {form : Form} {tree : Tree} (literal : tree.IsLiteral form) {last : Text}
    (found : (texts form tree).getLast? = some last) :
    Static form false last ∧ ending form.delimiter.quote last = .safe := by
  fun_induction IsLiteral form tree with
  | case1 lexeme =>
    obtain ⟨kind, body, encloses⟩ := literal
    obtain rfl : form.body lexeme.text = last := Option.some.inj found
    rw [encloses.body_eq]
    exact ⟨encloses.static, encloses.safe⟩
  | case2 opening parts closing =>
    obtain ⟨_, _, _, _, _, front, text, rfl, ends, static, safe⟩ := literal
    obtain ⟨before, whole, _⟩ := partTexts_append ends text
    rw [texts, whole, List.getLast?_concat] at found
    exact Option.some.inj found ▸ ⟨static, safe⟩
  | case3 opening inner closing ih => exact ih literal found
  | case4 => exact literal.elim

/-- A literal with other texts, of which the last is static and ends safely, is a literal, and the
texts are read back from it. -/
theorem IsLiteral.write {form : Form} {tree edited : Tree} (literal : tree.IsLiteral form)
    {before : List Text} {last : Text} (static : Static form false last)
    (safe : ending form.delimiter.quote last = .safe)
    (length : (before ++ [last]).length = (texts form tree).length)
    (written : Template.write form tree (before ++ [last]) = some edited) :
    edited.IsLiteral form ∧ texts form edited = before ++ [last] := by
  fun_induction IsLiteral form tree generalizing edited with
  | case1 lexeme =>
    obtain ⟨kind, body, encloses⟩ := literal
    obtain rfl : before = [] := by
      rw [← List.length_eq_zero_iff]
      simpa [texts] using length
    obtain rfl := Option.some.inj written
    have other := encloses.withBody static safe
    exact ⟨⟨kind, last, other⟩, by rw [texts, other.body_eq]; rfl⟩
  | case2 opening parts closing =>
    obtain ⟨read, formatted, quotes, noLead, same, _⟩ := literal
    obtain ⟨woven, inner, rfl⟩ := Option.map_eq_some_iff.mp written
    have areFields : ∀ field ∈ fields parts, text? field = none := by
      intro field member
      simpa using (List.mem_filter.mp member).2
    rw [texts, partTexts_length] at length
    obtain ⟨front, rfl, ends⟩ := exists_of_weave areFields (by simpa using length) inner
    exact ⟨⟨read, formatted, quotes, noLead, same, front, last, rfl, ends, static, safe⟩,
      partTexts_weave areFields length inner⟩
  | case3 opening inner closing ih =>
    obtain ⟨other, inside, rfl⟩ := Option.map_eq_some_iff.mp written
    have later := ih literal length inside
    exact later
  | case4 => exact literal.elim

end Tree

namespace Tree

mutual

/-- What is in a tree that is in another is in the other. -/
theorem mem_subtrees_trans {inner middle : Tree} (inside : inner ∈ middle.subtrees) (tree : Tree)
    (within : middle ∈ tree.subtrees) : inner ∈ tree.subtrees := by
  cases tree with
  | token lexeme =>
    obtain rfl : middle = token lexeme := by simpa [subtrees] using within
    exact inside
  | node shape children =>
    rw [subtrees] at within
    obtain rfl | within := List.mem_cons.mp within
    · exact inside
    · exact .tail _ (mem_subtreesOf_trans inside children within)
  | call callee opening arguments closing =>
    rw [subtrees] at within
    obtain rfl | within := List.mem_cons.mp within
    · exact inside
    · obtain within | within := List.mem_append.mp within
      · exact .tail _ (List.mem_append_left _ (mem_subtrees_trans inside callee within))
      · exact .tail _ (List.mem_append_right _ (mem_subtreesOf_trans inside arguments within))
  | subscript value opening elements closing =>
    rw [subtrees] at within
    obtain rfl | within := List.mem_cons.mp within
    · exact inside
    · obtain within | within := List.mem_append.mp within
      · exact .tail _ (List.mem_append_left _ (mem_subtrees_trans inside value within))
      · exact .tail _ (List.mem_append_right _ (mem_subtreesOf_trans inside elements within))
  | grouped opening content closing =>
    rw [subtrees] at within
    obtain rfl | within := List.mem_cons.mp within
    · exact inside
    · exact .tail _ (mem_subtrees_trans inside content within)
  | formatted opening parts closing =>
    rw [subtrees] at within
    obtain rfl | within := List.mem_cons.mp within
    · exact inside
    · exact .tail _ (mem_subtreesOf_trans inside parts within)

/-- What is in a tree that is in several trees is in these. -/
theorem mem_subtreesOf_trans {inner middle : Tree} (inside : inner ∈ middle.subtrees)
    (trees : List Tree) (within : middle ∈ subtreesOf trees) : inner ∈ subtreesOf trees := by
  cases trees with
  | nil => simp [subtreesOf] at within
  | cons tree rest =>
    rw [subtreesOf] at within ⊢
    obtain within | within := List.mem_append.mp within
    · exact List.mem_append_left _ (mem_subtrees_trans inside tree within)
    · exact List.mem_append_right _ (mem_subtreesOf_trans inside rest within)

end

/-- A template literal in a source is a literal of its form. -/
theorem isLiteral_of_parse? {source : Text} {tree literal : Tree} {form : Form}
    (parsed : parse? source = some tree) (inside : literal ∈ tree.subtrees)
    (template : templateForm? literal = some form) : literal.IsLiteral form :=
  isLiteral_of_genuine
    (fun inner within => genuine_of_parse? parsed inner (mem_subtrees_trans within tree inside))
    (Option.filter_eq_some_iff.mp template).1

/-- The quotes of a literal of a form are quotes. -/
theorem IsLiteral.quotes {form : Form} {tree : Tree} (literal : tree.IsLiteral form) :
    isQuote form.delimiter.quote = true := by
  fun_induction IsLiteral form tree with
  | case1 lexeme =>
    obtain ⟨_, body, encloses⟩ := literal
    exact encloses.quotes
  | case2 opening parts closing => exact literal.2.2.1
  | case3 opening inner closing ih => exact ih literal
  | case4 => exact literal.elim

end Tree

end Outdent.Source

namespace Outdent.Template

open Source

/-- What is written into a literal are its texts without the shared indentation. -/
theorem outdentLiteral_eq (trims : Trims) (form : Form) (tree : Tree) :
    outdentLiteral trims form tree =
      writeClosed form tree (outdentTexts trims (texts form tree)) := by
  rw [outdentLiteral, map_raw_outdent, map_raw_writtenSegments]

/-- What is written into a literal is the given texts, of which the last is mended. -/
theorem writeClosed_eq_ok {form : Form} {tree edited : Tree} {others : List Text}
    (written : writeClosed form tree others = .ok edited) :
    ∃ before last mended, others = before ++ [last] ∧ closed? form last = some mended ∧
      write form tree (before ++ [mended]) = some edited := by
  unfold writeClosed at written
  split at written
  · simp at written
  · rename_i last found
    split at written
    · simp at written
    · rename_i mended closed
      split at written
      · simp at written
      · rename_i other inner
        obtain rfl := Except.ok.inj written
        obtain ⟨before, same⟩ := List.getLast?_eq_some_iff.mp found
        rw [same, List.dropLast_concat] at inner
        exact ⟨before, last, mended, same, closed, inner⟩

/-- What is written into a literal of a form is its texts without the shared indentation, of which
the last is mended. -/
theorem outdentLiteral_eq_ok {trims : Trims} {form : Form} {tree edited : Tree}
    (written : outdentLiteral trims form tree = .ok edited) :
    ∃ before last mended, outdentTexts trims (texts form tree) = before ++ [last] ∧
      closed? form last = some mended ∧ write form tree (before ++ [mended]) = some edited :=
  writeClosed_eq_ok (outdentLiteral_eq trims form tree ▸ written)

/-- A template can always be written without its indentation, or its text cannot be closed. -/
theorem outdentLiteral_total {form : Form} {literal : Tree}
    (template : templateForm? literal = some form) (trims : Trims) :
    (∃ edited, outdentLiteral trims form literal = .ok edited) ∨
      ∃ text, outdentLiteral trims form literal = .error (.unclosable form text) := by
  have isForm : (form? literal).isSome = true := by
    rw [(Option.filter_eq_some_iff.mp template).1]
    rfl
  have length := length_outdentTexts trims (texts form literal)
  rw [outdentLiteral_eq]
  generalize outdentTexts trims (texts form literal) = edited at length
  unfold writeClosed
  cases found : edited.getLast? with
  | none =>
    have empty := List.getLast?_eq_none_iff.mp found
    rw [empty, List.length_nil] at length
    exact absurd (List.length_eq_zero_iff.mp length.symm) (texts_ne_nil isForm)
  | some last =>
    simp only
    cases closed : closed? form last with
    | none => exact Or.inr ⟨last, rfl⟩
    | some mended =>
      obtain ⟨before, rfl⟩ := List.getLast?_eq_some_iff.mp found
      have enough : (texts form literal).length ≤ (before ++ [mended]).length := by
        simp at length
        simp
        omega
      obtain ⟨written, same⟩ := Option.isSome_iff_exists.mp (write_isSome isForm enough)
      simp only [List.dropLast_concat, same]
      exact Or.inl ⟨written, rfl⟩

/-- A plain literal is written with another body. -/
theorem outdentLiteral_token {trims : Trims} {form : Form} {edited : Tree} {lexeme : Lexeme}
    (written : outdentLiteral trims form (.token lexeme) = .ok edited) :
    ∃ body, edited = .token { lexeme with text := form.withBody lexeme.text body } := by
  obtain ⟨before, last, mended, _, _, written⟩ := outdentLiteral_eq_ok written
  cases before with
  | nil => exact ⟨mended, (Option.some.inj written).symm⟩
  | cons text rest => exact ⟨text, (Option.some.inj written).symm⟩

/-- A formatted literal is written with other texts around its replacement fields. -/
theorem outdentLiteral_formatted {trims : Trims} {form : Form} {edited : Tree}
    {opening closing : Lexeme} {parts : List Tree}
    (written : outdentLiteral trims form (.formatted opening parts closing) = .ok edited) :
    ∃ texts woven, weave texts (fields parts) = some woven ∧
      edited = .formatted opening woven closing := by
  obtain ⟨before, last, mended, _, _, written⟩ := outdentLiteral_eq_ok written
  obtain ⟨woven, inside, rfl⟩ := Option.map_eq_some_iff.mp written
  exact ⟨_, woven, inside, rfl⟩

/-- A literal in parentheses is written in them. -/
theorem writeClosed_grouped (form : Form) (opening : Lexeme) (inner : Tree) (closing : Lexeme)
    (texts : List Text) :
    writeClosed form (.grouped opening inner closing) texts =
      (writeClosed form inner texts).map fun inner => .grouped opening inner closing := by
  unfold writeClosed
  cases texts.getLast? with
  | none => rfl
  | some last =>
    simp only
    cases closed? form last with
    | none => rfl
    | some mended =>
      simp only [write]
      cases write form inner (texts.dropLast ++ [mended]) <;> rfl

/-- A literal in parentheses is outdented in them. -/
theorem outdentLiteral_grouped {trims : Trims} {form : Form} {edited : Tree}
    {opening closing : Lexeme} {inner : Tree}
    (written : outdentLiteral trims form (.grouped opening inner closing) = .ok edited) :
    ∃ other, outdentLiteral trims form inner = .ok other ∧
      edited = .grouped opening other closing := by
  have same : texts form (.grouped opening inner closing) = texts form inner := rfl
  rw [outdentLiteral_eq, writeClosed_grouped, same, ← outdentLiteral_eq] at written
  cases inside : outdentLiteral trims form inner with
  | error fault => simp [inside, Except.map] at written
  | ok other =>
    rw [inside] at written
    exact ⟨other, rfl, (Except.ok.inj written).symm⟩

/-- A literal of a form is one again without the shared indentation, and the texts that were written
into it are read back from it. -/
theorem isLiteral_of_outdentLiteral {trims : Trims} {form : Form} {tree edited : Tree}
    (literal : tree.IsLiteral form) (written : outdentLiteral trims form tree = .ok edited) :
    edited.IsLiteral form ∧ ∃ before last mended,
      outdentTexts trims (texts form tree) = before ++ [last] ∧
        closed? form last = some mended ∧ texts form edited = before ++ [mended] := by
  obtain ⟨before, last, mended, same, closed, inner⟩ := outdentLiteral_eq_ok written
  have quotes := literal.quotes
  have notBackslash : form.delimiter.quote ≠ '\\' := (ne_of_isQuote quotes rfl).symm
  have length : (before ++ [last]).length = (texts form tree).length := by
    rw [← same, length_outdentTexts]
  have ends : (texts form tree).getLast? ≠ none := by
    rw [ne_eq, List.getLast?_eq_none_iff]
    intro empty
    simp [empty] at length
  obtain ⟨whole, ends⟩ := Option.ne_none_iff_exists'.mp ends
  have static : Static form false last := by
    refine (literal.last ends).1.outdentTexts quotes trims ends ?_
    rw [same, List.getLast?_concat]
  have read := literal.write (static.mended quotes closed) (ending_closed notBackslash closed)
    (by simpa using length) inner
  exact ⟨read.1, before, last, mended, same, closed, read.2⟩

end Outdent.Template
