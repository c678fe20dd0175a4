import Outdent.Proofs.Readings
import Outdent.Proofs.Rewritten

/-!
# Static texts

Every text of a template literal is static, not only the last one, and remains so when its line
breaks are unified. So the quotes that a text is read between fit it unless it touches its own
quotes and holds the other ones, or a backslash at its end protects what follows. Main statements:
`static_of_mem_texts` and `fits_of_static`.
-/
namespace Outdent

namespace Text

/-- A text without line breaks that a text begins with when its line breaks are unified is in front
of the text. -/
theorem prefix_of_prefix_unifyBreaks {pattern text : Text} (noFeed : '\n' ∉ pattern)
    (noReturn : '\r' ∉ pattern) (begins : pattern <+: unifyBreaks text) : pattern <+: text := by
  induction pattern generalizing text with
  | nil => exact List.nil_prefix
  | cons first pattern ih =>
    rw [List.mem_cons, not_or] at noFeed noReturn
    obtain ⟨behind, whole⟩ := begins
    obtain ⟨rest, rfl⟩ := List.head?_eq_some_iff.mp
      (head?_of_unifyBreaks (Ne.symm noFeed.1) (by rw [← whole]; rfl))
    rw [unifyBreaks_cons (Ne.symm noReturn.1)] at whole
    exact List.cons_prefix_cons.mpr ⟨rfl, ih noFeed.2 noReturn.2 ⟨behind, (List.cons.inj whole).2⟩⟩

end Text

namespace Template

open Source Text

/-! ## Unified line breaks -/

section Unified

variable {form : Form} (quotes : isQuote form.delimiter.quote = true)

include quotes in
/-- A character that is no quote does not begin closing quotes. -/
theorem not_prefix_of_isQuote {character : Char} (noQuote : isQuote character = false)
    (rest : Text) : ¬ form.delimiter.text <+: character :: rest := by
  have different : form.delimiter.quote ≠ character := (ne_of_isQuote quotes noQuote).symm
  cases triple : form.delimiter.triple <;> simp [Delimiter.text, triple, different]

/-- A carriage return that no line feed follows becomes a line feed. -/
theorem unifyBreaks_return {rest : Text} (single : rest.head? ≠ some '\n') :
    Text.unifyBreaks ('\r' :: rest) = '\n' :: Text.unifyBreaks rest :=
  unifyBreaks.eq_3 rest fun others same => single (by rw [same]; rfl)

/-- A backslash may stand before a line feed. -/
theorem Static.escapedFeed {named : Bool} {rest : Text} (behind : Static form named rest) :
    Static form named ('\\' :: '\n' :: rest) :=
  .escaped (fun same => absurd same (by decide))
    (fun _ => ⟨by decide, by decide, fun same => absurd same (by decide)⟩) behind

include quotes in
/-- A static text is static with its line breaks unified, and ends as it does. -/
theorem Static.unifyBreaks {named : Bool} {text : Text} (static : Static form named text) :
    Static form named (Text.unifyBreaks text) ∧
      ending form.delimiter.quote (Text.unifyBreaks text) =
        ending form.delimiter.quote text := by
  have plainEnding : ∀ {character : Char} (rest : Text), character ≠ '\\' →
      isQuote character = false →
        ending form.delimiter.quote (character :: rest) = ending form.delimiter.quote rest :=
    fun rest unescaped noQuote => ending_cons_plain quotes unescaped noQuote rest
  have facts : ∀ {brace : Char}, brace = '\x7b' ∨ brace = '\x7d' →
      brace ≠ '\r' ∧ brace ≠ '\\' ∧ isQuote brace = false := by
    rintro brace (rfl | rfl) <;> decide
  induction static with
  | nil => exact ⟨.nil, rfl⟩
  | @plain named character rest unescaped noBrace unclosed unbroken behind ih =>
    by_cases returns : character = '\r'
    · subst returns
      by_cases feed : rest.head? = some '\n'
      · obtain ⟨more, rfl⟩ := List.head?_eq_some_iff.mp feed
        have same : Text.unifyBreaks ('\r' :: '\n' :: more) = Text.unifyBreaks ('\n' :: more) := by
          rw [Text.unifyBreaks, unifyBreaks_cons (by decide)]
        rw [same, plainEnding _ (by decide) rfl]
        exact ih
      · rw [unifyBreaks_return feed, plainEnding _ (by decide) rfl, plainEnding _ (by decide) rfl]
        exact ⟨.plain (by decide) (fun _ => by decide) (not_prefix_of_isQuote quotes rfl _)
          (fun single => absurd (unbroken single) (by decide)) ih.1, ih.2⟩
    · have whole := unifyBreaks_cons returns rest
      have unclosed : ¬ form.delimiter.text <+: character :: Text.unifyBreaks rest := fun closes =>
        unclosed
        (prefix_of_prefix_unifyBreaks (not_mem_delimiter quotes rfl) (not_mem_delimiter quotes rfl)
          (whole ▸ closes))
      rw [whole]
      refine ⟨.plain unescaped noBrace unclosed unbroken ih.1, ?_⟩
      cases rest with
      | nil => rfl
      | cons next rest =>
        rw [ending_cons unescaped (Or.inl (List.cons_ne_nil _ _)), ← ih.2]
        exact ending_cons unescaped (Or.inl fun empty => by
          simpa using eq_nil_of_unifyBreaks empty)
  | dangling => exact ⟨.dangling, rfl⟩
  | @escapedBreak named rest behind ih =>
    have same : Text.unifyBreaks ('\\' :: '\r' :: '\n' :: rest) =
        '\\' :: '\n' :: Text.unifyBreaks rest := by
      rw [unifyBreaks_cons (by decide), Text.unifyBreaks]
    rw [same, ending_escape, ending_escape, plainEnding _ (by decide) rfl]
    exact ⟨.escapedFeed ih.1, ih.2⟩
  | @escaped named character rest noBreak noBrace behind ih =>
    rw [unifyBreaks_cons (by decide)]
    by_cases returns : character = '\r'
    · rw [returns, unifyBreaks_return (noBreak returns), ending_escape, ending_escape]
      exact ⟨.escapedFeed ih.1, ih.2⟩
    · rw [unifyBreaks_cons returns, ending_escape, ending_escape]
      refine ⟨.escaped (fun same => absurd same returns) (fun formatted => ?_) ih.1, ih.2⟩
      obtain ⟨noOpening, noClosing, noName⟩ := noBrace formatted
      exact ⟨noOpening, noClosing, fun same first =>
        noName same (head?_of_unifyBreaks (by decide) first)⟩
  | @beforeBrace named brace rest formatted isBrace behind ih =>
    obtain ⟨noReturn, unescaped, noQuote⟩ := facts isBrace
    rw [unifyBreaks_cons noReturn, plainEnding _ unescaped noQuote,
      plainEnding _ unescaped noQuote] at ih
    rw [unifyBreaks_cons (by decide), unifyBreaks_cons noReturn, ending_escape, ending_escape]
    exact ⟨.beforeBrace formatted isBrace ih.1, ih.2⟩
  | @doubledOpening named rest formatted behind ih =>
    simp only [unifyBreaks_cons (show '\x7b' ≠ '\r' by decide),
      plainEnding _ (show '\x7b' ≠ '\\' by decide) rfl]
    exact ⟨.doubledOpening formatted ih.1, ih.2⟩
  | @doubledClosing rest formatted behind ih =>
    simp only [unifyBreaks_cons (show '\x7d' ≠ '\r' by decide),
      plainEnding _ (show '\x7d' ≠ '\\' by decide) rfl]
    exact ⟨.doubledClosing formatted ih.1, ih.2⟩
  | @rawName named rest formatted raw behind ih =>
    rw [unifyBreaks_cons (by decide), unifyBreaks_cons (by decide), ending_escape, ending_escape]
    rw [unifyBreaks_cons (by decide)] at ih ⊢
    exact ⟨.rawName formatted raw ih.1, ih.2⟩
  | @name named rest formatted cooked behind ih =>
    rw [unifyBreaks_cons (by decide), unifyBreaks_cons (by decide), unifyBreaks_cons (by decide),
      ending_escape, ending_escape, plainEnding _ (by decide) rfl, plainEnding _ (by decide) rfl]
    exact ⟨.name formatted cooked ih.1, ih.2⟩
  | @nameEnd rest formatted behind ih =>
    rw [unifyBreaks_cons (by decide), plainEnding _ (by decide) rfl, plainEnding _ (by decide) rfl]
    exact ⟨.nameEnd formatted ih.1, ih.2⟩

end Unified

/-! ## Quotes that fit -/

/-- A text that does not end in its quote character ends safely behind an even number of
backslashes. -/
theorem ending_of_even {quote : Char} {text : Text} (apart : text.getLast? ≠ some quote)
    (even : backslashes text % 2 = 0) : ending quote text = .safe := by
  rw [ending, if_neg apart, if_neg (by omega)]

/-- Quotes of another literal do not close a text in which their character does not occur. -/
theorem static_of_not_mem {quote : Char} {text : Text} (absent : quote ∉ text) :
    Static ⟨[], ⟨quote, true⟩⟩ false text := by
  fun_induction closingLength ⟨quote, true⟩ text with
  | case1 => exact .nil
  | case2 rest ih => exact .escapedBreak (ih fun member => absent (by simp [member]))
  | case3 character rest noBreak ih =>
    refine .escaped (fun same first => ?_) (by simp [Form.isFormatted])
      (ih fun member => absent (by simp [member]))
    obtain ⟨others, rfl⟩ := List.head?_eq_some_iff.mp first
    exact noBreak others same rfl
  | case4 character rest _ _ closes =>
    obtain ⟨_, whole⟩ := List.isPrefixOf_iff_prefix.mp closes
    exact absurd (by rw [← whole]; simp [Delimiter.text]) absent
  | case5 => simp_all
  | case6 character rest _ noEscape opens _ ih =>
    have behind := ih fun member => absent (.tail _ member)
    by_cases escape : character = '\\'
    · cases rest with
      | nil => exact escape ▸ .dangling
      | cons next rest => exact absurd rfl (noEscape next rest escape)
    · refine .plain escape (by simp [Form.isFormatted]) (fun closes => opens ?_) (by simp) behind
      exact List.isPrefixOf_iff_prefix.mpr closes

/-- Quotes close a text at its end and nowhere before if and only if it is a static text of a literal
without a prefix and ends safely. -/
theorem closes_iff {delimiter : Delimiter} (quotes : isQuote delimiter.quote = true) {text : Text} :
    closingLength delimiter (text ++ delimiter.text) =
        some (text.length + delimiter.text.length) ↔
      Static ⟨[], delimiter⟩ false text ∧ ending delimiter.quote text = .safe := by
  constructor
  · intro closes
    obtain ⟨body, rest, whole, length, static, safe⟩ :=
      @static_of_closingLength ⟨[], delimiter⟩ quotes rfl _ _ closes
    obtain ⟨rfl, _⟩ := List.append_inj whole (Nat.add_right_cancel length)
    exact ⟨static, safe⟩
  · rintro ⟨static, safe⟩
    have closes := @closingLength_of_static ⟨[], delimiter⟩ quotes _ _ static safe []
    rwa [List.append_nil] at closes

/-- A text that the quotes of a literal do not close is one that they do not close without its
prefix. -/
theorem Static.bare {form : Form} (quotes : isQuote form.delimiter.quote = true) {text : Text}
    (static : Static form false text) (safe : ending form.delimiter.quote text = .safe) :
    Static ⟨[], form.delimiter⟩ false text := by
  have closes := closingLength_of_static quotes static safe []
  rw [List.append_nil] at closes
  exact ((closes_iff quotes).mp closes).1

/-- The quotes that a text is read between are its own unless it begins or ends with them. -/
theorem readingDelimiter_eq_self_iff {delimiter : Delimiter}
    (quotes : isQuote delimiter.quote = true) (text : Text) :
    readingDelimiter delimiter text = delimiter ↔
      ¬(text.head? = some delimiter.quote ∨ text.getLast? = some delimiter.quote) := by
  obtain ⟨quote, triple⟩ := delimiter
  unfold readingDelimiter
  split
  · rename_i touches
    rcases eq_of_isQuote quotes with rfl | rfl <;> simp_all
  · rename_i apart
    simp [apart]

/-- The quotes that a static text is read between fit it if it ends in an even number of
backslashes, and either they are its own or their character does not occur in it. -/
theorem fits_of_static {form : Form} (quotes : isQuote form.delimiter.quote = true) {text : Text}
    (static : Static form false text) (noNull : '\x00' ∉ text)
    (even : backslashes text % 2 = 0)
    (apart : readingDelimiter form.delimiter text = form.delimiter ∨
      (readingDelimiter form.delimiter text).quote ∉ text) : Fits form text := by
  have between : Static ⟨[], readingDelimiter form.delimiter text⟩ false text ∧
      ending (readingDelimiter form.delimiter text).quote text = .safe := by
    by_cases own : readingDelimiter form.delimiter text = form.delimiter
    · have untouched := (readingDelimiter_eq_self_iff quotes text).mp own
      have safe := ending_of_even (fun ends => untouched (Or.inr ends)) even
      rw [own]
      exact ⟨static.bare quotes safe, safe⟩
    · have absent := apart.resolve_left own
      have triple : readingDelimiter form.delimiter text =
          ⟨(readingDelimiter form.delimiter text).quote, true⟩ := by
        unfold readingDelimiter at own ⊢
        split
        · split <;> rfl
        · rename_i untouched
          exact absurd (if_neg untouched) own
      refine ⟨?_, ending_of_even (fun ends => absent (List.mem_of_getLast? ends)) even⟩
      rw [triple]
      exact static_of_not_mem absent
  have bounds := isQuote_readingDelimiter quotes text
  obtain ⟨unified, ends⟩ :=
    @Static.unifyBreaks ⟨[], readingDelimiter form.delimiter text⟩ bounds _ _ between.1
  exact ⟨(closes_iff bounds).mpr ⟨unified, ends.trans between.2⟩, noNull⟩

end Template

/-! ## Texts of a source -/

namespace Source

open Template Pattern

/-- A formatted string is made up of its replacement fields and of texts around them, which are
static. -/
def Tree.IsWoven : Tree → Prop
  | .formatted opening parts _ => ∀ form, Form.ofOpening? opening.text = some form →
    (∀ text ∈ partTexts parts, Static form false text) ∧
      weave (partTexts parts) (fields parts) = some parts
  | _ => True

/-- A tree that is not built as a formatted string has no texts. -/
theorem Tree.isWoven_build {shape : Shape} (other : shape ≠ .formatted)
    (children : List Tree) : (Tree.build shape children).IsWoven := by
  unfold Tree.build
  split
  · split <;> simp [IsWoven]
  · split <;> simp [IsWoven]
  · simp [IsWoven]
  · exact absurd rfl other
  · simp [IsWoven]

/-- A text that is put in front of the first of woven texts is put in front of the parts. -/
theorem weave_cons_text {texts : List Text} {fields parts : List Tree}
    (woven : weave ([] :: texts) fields = some parts) (text : Text) :
    weave (text :: texts) fields = some (textParts text ++ parts) := by
  cases fields with
  | nil =>
    obtain rfl : textParts [] = parts := Option.some.inj woven
    rw [weave]
    exact congrArg some (List.append_nil _).symm
  | cons field fields =>
    obtain ⟨others, inner, rfl⟩ := Option.map_eq_some_iff.mp woven
    rw [weave, inner]
    rfl

/-- The texts among the parts of a formatted string are static, they and its replacement fields make
up the parts, and the first one, if it is not empty, reaches as far as literal text is read. -/
theorem Pattern.Matches.partTexts {form : Form} (quotes : isQuote form.delimiter.quote = true)
    (formatted : form.isFormatted = true) {lexemes rest : List Lexeme} {parts : List Tree}
    (found : Matches grammar Source.literalParts lexemes parts rest) {outer : List Nest}
    (framed : Framed (.literal form.delimiter form.isRaw :: outer) lexemes) :
    (∀ text ∈ Template.partTexts parts, Static form false text) ∧
      weave (Template.partTexts parts) (fields parts) = some parts ∧
      ∃ first others, Template.partTexts parts = first :: others ∧
        (first ≠ [] →
          literalLength (textMode form) false (written lexemes) = some first.length) := by
  generalize same : Source.literalParts = pattern at found
  induction found with
  | none =>
    refine ⟨fun text member => ?_, rfl, [], [], rfl, fun filled => absurd rfl filled⟩
    rw [List.mem_singleton.mp member]
    exact .nil
  | @more _ _ _ _ _ trees before after _ ih =>
    obtain rfl := (Pattern.many.inj same).symm
    have still : balance (.either (.kind .literalText) (.rule .field)) = some .still := by
      decide +kernel
    obtain ⟨next, leads, behind⟩ := before.moves still framed
    obtain rfl := Move.eq_of_leads_still leads
    obtain ⟨static, woven, first, others, texts, reaches⟩ := ih behind rfl
    cases before with
    | left inner =>
      obtain ⟨lexeme, rfl, rfl, kind⟩ := lexeme_of_kind inner
      cases framed with
      | cons enters genuine framedThen =>
        simp only [Lexeme.Genuine, kind] at genuine
        obtain ⟨noLead, noShown, filled, reachesHere⟩ := genuine _ _ _ rfl
        have empty : first = [] := by
          by_contra filled
          have stops := literalLength_drop reachesHere
          rw [List.drop_left] at stops
          have none := Option.some.inj ((reaches filled).symm.trans stops)
          exact filled (List.eq_nil_of_length_eq_zero none)
        have here : Static form false lexeme.text := by
          obtain ⟨body, behind, split, length, static, _⟩ :=
            static_of_literalLength quotes formatted reachesHere
          exact (List.append_inj split length).1 ▸ static
        have single : textParts lexeme.text = [.token lexeme] := by
          obtain ⟨_, _, _, text⟩ := lexeme
          simp_all [textParts]
        rw [empty] at texts
        have whole : Template.partTexts ([.token lexeme] ++ trees) = lexeme.text :: others := by
          rw [List.singleton_append, Template.partTexts, text?, texts]
          simp
        have around : weave (lexeme.text :: others) (fields trees) =
            some ([.token lexeme] ++ trees) := by
          rw [texts] at woven
          rw [← single]
          exact weave_cons_text woven lexeme.text
        have kept : fields ([.token lexeme] ++ trees) = fields trees := rfl
        rw [whole, kept]
        refine ⟨fun text member => ?_, around, lexeme.text, others, rfl, fun _ => ?_⟩
        · obtain rfl | member := List.mem_cons.mp member
          · exact here
          · exact static text (texts ▸ List.mem_cons_of_mem _ member)
        · rw [written_cons, noLead, List.nil_append]
          exact reachesHere
    | right inner =>
      obtain ⟨children, rfl⟩ := node_of_field inner
      have whole (parts : List Tree) : Template.partTexts ([.node .field children] ++ parts) =
          [] :: Template.partTexts parts := rfl
      have around (parts : List Tree) : fields ([.node .field children] ++ parts) =
          .node .field children :: fields parts := rfl
      rw [whole, around, weave, woven]
      refine ⟨fun text member => ?_, rfl, [], _, rfl, fun filled => absurd rfl filled⟩
      obtain rfl | member := List.mem_cons.mp member
      · exact .nil
      · exact static text member
  | _ => cases same

/-- A formatted string of a source is made up of static texts and its replacement fields. -/
theorem Pattern.Matches.isWoven {lexemes rest : List Lexeme} {trees : List Tree}
    (found : Matches grammar Source.formattedParts lexemes trees rest) {nests : List Nest}
    (framed : Framed nests lexemes) : (Tree.build .formatted trees).IsWoven := by
  unfold Source.formattedParts at found
  cases found with
  | both before after =>
    obtain ⟨opening, rfl, rfl, openingKind⟩ := lexeme_of_kind before
    cases after with
    | @both _ _ _ _ _ parts _ inner last =>
      obtain ⟨closing, rfl, rfl, closingKind⟩ := lexeme_of_kind last
      cases framed with
      | cons enters genuine behind =>
        simp only [Lexeme.Genuine, openingKind] at genuine
        obtain ⟨form, read, formatted, quotes⟩ := genuine
        simp only [enter, openingKind, read, Option.map_some, Option.some.injEq] at enters
        rw [← enters] at behind
        have built : Tree.build .formatted ([.token opening] ++ (parts ++ [.token closing])) =
            .formatted opening parts closing := by
          simp only [Tree.build, List.singleton_append, Tree.closed?_append]
        rw [built]
        intro other found
        obtain rfl := Option.some.inj (read.symm.trans found)
        obtain ⟨static, woven, _⟩ := inner.partTexts quotes formatted behind
        exact ⟨static, woven⟩

/-- The formatted strings in a tree that is in a source are made up of static texts and replacement
fields. -/
theorem isWoven_of_parse? {source : Text} {tree literal : Tree}
    (parsed : parse? source = some tree) (inside : literal ∈ tree.subtrees) :
    ∀ inner ∈ literal.subtrees, inner.IsWoven := by
  intro inner within
  apply forall_subtrees_of_parse? (fun _ => trivial) Tree.isWoven_build
    (fun found framed => found.isWoven framed) parsed
  exact Tree.mem_subtrees_trans within tree inside

/-- The texts of a template literal in a source are static. -/
theorem static_of_mem_texts {source : Text} {tree literal : Tree} {form : Form}
    (parsed : parse? source = some tree) (inside : literal ∈ tree.subtrees)
    (template : templateForm? literal = some form) {text : Text}
    (member : text ∈ texts form literal) : Static form false text := by
  have isForm : form? literal = some form := (Option.filter_eq_some_iff.mp template).1
  have genuine := Tree.isLiteral_of_parse? parsed inside template
  have within := isWoven_of_parse? parsed inside
  clear inside template
  fun_induction texts form literal with
  | case1 lexeme =>
    obtain ⟨_, body, encloses⟩ := genuine
    rw [List.mem_singleton.mp member, encloses.body_eq]
    exact encloses.static
  | case2 opening parts closing =>
    exact (within _ (Tree.mem_subtrees_self _) form isForm).1 text member
  | case3 opening inner closing ih =>
    exact ih member isForm genuine fun tree inside => within tree (.tail _ inside)
  | case4 => cases member

end Source

end Outdent
