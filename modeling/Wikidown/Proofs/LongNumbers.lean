import Wikidown.Proofs.Composition.Arranged
import Wikidown.Proofs.Placeholder.Absent
import Wikidown.Proofs.Placeholder.Bare

/-!
# Numbers that stop a conversion

The number of a placeholder is read while the parts are restored, also where the document itself
shows the placeholder. A number with too many digits is not read, and nothing else stops a
conversion.
-/

namespace Wikidown

set_option autoImplicit false

/-- Text that is written like a placeholder, with a number of too many digits. -/
inductive Overlong : Text → Prop
  | intro (kind : Kind) {digits : Text} (numeral : ∀ d ∈ digits, isDigit d = true)
      (long : digitLimit < digits.length) : Overlong (kind.opening ++ digits ++ tokenClosing)

theorem is_traced_of_in_token {c : Char} (letter : inToken c = true) : isTraced c = true := by
  simp only [inToken, Bool.or_eq_true] at letter
  rcases letter with (digit | upper) | other
  · simp [isTraced, is_digit_of_ascii digit]
  · simp [isTraced, upper]
  · have wider : ∀ d ∈ "\x7b\x7d_-".toList, isTraced d = true :=
      List.all_iff_forall_prop.mp (by decide)
    exact wider c (List.contains_iff_mem.mp other)

/-- What stands around the number of a placeholder has one digit. -/
theorem count_digits_around (kind : Kind) (digits : Text) :
    (kind.opening ++ digits ++ tokenClosing).countP isDigit = digits.countP isDigit + 1 := by
  have opening : kind.opening.countP isDigit = 1 := by cases kind <;> decide
  have closing : tokenClosing.countP isDigit = 0 := by decide
  rw [List.countP_append, List.countP_append, opening, closing]
  omega

namespace Overlong

variable {word : Text}

theorem traced (overlong : Overlong word) : Traced word := by
  obtain ⟨kind, numeral, _⟩ := overlong
  constructor
  case letters =>
    have around : ∀ c ∈ token kind 0, isTraced c = true := fun c member =>
      is_traced_of_in_token (in_token member)
    intro c member
    simp only [token, List.mem_append] at around member
    rcases member with (front | number) | back
    · exact around c (.inl (.inl front))
    · simp [isTraced, numeral c number]
    · exact around c (.inr back)
  case anchored =>
    refine ⟨'_', ?_, by decide⟩
    rw [List.append_assoc]
    exact List.mem_append_left _ (by cases kind <;> decide)
  case starts => cases kind <;> simp [Kind.opening]
  case ends =>
    intro c last
    obtain rfl : '\x7d' = c := by simpa [tokenClosing] using last
    decide

theorem many_digits (overlong : Overlong word) : digitLimit + 1 < word.countP isDigit := by
  obtain ⟨kind, numeral, long⟩ := overlong
  rw [count_digits_around, List.countP_eq_length.mpr numeral]
  omega

/-- The placeholders of a conversion have short numbers. -/
theorem token_lacks (overlong : Overlong word) {promote : Bool} {kind : Kind} {index : Nat}
    (small : index < 10 ^ digitLimit) : Lacks promote word (token kind index) := by
  rw [Lacks, visible_of_no_colon promote (not_mem_token (by decide))]
  intro inside
  have number : (decimalText index).countP isDigit ≤ digitLimit :=
    List.countP_le_length.trans ((Nat.length_toDigits_le_iff (by decide) (by decide)).mpr small)
  have bound : word.countP isDigit ≤ (token kind index).countP isDigit := inside.sublist.countP_le
  have least := overlong.many_digits
  rw [token, count_digits_around] at bound
  omega

end Overlong

section Restore

variable {kind : Kind} {parts : List Text} {render : Text → Except NumberTooLong Text}

/-- Restoring goes through a text whose placeholders have short numbers. -/
theorem restore_from_succeeds {written text : Text} (short : ∀ word, Overlong word → ¬ word <:+: text)
    (renders : ∀ part ∈ parts, ∃ rendered, render part = .ok rendered) :
    ∃ result, restoreFrom kind parts render written text = .ok result := by
  induction size : text.length using Nat.strong_induction_on generalizing written text with
  | _ size ih =>
      cases text with
      | nil => exact ⟨_, restore_from_nil⟩
      | cons c text =>
          cases read : readToken? kind (c :: text) with
          | none =>
              rw [restore_from_unread read]
              refine ih text.length (by simp [← size]) (fun word overlong inside => ?_) rfl
              exact short word overlong (inside.trans (List.suffix_cons c text).isInfix)
          | some found =>
              obtain ⟨digits, rest⟩ := found
              obtain ⟨shape, numeral⟩ := read_token_shape read
              have number : boundedNumber digits = .ok (decimalValue digits) := by
                refine if_neg fun long => short _ (.intro kind numeral long) ?_
                rw [shape]
                exact (List.prefix_append _ rest).isInfix
              have later : ∀ shown, ∃ result, restoreFrom kind parts render shown rest = .ok result := by
                intro shown
                refine ih rest.length (size ▸ read_token_length read) (fun word overlong inside => ?_) rfl
                rw [shape] at short
                exact short word overlong (inside.trans (List.suffix_append _ rest).isInfix)
              rw [restore_from_read_eq read, number]
              cases known : parts[decimalValue digits]? with
              | none =>
                  simp only [known, bind, Except.bind]
                  exact later _
              | some part =>
                  obtain ⟨rendered, renders⟩ := renders part (List.mem_of_getElem? known)
                  simp only [known, renders, bind, Except.bind]
                  exact later _

theorem restore_succeeds {text : Text} (short : ∀ word, Overlong word → Lacks true word text)
    (renders : ∀ part ∈ parts, ∃ rendered, render part = .ok rendered) :
    ∃ result, restore kind parts render text = .ok result :=
  restore_from_succeeds short renders

end Restore

/-- Restoring goes through a text and parts whose placeholders have short numbers. -/
theorem restore_all_succeeds {store : Store} {text : Text}
    (short : ∀ word, Overlong word → Lacks true word text)
    (parts : ∀ word, Overlong word → ∀ kind, ∀ part ∈ store.parts kind, Lacks true word (trim part)) :
    ∃ result, restoreAll store text = .ok result := by
  have code : ∀ {text : Text}, (∀ word, Overlong word → Lacks true word text) →
      ∃ result, restore .code store.code (fun code => .ok (renderCode code)) text = .ok result :=
    fun lacks => restore_succeeds lacks fun _ _ => ⟨_, rfl⟩
  have renders : ∀ part ∈ store.quote, ∃ rendered, renderQuote store part = .ok rendered := by
    intro part member
    obtain ⟨body, restored⟩ := code fun word overlong =>
      Inline.convert_lacks overlong.traced (parts word overlong .quote part member)
    exact ⟨_, render_quote_ok_iff.mpr ⟨body, restored, rfl⟩⟩
  obtain ⟨withCode, first⟩ := code short
  have shortCode : ∀ word, Overlong word → Lacks true word withCode := fun word overlong =>
    restore_lacks overlong.traced
      (fun part member _ => code_sits overlong.traced (parts word overlong .code part member))
      (short word overlong) first
  obtain ⟨withQuotes, second⟩ := restore_succeeds shortCode renders
  have shortQuotes : ∀ word, Overlong word → Lacks true word withQuotes := fun word overlong =>
    restore_lacks overlong.traced
      (fun part member _ => quote_sits overlong.traced (parts word overlong .code)
        (parts word overlong .quote part member))
      (shortCode word overlong) second
  obtain ⟨result, third⟩ := @restore_succeeds .paragraph store.paragraph
    (fun paragraph => .ok (renderParagraph paragraph)) withQuotes shortQuotes fun _ _ => ⟨_, rfl⟩
  refine ⟨result, ?_⟩
  rw [restoreAll, first]
  change (do
    let withQuotes ← restore .quote store.quote (renderQuote store) withCode
    restore .paragraph _ _ withQuotes) = _
  rw [second]
  exact third

/-- A document is converted, whatever placeholders it shows, as long as their numbers are short. -/
theorem convert_returns (options : Options) (source : Text)
    (few : ∀ kind, (Document.masked source).store.count kind ≤ 10 ^ digitLimit)
    (short : ∀ word, Overlong word → ¬ word <:+: visible options.promoteFirstRow source) :
    ∃ result, convert options source = .ok result := by
  have masked : ∀ word, Overlong word →
      Lacks options.promoteFirstRow word (Document.masked source).text ∧
        ∀ kind, ∀ part ∈ (Document.masked source).store.parts kind,
          Lacks options.promoteFirstRow word part := by
    intro word overlong
    refine Masked.of_text_lacks overlong.traced
      (normalize_lacks overlong.traced (short word overlong)) fun kind index known => ?_
    exact overlong.token_lacks (Nat.lt_of_lt_of_le known (few kind))
  obtain ⟨text, restored⟩ : ∃ text, Document.restored options.promoteFirstRow source = .ok text := by
    refine restore_all_succeeds (fun word overlong => ?_) fun word overlong kind part member => ?_
    · exact Document.arranged_lacks overlong.traced (masked word overlong).1
    · have lacks := ((masked word overlong).2 kind part member).promoted overlong.traced
      exact lacks.of_inside overlong.traced (trim_inside part)
  exact ⟨_, by rw [convert, restored]; rfl⟩

/-- A document with code and with text like placeholders: in the number of its code, with a number of
no part, and in an empty header. -/
def foreignPlaceholders : Text :=
  ("\x7b\x7bBACKLOG2MD_CODE-0\x7d\x7d\n\x7bcode\x7d\nx\n\x7b/code\x7d\n" ++
    "\x7b\x7bBACKLOG2MD_QUOTE-0012\x7d\x7d\n|:\x7b:\x7bBACKLOG2MD_CODE-7\x7d\x7d").toList

theorem convert_returns_with_foreign :
    ∃ result, convert {} foreignPlaceholders = .ok result := by
  refine convert_returns {} foreignPlaceholders (fun kind => ?_) fun word overlong inside => ?_
  · exact few_le_digit_limit (by cases kind <;> decide +kernel)
  · have fewDigits : (visible false foreignPlaceholders).countP isDigit ≤ 100 := by decide +kernel
    have manyDigits : digitLimit + 1 < (visible false foreignPlaceholders).countP isDigit :=
      overlong.many_digits.trans_le inside.sublist.countP_le
    exact absurd (manyDigits.trans_le fewDigits) (by decide)

/-- A document whose only line is written like a placeholder of code. -/
def shownPlaceholder (digits : Text) : Text := Kind.code.opening ++ digits ++ tokenClosing

section Shown

variable {digits : Text}

theorem not_mem_shown (numeral : ∀ d ∈ digits, isDigit d = true) {c : Char}
    (other : isDigit c = false) (around : c ∉ Kind.code.opening ++ tokenClosing) :
    c ∉ shownPlaceholder digits := by
  rw [List.mem_append, not_or] at around
  rw [shownPlaceholder, List.mem_append, List.mem_append, not_or, not_or]
  refine ⟨⟨around.1, fun member => ?_⟩, around.2⟩
  rw [numeral c member] at other
  exact absurd other (by decide)

theorem masked_shown (numeral : ∀ d ∈ digits, isDigit d = true) :
    Document.masked (shownPlaceholder digits) =
      ⟨unlines [[], shownPlaceholder digits, [], []], .empty⟩ := by
  have whole : lines (shownPlaceholder digits) = [shownPlaceholder digits] :=
    lines_of_no_newline (not_mem_shown numeral (by decide) (by decide))
  have content : lines (normalize (shownPlaceholder digits)) =
      [[], shownPlaceholder digits, [], []] := by
    rw [lines_normalize (not_mem_shown numeral (by decide) (by decide)), whole]
    · rfl
    · rw [whole, List.mem_singleton]
      exact fun same => absurd (List.cons.inj same).1 (by decide)
  have unopened (shape : BlockShape) (empty : after? shape.opening [] = none)
      (shown : after? shape.opening (shownPlaceholder digits) = none) :
      ∀ line ∈ lines (normalize (shownPlaceholder digits)), after? shape.opening line = none := by
    rw [content]
    simp [empty, shown]
  rw [Document.masked, Masked.of_text_unopened (unopened Masked.codeShape rfl rfl)
    (unopened Masked.quoteShape rfl rfl), content]
  rfl

theorem arranged_shown (promote : Bool) (numeral : ∀ d ∈ digits, isDigit d = true) :
    Document.arranged promote (shownPlaceholder digits) =
      '\n' :: shownPlaceholder digits ++ "\n\n".toList := by
  have text : unlines [[], shownPlaceholder digits, [], []] =
      '\n' :: shownPlaceholder digits ++ "\n\n".toList := by
    simp [unlines, joined]
  have feed : '\n' ∉ shownPlaceholder digits := not_mem_shown numeral (by decide) (by decide)
  have content : lines (unlines [[], shownPlaceholder digits, [], []]) =
      [[], shownPlaceholder digits, [], []] :=
    lines_unlines (by simp) (by simp [feed])
  have converted : Layout.converted (shownPlaceholder digits) = [shownPlaceholder digits] := by
    have item : Layout.unorderedItem (shownPlaceholder digits) = shownPlaceholder digits :=
      Block.unordered_item_unmarked (by simp [shownPlaceholder, Kind.opening])
    rw [Layout.converted, Layout.heading_of_unstarred (by simp [shownPlaceholder, Kind.opening]),
      List.map_singleton, item,
      Layout.escape_of_absent (not_mem_shown numeral (by decide) (by decide))]
  have plain : ∀ line ∈ lines (unlines [[], shownPlaceholder digits, [], []]), Layout.Plain line := by
    rw [content]
    simp [Layout.Plain, shownPlaceholder, Kind.opening]
  have single : ¬ tripleFeed <:+: '\n' :: shownPlaceholder digits := by
    intro inside
    have three := inside.sublist.count_le '\n'
    rw [List.count_cons_self, List.count_eq_zero.mpr feed] at three
    exact absurd three (by decide)
  have ends : ('\n' :: shownPlaceholder digits).getLast? ≠ some '\n' := by
    have closing : tokenClosing ≠ [] := by decide
    rw [shownPlaceholder, ← List.cons_append, List.getLast?_append_of_ne_nil _ closing]
    decide
  have returns : '\r' ∉ unlines [[], shownPlaceholder digits, [], []] := by
    rw [text]
    have none : '\r' ∉ shownPlaceholder digits := not_mem_shown numeral (by decide) (by decide)
    simp [none]
  rw [Document.arranged, masked_shown numeral, Layout.convert_of_plain returns plain, content]
  simp only [List.flatMap_cons, List.flatMap_nil, Layout.converted_nil, converted,
    List.singleton_append, List.append_nil]
  rw [text, collapse_eq_squeeze, squeeze_append single ends]
  rfl

/-- A placeholder with too long a number stops the conversion of a document that shows it. -/
theorem convert_shown (options : Options) (numeral : ∀ d ∈ digits, isDigit d = true)
    (long : digitLimit < digits.length) :
    convert options (shownPlaceholder digits) = .error ⟨digits.length⟩ := by
  have some : digits ≠ [] := List.ne_nil_of_length_pos (Nat.zero_lt_of_lt long)
  have read := read_token_of_digits .code numeral some "\n\n".toList
  have tooLong : boundedNumber digits = .error ⟨digits.length⟩ := if_pos long
  have stopped (render : Text → Except NumberTooLong Text) :
      restore .code [] render ('\n' :: shownPlaceholder digits ++ "\n\n".toList) =
        .error ⟨digits.length⟩ := by
    have unread := read_token_cons_newline .code (shownPlaceholder digits ++ "\n\n".toList)
    obtain ⟨c, more, shape⟩ := List.exists_cons_of_ne_nil
      (show shownPlaceholder digits ++ "\n\n".toList ≠ [] by simp)
    rw [← shownPlaceholder, shape] at read
    rw [restore, List.cons_append, restore_from_unread unread, shape, restore_from_read_eq read, tooLong]
    rfl
  rw [convert, Document.restored, arranged_shown _ numeral, masked_shown numeral, restoreAll]
  exact congrArg (fun first => Except.map _ (first >>= _)) (stopped _)

end Shown

theorem convert_stops_at_long_number :
    ¬ ∃ result, convert {} (shownPlaceholder (List.replicate 4301 '0')) = .ok result := by
  have numeral : ∀ d ∈ List.replicate 4301 '0', isDigit d = true := by
    intro d member
    rw [List.eq_of_mem_replicate member]
    decide
  have long : digitLimit < (List.replicate 4301 '0').length := by
    rw [List.length_replicate]
    decide
  rintro ⟨result, converted⟩
  have stopped := convert_shown {} numeral long
  rw [converted] at stopped
  cases stopped

end Wikidown
