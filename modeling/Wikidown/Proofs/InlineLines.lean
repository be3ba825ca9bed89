import Wikidown.Proofs.Placeholder.Table

/-!
# The inline notation line by line

All rules of the inline notation but that of the colours stay within a line. A coloured span may go on below
the line of its name, but none begins in a text that names no colour, and no rule puts such a name together.
So texts that name no colour are converted line by line, whatever else stands in them.
-/

namespace Wikidown

set_option autoImplicit false

variable {word front back : Text} {c : Char}

/-! ## Words across what is written -/

theorem infix_of_append_front (begins : word.head? = some c) (absent : c ∉ front)
    (inside : word <:+: front ++ back) : word <:+: back := by
  induction front with
  | nil => exact inside
  | cons d front ih =>
      rw [List.mem_cons, not_or] at absent
      rcases List.infix_cons_iff.mp inside with here | later
      · obtain ⟨word, rfl⟩ := List.head?_eq_some_iff.mp begins
        exact absurd (List.cons_prefix_cons.mp here).1 absent.1
      · exact ih absent.2 later

theorem infix_of_append_back (ends : word.getLast? = some c) (absent : c ∉ back)
    (inside : word <:+: front ++ back) : word <:+: front := by
  have turned : word.reverse <:+: back.reverse ++ front.reverse := by
    rw [← List.reverse_append]
    exact List.reverse_infix.mpr inside
  refine List.reverse_infix.mp (@infix_of_append_front _ _ _ c ?_ ?_ turned)
  · rw [List.head?_reverse, ends]
  · rwa [List.mem_reverse]

/-- A stretch that no occurrence of the word touches, whatever stands on its two sides. -/
def Parts (word stretch : Text) : Prop :=
  ∀ front back, word <:+: front ++ (stretch ++ back) → word <:+: front ∨ word <:+: back

/-- A stretch with a character that the word lacks, unless the word goes on beside the character. -/
theorem parts_of_cut {first last : Char} {ahead behind : Text} (begins : word.head? = some first)
    (ends : word.getLast? = some last) (cut : c ∉ word) (unopened : last ∉ ahead) (closed : first ∉ behind) :
    Parts word (ahead ++ c :: behind) := by
  intro front back inside
  have nonempty : word ≠ [] := by
    rintro rfl
    simp at begins
  have shape : front ++ (ahead ++ c :: behind ++ back) = (front ++ ahead) ++ c :: (behind ++ back) := by simp
  rw [shape, infix_across nonempty cut] at inside
  exact inside.imp (infix_of_append_back ends unopened) (infix_of_append_front begins closed)

namespace Substitution

variable {rule : Substitution} {opening closing left middle right : Text}

/-- A substitution that puts no occurrence of the word together. -/
def MakesNo (rule : Substitution) (word : Text) : Prop :=
  ∀ front text written rest : Text, rule.step? text = some (written, rest) →
    word <:+: front ++ (written ++ rest) → word <:+: front ++ text

theorem MakesNo.apply (makes : rule.MakesNo word) (front text : Text)
    (inside : word <:+: front ++ rule.apply text) : word <:+: front ++ text := by
  fun_induction rule.apply text generalizing front with
  | case1 => exact inside
  | case2 c text written rest found ih =>
      have before := ih (front ++ written) (by simpa using inside)
      exact makes front _ written rest found (by simpa using before)
  | case3 c text nothing ih =>
      have before := ih (front ++ [c]) (by simpa using inside)
      simpa using before

theorem literal_makes_no {pattern value : Text} {visible : pattern ≠ []} (parts : Parts word value) :
    (literal pattern value visible).MakesNo word := by
  intro front text written rest found inside
  rw [literal_step, Option.map_eq_some_iff] at found
  obtain ⟨behind, shape, same⟩ := found
  obtain ⟨rfl, rfl⟩ := Prod.mk.inj same
  rw [after_eq_some.mp shape]
  rcases parts front behind inside with ahead | later
  · exact List.infix_append_of_infix_left ahead
  · exact List.infix_append_of_infix_right (List.infix_append_of_infix_right later)

theorem enclosed_makes_no {render core : Text → Text} {visible : opening ≠ []}
    (shape : ∀ inner, render inner = left ++ core inner ++ right) (inner : ∀ text, core text <:+: text)
    (partsLeft : Parts word left) (partsRight : Parts word right) :
    (enclosed opening closing render visible).MakesNo word := by
  intro front text written rest found inside
  obtain ⟨between, rfl, rfl⟩ := enclosed_shape found
  have split : front ++ (render between ++ rest) = front ++ (left ++ (core between ++ (right ++ rest))) := by
    rw [shape]
    simp
  rw [split] at inside
  rcases partsLeft _ _ inside with ahead | behind
  · exact List.infix_append_of_infix_left ahead
  · refine List.infix_append_of_infix_right ?_
    rcases partsRight _ _ behind with within | later
    · exact (within.trans (inner between)).trans ⟨opening, closing ++ rest, by simp⟩
    · exact List.infix_append_of_infix_right later

/-- A word in what is written for two parts stands in one of them or beside them. -/
theorem infix_of_parts (partsLeft : Parts word left) (partsMiddle : Parts word middle) (partsRight : Parts word right)
    {front first second rest : Text}
    (inside : word <:+: front ++ (left ++ first ++ middle ++ second ++ right ++ rest)) :
    word <:+: front ∨ word <:+: first ∨ word <:+: second ∨ word <:+: rest := by
  simp only [List.append_assoc] at inside
  rcases partsLeft _ _ inside with ahead | behind
  · exact .inl ahead
  · rcases partsMiddle _ _ behind with within | behindMiddle
    · exact .inr (.inl within)
    · rcases partsRight _ _ behindMiddle with within | later
      · exact .inr (.inr (.inl within))
      · exact .inr (.inr (.inr later))

theorem pair_makes_no {divides : Char → Bool} {render : Text → Text → Text} {core : Text → Text}
    {visible : opening ≠ []}
    (shape : ∀ first second, render first second = left ++ core first ++ middle ++ second ++ right)
    (inner : ∀ text, core text <:+: text) (partsLeft : Parts word left) (partsMiddle : Parts word middle)
    (partsRight : Parts word right) : (pair opening divides closing render visible).MakesNo word := by
  intro front text written rest found inside
  obtain ⟨first, divider, second, _, rfl, rfl⟩ := pair_shape found
  rw [shape] at inside
  rcases infix_of_parts partsLeft partsMiddle partsRight inside with ahead | within | within | later
  · exact List.infix_append_of_infix_left ahead
  · exact (within.trans (inner first)).trans
      ⟨front ++ opening, [divider] ++ second ++ closing ++ rest, by simp⟩
  · exact within.trans ⟨front ++ opening ++ first ++ [divider], closing ++ rest, by simp⟩
  · exact later.trans ⟨front ++ opening ++ first ++ [divider] ++ second ++ closing, [], by simp⟩

end Substitution

namespace Inline

/-! ## Names of colours -/

/-- A text in which the name of a colour may begin, with letters of either case. -/
def NamesColor (text : Text) : Prop := "&color(".toList <:+: text.map Char.toLower

instance : DecidablePred NamesColor := fun text =>
  inferInstanceAs (Decidable ("&color(".toList <:+: text.map Char.toLower))

theorem names_color_iff {text : Text} :
    NamesColor text ↔ ∃ opening : Text, opening.map Char.toLower = "&color(".toList ∧ opening <:+: text := by
  constructor
  · rintro ⟨front, back, shape⟩
    obtain ⟨ahead, behind, rfl, lowered, _⟩ := List.map_eq_append_iff.mp shape.symm
    obtain ⟨start, opening, rfl, _, cased⟩ := List.map_eq_append_iff.mp lowered
    exact ⟨opening, cased, start, behind, rfl⟩
  · rintro ⟨opening, cased, inside⟩
    rw [NamesColor, ← cased]
    exact inside.map Char.toLower

theorem NamesColor.of_inside {inner text : Text} (names : NamesColor inner) (inside : inner <:+: text) :
    NamesColor text := names.trans (inside.map Char.toLower)

/-- A word that notation with parentheses begins with. -/
structure Opener (word : Text) : Prop where
  begins : word.head? = some '#' ∨ word.head? = some '&'
  ends : word.getLast? = some '('
  apart : ∀ c ∈ " ;[])<".toList, c ∉ word

theorem opener_of_cased {opening : Text} (cased : opening.map Char.toLower = "&color(".toList) : Opener opening where
  begins := .inr (color_opening_head cased)
  ends := color_opening_last cased
  apart c member := by
    have others : ∀ d ∈ " ;[])<".toList, d.toLower ∉ "&color(".toList := List.all_iff_forall_prop.mp (by decide)
    exact not_mem_color_opening cased (others c member)

section Opener

variable (opener : Opener word)

include opener

theorem Opener.parts {ahead behind : Text} (cut : c ∈ " ;[])<".toList) (opened : '(' ∉ ahead)
    (closed : '#' ∉ behind ∧ '&' ∉ behind) : Parts word (ahead ++ c :: behind) := by
  rcases opener.begins with begins | begins
  · exact parts_of_cut begins opener.ends (opener.apart c cut) opened closed.1
  · exact parts_of_cut begins opener.ends (opener.apart c cut) opened closed.2

theorem marked_makes_no {sign mark : Text} {visible : sign ≠ []} (opened : '(' ∉ mark)
    (closed : '#' ∉ mark ∧ '&' ∉ mark) :
    (Substitution.enclosed sign sign (marked mark) visible).MakesNo word := by
  have shape (inner : Text) : marked mark inner =
      ([] ++ ' ' :: mark) ++ trim inner ++ (mark ++ ' ' :: []) := by simp [marked]
  exact Substitution.enclosed_makes_no shape trim_inside
    (opener.parts (by decide) (by decide) closed)
    (opener.parts (by decide) opened (by decide))

theorem link_makes_no {divides : Char → Bool} {closing : Text} :
    (Substitution.pair "[[".toList divides closing link).MakesNo word := by
  have shape (label target : Text) : link label target =
      ([] ++ '[' :: []) ++ trim label ++ ([] ++ ']' :: "(".toList) ++ target ++ ([] ++ ')' :: []) := by
    simp [link]
  exact Substitution.pair_makes_no shape trim_inside
    (opener.parts (by decide) (by decide) (by decide))
    (opener.parts (by decide) (by decide) (by decide))
    (opener.parts (by decide) (by decide) (by decide))

/-- No rule above that of the colours puts such a word together. -/
theorem before_colors_make_no : ∀ rule ∈ beforeColors, rule.MakesNo word := by
  have less : Parts word "&lt;".toList :=
    @Opener.parts _ ';' opener "&lt".toList [] (by decide) (by decide) (by decide)
  have greater : Parts word "&gt;".toList :=
    @Opener.parts _ ';' opener "&gt".toList [] (by decide) (by decide) (by decide)
  intro rule member
  simp only [beforeColors, rules, List.take, List.mem_cons, List.not_mem_nil, or_false] at member
  rcases member with rfl | rfl | rfl | rfl | rfl | rfl
  · exact Substitution.enclosed_makes_no (fun _ => rfl) (fun _ => List.infix_rfl) less greater
  · exact Substitution.literal_makes_no less
  · exact marked_makes_no opener (by decide) (by decide)
  · exact marked_makes_no opener (by decide) (by decide)
  · exact marked_makes_no opener (by decide) (by decide)
  · exact link_makes_no opener

end Opener

theorem names_color_before {text : Text} (names : NamesColor (Substitution.applyAll beforeColors text)) :
    NamesColor text := by
  by_contra plain
  have kept : ∀ rule ∈ beforeColors, ∀ text, ¬ NamesColor text → ¬ NamesColor (rule.apply text) := by
    intro rule member text plain named
    obtain ⟨opening, cased, inside⟩ := names_color_iff.mp named
    exact plain (names_color_iff.mpr
      ⟨opening, cased, (before_colors_make_no (opener_of_cased cased) rule member).apply [] text inside⟩)
  exact Substitution.apply_all_keeps kept plain names

/-! ## Line by line -/

/-- A text that ends, or goes on with the next line. -/
def EndsLine (tail : Text) : Prop := tail = [] ∨ ∃ below, tail = '\n' :: below

/-- No coloured span begins in a line that names no colour. -/
theorem color_step_ahead {line tail : Text} (plain : ¬ NamesColor line) (ends : EndsLine tail) :
    afterAnyCase? "&color(".toList (line ++ tail) = none := by
  have unnamed : afterAnyCase? "&color(".toList line = none := by
    by_contra named
    obtain ⟨rest, found⟩ := Option.ne_none_iff_exists'.mp named
    obtain ⟨opening, shape, cased⟩ := after_any_case_shape found
    exact plain (names_color_iff.mpr ⟨opening, cased, shape ▸ (List.prefix_append opening rest).isInfix⟩)
  rcases ends with rfl | ⟨below, rfl⟩
  · rwa [List.append_nil]
  · rw [Layout.Table.after_any_case_append_tail (by decide), unnamed]
    rfl

theorem color_rule_ahead {line tail : Text} (plain : ¬ NamesColor line) (ends : EndsLine tail) :
    colorRule.apply (line ++ tail) = line ++ colorRule.apply tail := by
  induction line with
  | nil => rfl
  | cons c line ih =>
      have later : ¬ NamesColor line := fun names => plain (names.of_inside (List.infix_cons List.infix_rfl))
      have nothing : colorRule.step? (c :: (line ++ tail)) = none := by
        change colorStep? (c :: line ++ tail) = none
        rw [colorStep?, color_step_ahead plain ends]
        rfl
      rw [List.cons_append, Substitution.apply_of_none nothing, ih later, List.cons_append]

/-- Rules that stay within a line go over the lines of a text one by one. -/
theorem apply_all_newline {inLine : List Substitution} (stay : ∀ rule ∈ inLine, ∃ c, rule.InLine c)
    (above below : Text) : Substitution.applyAll inLine (above ++ '\n' :: below) =
      Substitution.applyAll inLine above ++ '\n' :: Substitution.applyAll inLine below := by
  refine @Substitution.apply_all_apart _ (fun above below => above ++ '\n' :: below)
    (fun rule member above below => ?_) above below
  obtain ⟨c, here⟩ := stay rule member
  exact here.apply_newline above below

theorem convert_newline {above : Text} (plain : ¬ NamesColor above) (below : Text) :
    convert (above ++ '\n' :: below) = convert above ++ '\n' :: convert below := by
  have before := @apply_all_newline beforeColors
    (fun rule member => rules_in_line rule (List.mem_append_left _ member)) above below
  have after := @apply_all_newline afterColors
    (fun rule member => rules_in_line rule (List.mem_append_right _ member))
  have unnamed : ¬ NamesColor (Substitution.applyAll beforeColors above) :=
    fun names => plain (names_color_before names)
  have colors : colorRule.apply (Substitution.applyAll beforeColors above) =
      Substitution.applyAll beforeColors above := by
    have whole := color_rule_ahead unnamed (.inl rfl)
    rwa [Substitution.apply_nil, List.append_nil] at whole
  rw [convert_stages, convert_stages, convert_stages, before, color_rule_ahead unnamed (.inr ⟨_, rfl⟩),
    Substitution.apply_cons_other color_rule_starts (by decide), after, colors]

theorem convert_unlines {content : List Line} (nonempty : content ≠ [])
    (plain : ∀ line ∈ content.dropLast, ¬ NamesColor line) :
    convert (unlines content) = unlines (content.map convert) := by
  induction content with
  | nil => contradiction
  | cons line content ih =>
      cases content with
      | nil => rfl
      | cons next content =>
          rw [List.dropLast_cons_cons, List.forall_mem_cons] at plain
          have below := ih (List.cons_ne_nil next content) plain.2
          rw [unlines_cons_cons, convert_newline plain.1, below]
          rfl

end Inline

/-- Above a line feed the inline notation is converted on its own, unless it names a colour there, and so is
each line of a text in which no line but the last names a colour. -/
theorem converted_line_by_line :
    (∀ above below : Text, ¬ Inline.NamesColor above →
      Inline.convert (above ++ '\n' :: below) = Inline.convert above ++ '\n' :: Inline.convert below) ∧
    ∀ text : Text, (∀ line ∈ (lines text).dropLast, ¬ Inline.NamesColor line) →
      Inline.convert text = unlines ((lines text).map Inline.convert) := by
  refine ⟨fun above below plain => Inline.convert_newline plain below, fun text plain => ?_⟩
  have whole := Inline.convert_unlines (lines_ne_nil text) plain
  rwa [unlines_lines] at whole

/-- A colour is named on one line and its words stand on the next one. -/
example : Inline.convert "&color(red)\n\x7ba\x7d".toList = "<span style=\"color: red;\">a</span>".toList := by
  decide +kernel

/-- A line with notation that is not closed, and the first letters of the name of a colour. -/
def unclosedLine : Text := "<a \x27\x27b\x27 [[c:d &COLOR".toList

/-- Lines that would close the notation above, and a coloured span over two of them. -/
def closingLines : Text := "(e) > \x27\x27 ]]\n&Color(red)\n\x7bf %%g%%\x7d".toList

/-- Lines that would close each other's notation, above one with a coloured span. -/
def crossedLines : Text := "%%a [[b\n\x27c\x27 >d]] %%\n&color(red) \x7be\x7d".toList

theorem converted_line_by_line_unclosed :
    (¬ Inline.NamesColor unclosedLine ∧
      Inline.convert (unclosedLine ++ '\n' :: closingLines) =
        Inline.convert unclosedLine ++ '\n' :: Inline.convert closingLines) ∧
    (∀ line ∈ (lines crossedLines).dropLast, ¬ Inline.NamesColor line) ∧
      Inline.convert crossedLines = unlines ((lines crossedLines).map Inline.convert) := by
  have plain : ¬ Inline.NamesColor unclosedLine := by decide
  have above : ∀ line ∈ (lines crossedLines).dropLast, ¬ Inline.NamesColor line := by decide
  exact ⟨⟨plain, converted_line_by_line.1 unclosedLine closingLines plain⟩, above,
    converted_line_by_line.2 crossedLines above⟩

end Wikidown
