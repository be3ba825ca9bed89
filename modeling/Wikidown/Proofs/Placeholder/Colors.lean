import Wikidown.Proofs.Placeholder.Inline

/-!
# Placeholders under the colours

The braces of a coloured span may stand lines below its name, and the first brace of a placeholder
may be taken for them. Such a placeholder is lost; every other one stays, and none is made. The last part
numbers the rules of the inline notation by what they begin with, for texts in which most of them find nothing.
-/

namespace Wikidown

set_option autoImplicit false

namespace Substitution

/-- The stretches of a text that a substitution writes something else for, in order. -/
def stretches (rule : Substitution) : Text → List Text
  | [] => []
  | c :: text =>
      match _ : rule.step? (c :: text) with
      | some (_, rest) =>
          (c :: text).take ((c :: text).length - rest.length) :: rule.stretches rest
      | none => rule.stretches text
termination_by text => text.length
decreasing_by
  · exact rule.shorter ‹_›
  · simp

theorem stretches_of_some {rule : Substitution} {stretch written rest : Text}
    (found : rule.step? (stretch ++ rest) = some (written, rest)) :
    rule.stretches (stretch ++ rest) = stretch :: rule.stretches rest := by
  generalize shape : stretch ++ rest = text at found
  cases text with
  | nil => exact absurd (rule.shorter found) (Nat.not_lt_zero _)
  | cons c text =>
      have front : (c :: text).take ((c :: text).length - rest.length) = stretch := by
        rw [← shape]
        simp
      rw [stretches]
      split
      · next _ other here =>
          rw [found] at here
          obtain rfl := (Prod.mk.inj (Option.some.inj here)).2
          rw [front]
      · next here =>
          rw [found] at here
          exact absurd here (by simp)

theorem stretches_of_none {rule : Substitution} {c : Char} {text : Text}
    (nothing : rule.step? (c :: text) = none) :
    rule.stretches (c :: text) = rule.stretches text := by
  rw [stretches]
  split <;> simp_all

end Substitution

namespace Inline

/-- Nothing that the colour notation takes in holds a placeholder. -/
def SparesPlaceholders (text : Text) : Prop :=
  ∀ stretch ∈ colorRule.stretches (Substitution.applyAll beforeColors text), ¬ mark <:+: stretch

theorem eq_of_to_lower {c d : Char} (same : d = c.toLower) (other : d.isLower = false) : c = d := by
  unfold Char.toLower at same
  split at same
  · next upper =>
      have letter : d.isLower = true := by
        rw [same]
        have low := upper.1
        have high := upper.2
        refine Bool.and_eq_true_iff.mpr ⟨decide_eq_true ?_, decide_eq_true ?_⟩ <;>
          simp only [UInt32.le_iff_toNat_le, ge_iff_le, Char.reduceVal, UInt32.toNat_add] at low high ⊢ <;>
          simp at low high ⊢ <;> omega
      rw [letter] at other
      exact absurd other (by decide)
  · exact same.symm

theorem after_any_case_shape {opening text rest : Text}
    (found : afterAnyCase? opening text = some rest) :
    ∃ front, text = front ++ rest ∧ front.map Char.toLower = opening := by
  induction opening generalizing text with
  | nil =>
      obtain rfl := Option.some.inj found
      exact ⟨[], rfl, rfl⟩
  | cons expected opening ih =>
      cases text with
      | nil => simp [afterAnyCase?] at found
      | cons c text =>
          simp only [afterAnyCase?] at found
          split at found
          · next same =>
              obtain ⟨front, rfl, shape⟩ := ih found
              exact ⟨c :: front, rfl, by simp [shape, same]⟩
          · simp at found

section Opening

variable {opening : Text} (cased : opening.map Char.toLower = "&color(".toList)

include cased

theorem color_opening_head : opening.head? = some '&' := by
  have first : opening.head?.map Char.toLower = some '&' := by
    rw [← List.head?_map, cased]
    rfl
  obtain ⟨c, begins, lower⟩ := Option.map_eq_some_iff.mp first
  rw [begins, eq_of_to_lower lower.symm (by decide)]

theorem color_opening_last : opening.getLast? = some '(' := by
  have last : opening.getLast?.map Char.toLower = some '(' := by
    rw [← List.getLast?_map, cased]
    rfl
  obtain ⟨c, ends, lower⟩ := Option.map_eq_some_iff.mp last
  rw [ends, eq_of_to_lower lower.symm (by decide)]

theorem not_mem_color_opening {c : Char} (apart : c.toLower ∉ "&color(".toList) : c ∉ opening := by
  intro member
  rw [← cased] at apart
  exact apart (List.mem_map_of_mem member)

end Opening

/-- What is read of a coloured span: its name stands on one line with the ampersand, its words on one line with
the braces, and blanks are between them. -/
theorem color_span_shape {text name inner rest : Text}
    (span : (afterAnyCase? "&color(".toList text).bind colorSpan? = some (name, inner, rest)) :
    ∃ opening blanks, text = opening ++ name ++ [')'] ++ blanks ++ ('\x7b' :: inner ++ ['\x7d']) ++ rest ∧
      opening.map Char.toLower = "&color(".toList ∧ '\n' ∉ name ∧ '\n' ∉ inner := by
  obtain ⟨body, front, read⟩ := Option.bind_eq_some_iff.mp span
  obtain ⟨opening, rfl, lowered⟩ := after_any_case_shape front
  obtain ⟨ending, rfl, closed⟩ := up_to_found read
  obtain ⟨words, parenthesis, finished⟩ := Option.bind_eq_some_iff.mp closed
  obtain ⟨spread, brace, within⟩ := Option.bind_eq_some_iff.mp finished
  obtain ⟨last, rfl, ended⟩ := up_to_found within
  obtain ⟨blanks, shape⟩ := trim_start_suffix words
  rw [after_eq_some.mp brace, after_eq_some.mp ended] at shape
  refine ⟨opening, blanks, ?_, lowered, up_to_no_newline read, up_to_no_newline within⟩
  rw [after_eq_some.mp parenthesis, ← shape]
  simp

theorem color_step_iff {text written rest : Text} : colorStep? text = some (written, rest) ↔
    ∃ name inner, (afterAnyCase? "&color(".toList text).bind colorSpan? = some (name, inner, rest) ∧
      written = colored name inner := by
  simp only [colorStep?, Option.map_eq_some_iff, Prod.mk.injEq]
  constructor
  · rintro ⟨⟨name, inner, tail⟩, read, rfl, rfl⟩
    exact ⟨name, inner, read, rfl⟩
  · rintro ⟨name, inner, read, rfl⟩
    exact ⟨⟨name, inner, rest⟩, read, rfl, rfl⟩

theorem color_step_shape {text written rest : Text}
    (found : colorStep? text = some (written, rest)) :
    ∃ opening name blanks inner,
      text = opening ++ name ++ [')'] ++ blanks ++ ('\x7b' :: inner ++ ['\x7d']) ++ rest ∧
        written = colored name inner ∧ opening.map Char.toLower = "&color(".toList ∧ '\n' ∉ name ∧
          '\n' ∉ inner := by
  obtain ⟨name, inner, read, written⟩ := color_step_iff.mp found
  obtain ⟨opening, blanks, shape, cased, whole⟩ := color_span_shape read
  exact ⟨opening, name, blanks, inner, shape, written, cased, whole⟩

theorem colored_whole {color inner : Text} (wholeColor : '\n' ∉ color) (wholeInner : '\n' ∉ inner) :
    '\n' ∉ colored color inner := by
  have tag : '\n' ∉ "<span style=\x22color: ".toList := by decide
  have middle : '\n' ∉ ";\x22>".toList := by decide
  have closing : '\n' ∉ "</span>".toList := by decide
  unfold colored
  simp only [List.mem_append, not_or]
  exact ⟨⟨⟨⟨tag, wholeColor⟩, middle⟩, wholeInner⟩, closing⟩

section Carries

variable {promote : Bool} {word : Text} {keys : List (Kind × Nat)}

/-- The line that the words of a coloured span stand on holds a placeholder only if it begins with the brace
in front of them. -/
theorem braces_carry {indent inner next : Text} {below : List Line} (traced : Traced word)
    (allowed : word = mark ∨ ¬ mark <:+: indent ++ '\x7b' :: inner)
    (carries : Carries promote word bare ((indent ++ ('\x7b' :: inner ++ ['\x7d'] ++ next)) :: below) keys) :
    Lacks promote word inner ∧ Lacks promote word next ∧ ∃ kept, kept.Sublist keys ∧
      (¬ mark <:+: indent ++ '\x7b' :: inner → kept = keys) ∧ Carries promote word bare below kept := by
  rcases Carries.cons_iff.mp carries with
    ⟨lacks, belowKeys⟩ | ⟨none, known, kind, index, later, isToken, rfl, belowKeys⟩
  · have lacksInner : Lacks promote word inner :=
      lacks.of_inside traced ⟨indent ++ ['\x7b'], ['\x7d'] ++ next, by simp⟩
    exact ⟨lacksInner, (lacks.right traced).right traced, keys, List.Sublist.refl _, fun _ => rfl, belowKeys⟩
  · rw [bare, List.mem_singleton] at known
    rw [known, List.nil_append] at isToken
    have taken : mark <:+: indent ++ '\x7b' :: inner :=
      (@mark_prefix_of_token kind index _ next (by rw [← isToken]; simp)).isInfix
    obtain rfl := allowed.resolve_right (not_not_intro taken)
    have behind : Lacks promote mark (inner ++ '\x7d' :: next) :=
      @lacks_mark_of_token promote kind index indent _ (by rw [← isToken]; simp)
    have lacksNext : Lacks promote mark next := behind.of_inside traced ⟨inner ++ ['\x7d'], [], by simp⟩
    exact ⟨behind.left, lacksNext, later, List.sublist_cons_self _ _, fun spared => absurd taken spared, belowKeys⟩

section Span

variable {front opening name inner rest : Text}

/-- A coloured span on one line takes no placeholder away. -/
theorem colored_beside_carries {blanks : Text} (traced : Traced word) (ampersand : '&' ∈ opening)
    (wholeWritten : '\n' ∉ colored name inner)
    (whole : '\n' ∉ opening ++ name ++ [')'] ++ blanks ++ ('\x7b' :: inner ++ ['\x7d']))
    (carries : Carries promote word bare (lines (front ++
      (opening ++ name ++ [')'] ++ blanks ++ ('\x7b' :: inner ++ ['\x7d']) ++ rest))) keys) :
    Carries promote word bare (lines (front ++ (colored name inner ++ rest))) keys := by
  obtain ⟨above, last, ends⟩ := exists_last_line front
  obtain ⟨next, below, begins⟩ := List.exists_cons_of_ne_nil (lines_ne_nil rest)
  rw [lines_join ends (lines_append whole begins)] at carries
  rw [lines_join ends (lines_append wholeWritten begins)]
  obtain ⟨early, late, rfl, aboveKeys, spanKeys⟩ := carries.of_append
  obtain ⟨lacks, belowKeys⟩ := spanKeys.quiet_of_strange (show inToken '&' = false by decide) (by simp [ampersand])
  have lacksName : Lacks promote word name :=
    lacks.of_inside traced ⟨last ++ opening, [')'] ++ blanks ++ ('\x7b' :: inner ++ ['\x7d']) ++
      next, by simp⟩
  have lacksInner : Lacks promote word inner :=
    lacks.of_inside traced ⟨last ++ opening ++ name ++ [')'] ++ blanks ++ ['\x7b'],
      ['\x7d'] ++ next, by simp⟩
  have lacksNext : Lacks promote word next := (lacks.right traced).right traced
  have joined := colored_stands traced lacksName lacksInner last next lacks.left lacksNext
  rw [List.append_assoc] at joined
  exact aboveKeys.append (.quiet joined belowKeys)

/-- One whose words stand on a line further below takes away the placeholders between its lines, and the one
whose brace it takes for its own. -/
theorem colored_below_carries {beside under : Text} (traced : Traced word) (ampersand : '&' ∈ opening)
    (wholeWritten : '\n' ∉ colored name inner) (wholeInner : '\n' ∉ inner)
    (wholeAhead : '\n' ∉ opening ++ name ++ [')'] ++ beside)
    (allowed : word = mark ∨ ¬ mark <:+: under ++ '\x7b' :: inner)
    (carries : Carries promote word bare (lines (front ++
      (opening ++ name ++ [')'] ++ (beside ++ '\n' :: under) ++ ('\x7b' :: inner ++ ['\x7d']) ++ rest))) keys) :
    ∃ kept, kept.Sublist keys ∧ (¬ mark <:+: under ++ '\x7b' :: inner → kept = keys) ∧
      Carries promote word bare (lines (front ++ (colored name inner ++ rest))) kept := by
  obtain ⟨above, last, ends⟩ := exists_last_line front
  obtain ⟨next, below, begins⟩ := List.exists_cons_of_ne_nil (lines_ne_nil rest)
  obtain ⟨between, indent, middle⟩ := exists_last_line under
  have wholeBraces : '\n' ∉ '\x7b' :: inner ++ ['\x7d'] := by simp [wholeInner]
  -- the line of the name, the lines between, and the line of the braces
  have shape : lines (front ++ (opening ++ name ++ [')'] ++ (beside ++ '\n' :: under) ++
      ('\x7b' :: inner ++ ['\x7d']) ++ rest)) =
        above ++ [last ++ (opening ++ name ++ [')'] ++ beside)] ++
          (between ++ (indent ++ ('\x7b' :: inner ++ ['\x7d'] ++ next)) :: below) := by
    rw [← lines_join ends (lines_of_no_newline wholeAhead), ← lines_join middle (lines_append wholeBraces begins),
      ← lines_append_newline]
    simp
  obtain ⟨blankLines, split⟩ := last_line_suffix middle
  have lastBelow : indent ++ '\x7b' :: inner <:+: under ++ '\x7b' :: inner :=
    ⟨blankLines, [], by rw [← split]; simp⟩
  rw [shape] at carries
  obtain ⟨_, _, rfl, upperKeys, lowerKeys⟩ := carries.of_append
  obtain ⟨early, _, rfl, aboveKeys, nameKeys⟩ := upperKeys.of_append
  obtain ⟨nameLacks, nothing⟩ := nameKeys.quiet_of_strange (show inToken '&' = false by decide) (by simp [ampersand])
  obtain ⟨lost, late, rfl, betweenKeys, bracesKeys⟩ := lowerKeys.of_append
  cases nothing
  have lacksName : Lacks promote word name :=
    nameLacks.of_inside traced ⟨last ++ opening, [')'] ++ beside, by simp⟩
  obtain ⟨lacksInner, lacksNext, kept, sublist, same, belowKeys⟩ := braces_carry traced
    (allowed.imp_right fun absent inside => absent (inside.trans lastBelow)) bracesKeys
  have joined := colored_stands traced lacksName lacksInner last next nameLacks.left lacksNext
  rw [List.append_assoc] at joined
  rw [lines_join ends (lines_append wholeWritten begins)]
  refine ⟨early ++ kept, ?_, fun spared => ?_, aboveKeys.append (.quiet joined belowKeys)⟩
  · rw [List.append_nil]
    exact (List.Sublist.refl early).append (sublist.trans (List.sublist_append_right lost late))
  · have empty : lost = [] := betweenKeys.eq_nil_of_absent fun line member inside => by
      have part : line <:+: under := infix_of_mem_lines (by simp [middle, member])
      exact spared (inside.trans (part.trans (List.prefix_append under _).isInfix))
    rw [same fun inside => spared (inside.trans lastBelow), empty, List.append_nil, List.nil_append]

end Span

/-- One coloured span takes away the placeholder whose brace it takes for its own, if there is
one. -/
theorem color_step_carries {front text written rest : Text} (traced : Traced word)
    (found : colorStep? text = some (written, rest))
    (carries : Carries promote word bare (lines (front ++ text)) keys) :
    ∃ stretch, text = stretch ++ rest ∧ (word = mark ∨ ¬ mark <:+: stretch →
      ∃ kept, kept.Sublist keys ∧ (¬ mark <:+: stretch → kept = keys) ∧
        Carries promote word bare (lines (front ++ (written ++ rest))) kept) := by
  obtain ⟨opening, name, blanks, inner, rfl, rfl, cased, wholeName, wholeInner⟩ := color_step_shape found
  refine ⟨_, rfl, fun allowed => ?_⟩
  have ampersand : '&' ∈ opening := List.mem_of_mem_head? (color_opening_head cased)
  have wholeOpening : '\n' ∉ opening := not_mem_color_opening cased (by decide)
  have wholeWritten := colored_whole wholeName wholeInner
  have wholeAhead : '\n' ∉ opening ++ name ++ [')'] := by simp [wholeOpening, wholeName]
  by_cases broken : '\n' ∈ blanks
  · obtain ⟨beside, under, rfl, wholeBeside⟩ := List.eq_append_cons_of_mem broken
    have part : under ++ '\x7b' :: inner <:+: opening ++ name ++ [')'] ++ (beside ++ '\n' :: under) ++
        ('\x7b' :: inner ++ ['\x7d']) :=
      ⟨opening ++ name ++ [')'] ++ beside ++ ['\n'], ['\x7d'], by simp⟩
    have wholeBesides : '\n' ∉ opening ++ name ++ [')'] ++ beside := by
      rw [List.mem_append, not_or]
      exact ⟨wholeAhead, wholeBeside⟩
    obtain ⟨kept, sublist, spared, result⟩ := colored_below_carries traced ampersand wholeWritten wholeInner
      wholeBesides (allowed.imp_right fun absent inside => absent (inside.trans part)) carries
    exact ⟨kept, sublist, fun absent => spared fun inside => absent (inside.trans part), result⟩
  · refine ⟨keys, List.Sublist.refl _, fun _ => rfl,
      colored_beside_carries traced ampersand wholeWritten ?_ carries⟩
    rw [List.mem_append, List.mem_append, not_or, not_or]
    exact ⟨⟨wholeAhead, broken⟩, by simp [wholeInner]⟩

theorem color_rule_carries (traced : Traced word) (front text : Text)
    (carries : Carries promote word bare (lines (front ++ text)) keys)
    (allowed : word = mark ∨ ∀ stretch ∈ colorRule.stretches text, ¬ mark <:+: stretch) :
    ∃ kept, kept.Sublist keys ∧
      ((∀ stretch ∈ colorRule.stretches text, ¬ mark <:+: stretch) → kept = keys) ∧
        Carries promote word bare (lines (front ++ colorRule.apply text)) kept := by
  fun_induction colorRule.apply text generalizing front keys with
  | case1 => exact ⟨keys, List.Sublist.refl _, fun _ => rfl, carries⟩
  | case2 c text written rest found ih =>
      obtain ⟨stretch, shape, step⟩ := color_step_carries traced found carries
      rw [shape] at found
      rw [shape, Substitution.stretches_of_some found] at allowed ⊢
      simp only [List.forall_mem_cons] at allowed ⊢
      obtain ⟨some, somePart, someSame, here⟩ := step (allowed.imp_right And.left)
      rw [← List.append_assoc] at here
      obtain ⟨kept, part, same, later⟩ := ih (front ++ written) here (allowed.imp_right And.right)
      refine ⟨kept, part.trans somePart, fun spared => ?_, ?_⟩
      · rw [same spared.2, someSame spared.1]
      · rwa [← List.append_assoc]
  | case3 c text nothing ih =>
      rw [Substitution.stretches_of_none nothing] at allowed ⊢
      have moved : Carries promote word bare (lines ((front ++ [c]) ++ text)) keys := by
        simpa using carries
      obtain ⟨kept, part, same, later⟩ := ih (front ++ [c]) moved allowed
      refine ⟨kept, part, same, ?_⟩
      simpa using later

theorem apply_all_carries (traced : Traced word) {inLine : List Substitution}
    (stay : ∀ rule ∈ inLine, ∃ c, rule.InLine c) {text : Text}
    (carries : Carries promote word bare (lines text) keys) :
    Carries promote word bare (lines (Substitution.applyAll inLine text)) keys := by
  refine @Substitution.apply_all_keeps inLine (fun shown => Carries promote word bare (lines shown) keys) text
    (fun rule member shown before => ?_) carries
  obtain ⟨c, here⟩ := stay rule member
  exact here.carries traced (by simp [bare]) before

/-- The inline notation of a text with placeholders on lines of their own keeps them, but for those
whose braces the colours take. -/
theorem convert_carries (traced : Traced word) {text : Text}
    (carries : Carries promote word bare (lines text) keys)
    (allowed : word = mark ∨ SparesPlaceholders text) :
    ∃ kept, kept.Sublist keys ∧ (SparesPlaceholders text → kept = keys) ∧
      Carries promote word bare (lines (convert text)) kept := by
  have first := apply_all_carries traced
    (fun rule member => rules_in_line rule (List.mem_append_left afterColors member)) carries
  obtain ⟨kept, part, same, second⟩ := color_rule_carries traced [] _ first allowed
  have third := apply_all_carries traced
    (fun rule member => rules_in_line rule (List.mem_append_right beforeColors member)) second
  refine ⟨kept, part, same, ?_⟩
  rw [convert_stages]
  exact third

end Carries

theorem color_rule_starts : colorRule.StartsWith '&' := by
  intro text found
  obtain ⟨⟨written, rest⟩, found⟩ := Option.ne_none_iff_exists'.mp found
  obtain ⟨opening, name, blanks, inner, rfl, _, cased, _⟩ := color_step_shape found
  obtain ⟨opening, rfl⟩ := List.head?_eq_some_iff.mp (color_opening_head cased)
  exact ⟨_, rfl⟩

theorem color_rule_keeps : colorRule.Keeps := by
  intro promote word traced text written rest found lacks
  obtain ⟨opening, name, blanks, inner, rfl, rfl, _⟩ := color_step_shape found
  have lacksName : Lacks promote word name :=
    lacks.of_inside traced ⟨opening, [')'] ++ blanks ++ ('\x7b' :: inner ++ ['\x7d']) ++ rest,
      by simp⟩
  have lacksInner : Lacks promote word inner :=
    lacks.of_inside traced ⟨opening ++ name ++ [')'] ++ blanks ++ ['\x7b'], ['\x7d'] ++ rest,
      by simp⟩
  exact ⟨colored_stands traced lacksName lacksInner, lacks.right traced⟩

/-- The inline notation puts no traced word together. -/
theorem convert_lacks {promote : Bool} {word text : Text} (traced : Traced word)
    (lacks : Lacks promote word text) : Lacks promote word (convert text) := by
  have keeps : ∀ rule ∈ rules, rule.Keeps := by
    intro rule member
    have place : rule ∈ beforeColors ++ colorRule :: afterColors := member
    rw [List.mem_append, List.mem_cons] at place
    rcases place with before | rfl | after
    · obtain ⟨_, inLine⟩ := rules_in_line rule (List.mem_append_left _ before)
      exact inLine.keeps
    · exact color_rule_keeps
    · obtain ⟨_, inLine⟩ := rules_in_line rule (List.mem_append_right _ after)
      exact inLine.keeps
  exact Substitution.apply_all_keeps (fun rule member text => (keeps rule member).apply traced [] text) lacks

/-! ## The rules in turn -/

/-- The rules of the notation, without the last one, which is for spaces. -/
def rule (k : Fin 10) : Substitution := rules.get (k.castLE (by decide))

theorem rules_eq : rules = List.ofFn rule ++ [.literal "  ".toList " ".toList] := rfl

/-- What the notation of a rule begins with; colours are named in either case. -/
def opening (k : Fin 10) : Text :=
  (["<", "<", "\x27\x27", "\x27", "%%", "[[", "&color(", "#image(", "#thumbnail(", "#attach("].get k).toList

def start (k : Fin 10) : Char := (opening k).headD '\n'

theorem opening_starts : ∀ k, (opening k).head? = some (start k) := by decide

theorem rule_opens {k : Fin 10} (cased : k ≠ 6) : ∃ finish?, (rule k).Opens (opening k) finish? := by
  match k with
  | 6 => exact absurd rfl cased
  | 0 | 1 | 2 | 3 | 4 | 5 | 7 | 8 | 9 => exact ⟨_, fun _ => rfl⟩

theorem rule_starts (k : Fin 10) : (rule k).StartsWith (start k) := by
  by_cases cased : k = 6
  · exact cased ▸ color_rule_starts
  · obtain ⟨finish?, opens⟩ := rule_opens cased
    exact opens.starts_with (opening_starts k)

/-- The rule for links. -/
def linkRule : Substitution := rules.get ⟨5, by decide⟩

theorem link_rule_opens : linkRule.Opens "[[".toList fun text =>
    (upTo? (fun tail => (afterOne? (fun c => c == ':' || c == '>') tail).bind (upTo? (after? "]]".toList)))
      text).map fun (label, target, rest) => (link label target, rest) :=
  fun _ => rfl

/-- A text without the characters that the rest of the inline notation begins with changes only where it
has links. -/
theorem convert_of_links {text : Text} (plain : ∀ c ∈ "<\x27%".toList, c ∉ text)
    (written : ∀ c ∈ "&#".toList, c ∉ linkRule.apply text) (single : ¬ "  ".toList <:+: linkRule.apply text) :
    convert text = linkRule.apply text := by
  have above : ∀ one ∈ rules.take 5, one.apply text = text := by
    have first : rules.take 5 = List.ofFn fun k : Fin 5 => rule (k.castLE (by decide)) := rfl
    have known : ∀ k : Fin 5, start (k.castLE (by decide)) ∈ "<\x27%".toList := by decide
    intro one member
    obtain ⟨k, rfl⟩ := List.mem_ofFn.mp (first ▸ member)
    exact Substitution.apply_of_absent (rule_starts _) (plain _ (known k))
  have below : ∀ one ∈ rules.drop 6, one.apply (linkRule.apply text) = linkRule.apply text := by
    have last : rules.drop 6 =
        (List.ofFn fun k : Fin 4 => rule (k.natAdd 6)) ++ [.literal "  ".toList " ".toList] := rfl
    have known : ∀ k : Fin 4, start (k.natAdd 6) ∈ "&#".toList := by decide
    intro one member
    rw [last, List.mem_append, List.mem_ofFn, List.mem_singleton] at member
    rcases member with ⟨k, rfl⟩ | rfl
    · exact Substitution.apply_of_absent (rule_starts _) (written _ (known k))
    · exact Substitution.literal_apply_of_absent _ single
  have cut : rules = rules.take 5 ++ (linkRule :: rules.drop 6) := rfl
  rw [convert, cut, Substitution.applyAll, List.foldl_append, List.foldl_cons, ← Substitution.applyAll,
    ← Substitution.applyAll, Substitution.apply_all_of_fixed above, Substitution.apply_all_of_fixed below]

/-- A text without the characters that the inline notation begins with stays as it is. -/
theorem convert_of_plain {text : Text} (plain : ∀ c ∈ "<\x27%[&#".toList, c ∉ text)
    (single : ¬ "  ".toList <:+: text) : convert text = text := by
  have kept : linkRule.apply text = text :=
    Substitution.apply_of_absent (link_rule_opens.starts_with rfl) (plain '[' (by decide))
  have above : "<\x27%".toList ⊆ "<\x27%[&#".toList := by decide
  have below : "&#".toList ⊆ "<\x27%[&#".toList := by decide
  refine (convert_of_links (fun c member => plain c (above member)) (fun c member => ?_) ?_).trans kept
  · rw [kept]
    exact plain c (below member)
  · rwa [kept]

end Inline

end Wikidown
