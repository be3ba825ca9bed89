import Mathlib.Data.List.Chain
import Wikidown.Proofs.Block
import Wikidown.Proofs.Placeholder.Colors

/-!
# Texts of separate spans

A text whose marked spans stand apart is converted span by span. Each rule of the inline notation rewrites the
spans of its own kind and passes over the others, those that are still as they were written and those that a
rule before it has rewritten.
-/

namespace Wikidown

set_option autoImplicit false

/-- The characters that inline notation is made of, and the line feed that ends it. -/
def inlineMarks : List Char := "\n<>\x27%[]():&#\x7b\x7d".toList

/-- A text without some characters. -/
structure Free (barred : List Char) where
  text : Text
  free : ∀ c ∈ barred, c ∉ text := by exact List.all_iff_forall_prop.mp (by decide)

structure Words (barred : List Char) extends Free barred where
  nonempty : text ≠ [] := by decide

/-- Emphasis of three strengths. -/
inductive Mark where
  | strong
  | emphasis
  | strike
deriving DecidableEq

namespace Mark

def sign : Mark → Text
  | strong => "\x27\x27".toList
  | emphasis => "\x27".toList
  | strike => "%%".toList

/-- The mark in Markdown. -/
def shown : Mark → Text
  | strong => "**".toList
  | emphasis => "*".toList
  | strike => "~~".toList

end Mark

/-- An image, in one of its two sizes. -/
inductive Embed where
  | image
  | thumbnail
deriving DecidableEq

def Embed.opening : Embed → Text
  | image => "#image(".toList
  | thumbnail => "#thumbnail(".toList

/-- The characters that no target of a link has. -/
def targetMarks : List Char := "\n<>\x27%[]&#".toList

/-- A piece of a text: plain words, or a span of one kind of inline notation. -/
inductive Span where
  | plain (words : Free inlineMarks)
  | marked (mark : Mark) (words : Words inlineMarks)
  | link (label : Words inlineMarks) (divider : Char) (divides : divider = ':' ∨ divider = '>')
      (target : Words targetMarks)
  | colored (opening : Text) (named : opening.map Char.toLower = "&color(".toList)
      (color : Words (inlineMarks.erase '#')) (blanks : Text) (blank : ∀ c ∈ blanks, isBlank c = true)
      (words : Words inlineMarks)
  | embedded (embed : Embed) (name : Words inlineMarks)
  | attached (label target : Words inlineMarks)

namespace Span

def source : Span → Text
  | plain words => words.text
  | marked mark words => mark.sign ++ words.text ++ mark.sign
  | link label divider _ target => "[[".toList ++ label.text ++ [divider] ++ target.text ++ "]]".toList
  | colored opening _ color blanks _ words =>
      opening ++ color.text ++ ")".toList ++ blanks ++ "\x7b".toList ++ words.text ++ "\x7d".toList
  | embedded embed name => embed.opening ++ name.text ++ ")".toList
  | attached label target => "#attach(".toList ++ label.text ++ [':'] ++ target.text ++ ")".toList

/-- The span in Markdown. -/
def written : Span → Text
  | plain words => words.text
  | marked mark words => " ".toList ++ mark.shown ++ trim words.text ++ mark.shown ++ " ".toList
  | link label _ _ target => "[".toList ++ trim label.text ++ "](".toList ++ target.text ++ ")".toList
  | colored _ _ color _ _ words =>
      "<span style=\x22color: ".toList ++ color.text ++ ";\x22>".toList ++ words.text ++ "</span>".toList
  | embedded _ name => "![".toList ++ name.text ++ "]".toList
  | attached label target => "[".toList ++ label.text ++ "][".toList ++ target.text ++ "]".toList

def isMarked : Span → Bool
  | plain _ => false
  | _ => true

/-- One of two neighbours is plain. -/
def Apart (first second : Span) : Prop := (first.isMarked && second.isMarked) = false

instance : DecidableRel Apart := fun _ _ => inferInstanceAs (Decidable (_ = false))

/-- Where the plain pieces without text are left out, no two marked spans stand side by side. -/
def Separated (spans : List Span) : Prop := (spans.filter (·.source ≠ [])).IsChain Apart

instance (spans : List Span) : Decidable (Separated spans) := inferInstanceAs (Decidable (List.IsChain _ _))

end Span

/-- A text with one space for each pair of them, from left to right. -/
def singleSpaced : Text → Text
  | [] => []
  | ' ' :: ' ' :: text => ' ' :: singleSpaced text
  | c :: text => c :: singleSpaced text

theorem single_spaces_apply (text : Text) :
    (Substitution.literal "  ".toList " ".toList).apply text = singleSpaced text := by
  fun_induction singleSpaced text with
  | case1 => exact Substitution.apply_nil _
  | case2 text ih =>
      rw [← ih]
      exact Substitution.literal_apply_found "  ".toList " ".toList text _
  | case3 c text other ih =>
      have single : ¬ "  ".toList <+: c :: text := by
        rintro ⟨more, shape⟩
        obtain ⟨same, behind⟩ := List.cons.inj shape
        exact other _ same.symm behind.symm
      rw [← ih, Substitution.literal_apply_cons (by decide) single]

/-! ## The rules in turn -/

namespace Inline

theorem start_reserved : ∀ k, start k ∈ inlineMarks ∧ start k ∈ targetMarks := by decide

/-- A rule passes over what is not its opening. -/
theorem rule_passes {k : Fin 10} (cased : k ≠ 6) {c : Char} {text : Text}
    (other : after? (opening k) (c :: text) = none) :
    (rule k).apply (c :: text) = c :: (rule k).apply text := by
  obtain ⟨finish?, opens⟩ := rule_opens cased
  exact Substitution.apply_of_none (by rw [opens, other, Option.bind_none])

theorem after_any_case_found {front opening : Text} (cased : front.map Char.toLower = opening) (back : Text) :
    afterAnyCase? opening (front ++ back) = some back := by
  subst cased
  induction front with
  | nil => rfl
  | cons c front ih => rw [List.cons_append, List.map_cons, afterAnyCase?, if_pos rfl, ih]

theorem color_body_found {blanks inner : Text} (blank : ∀ c ∈ blanks, isBlank c = true) (whole : '\n' ∉ inner)
    (closed : '\x7d' ∉ inner) (rest : Text) :
    colorBody? (blanks ++ ("\x7b".toList ++ (inner ++ ("\x7d".toList ++ rest)))) = some (inner, rest) := by
  have brace (tail : Text) : trimStart ("\x7b".toList ++ tail) = "\x7b".toList ++ tail :=
    trim_start_cons_visible (by decide) tail
  rw [colorBody?, trim_start_append_of_blank blank, brace, after_append, Option.bind_some]
  exact up_to_closing rfl closed whole rest

theorem color_found {opening color blanks inner : Text} (cased : opening.map Char.toLower = "&color(".toList)
    (wholeColor : '\n' ∉ color) (named : ')' ∉ color) (blank : ∀ c ∈ blanks, isBlank c = true)
    (whole : '\n' ∉ inner) (closed : '\x7d' ∉ inner) (rest : Text) :
    colorRule.step?
        (opening ++ color ++ ")".toList ++ blanks ++ "\x7b".toList ++ inner ++ "\x7d".toList ++ rest) =
      some (colored color inner, rest) := by
  have body := color_body_found blank whole closed rest
  have span : colorSpan?
      (color ++ (")".toList ++ (blanks ++ ("\x7b".toList ++ (inner ++ ("\x7d".toList ++ rest)))))) =
        some (color, inner, rest) := by
    have here := (congrArg (Option.bind · colorBody?) (after_append ")".toList _)).trans body
    refine up_to_first wholeColor here fun front back shape nonempty => ?_
    obtain ⟨c, back, rfl⟩ := List.exists_cons_of_ne_nil nonempty
    have other : c ≠ ')' := fun same => named (by simp [shape, same])
    rw [List.cons_append, after_cons_eq_none (by decide) (by simpa using other), Option.bind_none]
  show colorStep? _ = _
  simp only [List.append_assoc]
  rw [colorStep?, after_any_case_found cased, Option.bind_some, span]
  rfl

end Inline

/-! ## A span under each rule -/

/-- The number of the rule that rewrites a mark. -/
def Mark.turn : Mark → Nat
  | strong => 2
  | emphasis => 3
  | strike => 4

def Embed.turn : Embed → Nat
  | image => 7
  | thumbnail => 8

namespace Span

open Inline

/-- The number of the rule that rewrites a span; none rewrites plain words. -/
def turn : Span → Nat
  | plain _ => 10
  | marked mark _ => mark.turn
  | link _ _ _ _ => 5
  | colored _ _ _ _ _ _ => 6
  | embedded embed _ => embed.turn
  | attached _ _ => 9

theorem marked_found (mark : Mark) (words : Words inlineMarks) (tail : Text) (visible : mark.sign ≠ []) :
    (Substitution.enclosed mark.sign mark.sign (Inline.marked mark.shown) visible).step?
      ((marked mark words).source ++ tail) = some ((marked mark words).written, tail) := by
  obtain ⟨c, begins, reserved⟩ : ∃ c, mark.sign.head? = some c ∧ c ∈ inlineMarks := by
    cases mark <;> exact ⟨_, rfl, by decide⟩
  have ends := up_to_closing begins (words.free c reserved) (words.free '\n' (by decide)) tail
  have shape : Inline.marked mark.shown words.text = (marked mark words).written := rfl
  exact shape ▸ Substitution.enclosed_found visible ends

theorem embedded_found (embed : Embed) (name : Words inlineMarks) (tail : Text)
    (visible : embed.opening ≠ []) :
    (Substitution.enclosed embed.opening ")".toList image visible).step?
      ((embedded embed name).source ++ tail) = some ((embedded embed name).written, tail) :=
  Substitution.enclosed_found visible
    (up_to_closing rfl (name.free ')' (by decide)) (name.free '\n' (by decide)) tail)

theorem source_taken (span : Span) {k : Fin 10} (due : span.turn = k.val) (tail : Text) :
    (rule k).apply (span.source ++ tail) = span.written ++ (rule k).apply tail := by
  have own {j : Fin 10} (same : j.val = span.turn) : k = j := Fin.ext (due.symm.trans same.symm)
  apply Substitution.apply_of_some
  cases span with
  | plain words => exact absurd due.symm k.isLt.ne
  | marked mark words =>
      have found := marked_found mark words tail
      cases mark with
      | strong => exact own (j := 2) rfl ▸ found (by decide)
      | emphasis => exact own (j := 3) rfl ▸ found (by decide)
      | strike => exact own (j := 4) rfl ▸ found (by decide)
  | link label divider divides target =>
      have undivided : ∀ c ∈ label.text, (c == ':' || c == '>') = false := fun c member => by
        simpa using ⟨ne_of_mem_of_not_mem member (label.free ':' (by decide)),
          ne_of_mem_of_not_mem member (label.free '>' (by decide))⟩
      have found : linkRule.step? ((link label divider divides target).source ++ tail) =
          some ((link label divider divides target).written, tail) :=
        Substitution.pair_found (by decide) (by simpa using divides) undivided (label.free '\n' (by decide))
          (up_to_closing rfl (target.free ']' (by decide)) (target.free '\n' (by decide)) tail)
      exact own (j := 5) rfl ▸ found
  | colored opening cased color blanks blank words =>
      have found := color_found cased (color.free '\n' (by decide)) (color.free ')' (by decide)) blank
        (words.free '\n' (by decide)) (words.free '\x7d' (by decide)) tail
      exact own (j := 6) rfl ▸ found
  | embedded embed name =>
      have found := embedded_found embed name tail
      cases embed with
      | image => exact own (j := 7) rfl ▸ found (by decide)
      | thumbnail => exact own (j := 8) rfl ▸ found (by decide)
  | attached label target =>
      have undivided : ∀ c ∈ label.text, (c == ':') = false := fun c member => by
        simpa using ne_of_mem_of_not_mem member (label.free ':' (by decide))
      have found : (rule 9).step? ((attached label target).source ++ tail) =
          some ((attached label target).written, tail) :=
        Substitution.pair_found (by decide) rfl undivided (label.free '\n' (by decide))
          (up_to_closing rfl (target.free ')' (by decide)) (target.free '\n' (by decide)) tail)
      exact own (j := 9) rfl ▸ found

/-- A single quote is passed over by the rule for two of them. -/
theorem quote_passes {tail : Text} (clear : tail.head? ≠ some '\x27') :
    (rule 2).apply ('\x27' :: tail) = '\x27' :: (rule 2).apply tail := by
  refine rule_passes (by decide) ?_
  cases tail with
  | nil => rfl
  | cons c tail =>
      have other : '\x27' ≠ c := fun same => clear (by rw [← same]; rfl)
      exact if_neg other

theorem emphasis_passes (words : Words inlineMarks) {tail : Text} (clear : tail.head? ≠ some '\x27') :
    (rule 2).apply ((marked .emphasis words).source ++ tail) =
      (marked .emphasis words).source ++ (rule 2).apply tail := by
  have plain : '\x27' ∉ words.text := words.free _ (by decide)
  have inner : (words.text ++ '\x27' :: tail).head? ≠ some '\x27' := by
    obtain ⟨c, text, shape⟩ := List.exists_cons_of_ne_nil words.nonempty
    rw [shape] at plain ⊢
    exact fun same => plain (by simp [Option.some.inj same])
  have shape (back : Text) :
      (marked .emphasis words).source ++ back = '\x27' :: (words.text ++ '\x27' :: back) := by
    show '\x27' :: (words.text ++ ['\x27'] ++ back) = _
    simp
  rw [shape, shape, quote_passes inner, Substitution.apply_append_of_absent (rule_starts 2) plain,
    quote_passes clear]

/-- An embedded file or an attachment is passed over by the rule for another one. -/
theorem hash_passes {k : Fin 10} (late : 6 < k.val) {front : Text} (absent : '#' ∉ front)
    (other : ∀ back, after? (opening k) ('#' :: (front ++ back)) = none) (tail : Text) :
    (rule k).apply ('#' :: (front ++ tail)) = '#' :: (front ++ (rule k).apply tail) := by
  have hash : ∀ k : Fin 10, 6 < k.val → start k = '#' := by decide
  have starts := hash k late ▸ rule_starts k
  have cased : k ≠ 6 := fun same => absurd (same ▸ late) (by decide)
  rw [rule_passes cased (other tail), Substitution.apply_append_of_absent starts absent]

/-- A rule passes over what lacks the character that it begins with. -/
theorem passes_of_lacks {k : Fin 10} {text : Text} (lacks : start k ∉ text) (tail : Text) :
    (rule k).apply (text ++ tail) = text ++ (rule k).apply tail :=
  Substitution.apply_append_of_absent (rule_starts k) lacks tail

theorem marked_passes {mark : Mark} (words : Words inlineMarks) {k : Fin 10} (early : k.val < mark.turn)
    {tail : Text} (clear : tail.head? ≠ some '\x27') :
    (rule k).apply ((marked mark words).source ++ tail) = (marked mark words).source ++ (rule k).apply tail := by
  by_cases inside : start k ∈ mark.sign
  · have last : ∀ k : Fin 10, k.val < mark.turn → start k ∈ mark.sign → mark = .emphasis ∧ k = 2 := by
      cases mark <;> decide
    obtain ⟨rfl, rfl⟩ := last k early inside
    exact emphasis_passes words clear
  · have plain := words.free _ (start_reserved k).1
    exact passes_of_lacks (List.not_mem_append (List.not_mem_append inside plain) inside) tail

theorem link_lacks (label : Words inlineMarks) {divider : Char} (divides : divider = ':' ∨ divider = '>')
    (target : Words targetMarks) {k : Fin 10} (early : k.val < 5) :
    start k ∉ (link label divider divides target).source := by
  have marks : ∀ k : Fin 10, k.val < 5 →
      start k ∉ "[[".toList ∧ start k ∉ [':'] ∧ start k ∉ ['>'] ∧ start k ∉ "]]".toList := by decide
  obtain ⟨opens, colon, angle, closes⟩ := marks k early
  obtain ⟨reserved, barred⟩ := start_reserved k
  have divided : start k ∉ [divider] := by rcases divides with rfl | rfl <;> assumption
  have labelled := List.not_mem_append (List.not_mem_append opens (label.free _ reserved)) divided
  exact List.not_mem_append (List.not_mem_append labelled (target.free _ barred)) closes

theorem colored_lacks {opening : Text} (cased : opening.map Char.toLower = "&color(".toList)
    (color : Words (inlineMarks.erase '#')) {blanks : Text} (blank : ∀ c ∈ blanks, isBlank c = true)
    (words : Words inlineMarks) {k : Fin 10} (early : k.val < 6) :
    start k ∉ (colored opening cased color blanks blank words).source := by
  have marks : ∀ k : Fin 10, k.val < 6 → (start k).toLower ∉ "&color(".toList ∧
      start k ∈ inlineMarks.erase '#' ∧ start k ∉ ")".toList ∧ isBlank (start k) = false ∧
        start k ∉ "\x7b".toList ∧ start k ∉ "\x7d".toList := by decide
  obtain ⟨opens, named, ends, shown, braces, closes⟩ := marks k early
  have unopened : start k ∉ opening := fun member => opens (cased ▸ List.mem_map_of_mem member)
  have visible : start k ∉ blanks := fun member => by simp [blank _ member] at shown
  have front := List.not_mem_append (List.not_mem_append unopened (color.free _ named)) ends
  have body := List.not_mem_append (List.not_mem_append front visible) braces
  exact List.not_mem_append (List.not_mem_append body (words.free _ (start_reserved k).1)) closes

theorem embedded_passes {embed : Embed} (name : Words inlineMarks) {k : Fin 10} (early : k.val < embed.turn)
    (tail : Text) : (rule k).apply ((embedded embed name).source ++ tail) =
      (embedded embed name).source ++ (rule k).apply tail := by
  have plain := name.free _ (start_reserved k).1
  by_cases inside : start k ∈ embed.opening
  · have last : ∀ k : Fin 10, k.val < embed.turn → start k ∈ embed.opening →
        embed = .thumbnail ∧ k = 7 := by cases embed <;> decide
    obtain ⟨rfl, rfl⟩ := last k early inside
    have absent : '#' ∉ "thumbnail(".toList ++ name.text ++ ")".toList :=
      List.not_mem_append (List.not_mem_append (by decide) plain) (by decide)
    exact hash_passes (by decide) absent (fun _ => rfl) tail
  · have ends : ∀ k, start k ∉ ")".toList := by decide
    exact passes_of_lacks (List.not_mem_append (List.not_mem_append inside plain) (ends k)) tail

theorem attached_passes (label target : Words inlineMarks) {k : Fin 10} (early : k.val < 9) (tail : Text) :
    (rule k).apply ((attached label target).source ++ tail) =
      (attached label target).source ++ (rule k).apply tail := by
  have plain {c : Char} (known : c ∈ inlineMarks) {front : Text} (opens : c ∉ front) (divided : c ∉ [':'])
      (ends : c ∉ ")".toList) : c ∉ front ++ label.text ++ [':'] ++ target.text ++ ")".toList := by
    have labelled := List.not_mem_append (List.not_mem_append opens (label.free c known)) divided
    exact List.not_mem_append (List.not_mem_append labelled (target.free c known)) ends
  by_cases inside : start k ∈ "#attach(".toList
  · have last : ∀ k : Fin 10, k.val < 9 → start k ∈ "#attach(".toList → k = 7 ∨ k = 8 := by decide
    have absent : '#' ∉ "attach(".toList ++ label.text ++ [':'] ++ target.text ++ ")".toList :=
      plain (by decide) (by decide) (by decide) (by decide)
    rcases last k early inside with rfl | rfl
    · exact hash_passes (by decide) absent (fun _ => rfl) tail
    · exact hash_passes (by decide) absent (fun _ => rfl) tail
  · have marks : ∀ k, start k ∉ [':'] ∧ start k ∉ ")".toList := by decide
    exact passes_of_lacks (plain (start_reserved k).1 inside (marks k).1 (marks k).2) tail

theorem source_passes (span : Span) {k : Fin 10} (early : k.val < span.turn) {tail : Text}
    (clear : span.isMarked = true → tail.head? ≠ some '\x27') :
    (rule k).apply (span.source ++ tail) = span.source ++ (rule k).apply tail := by
  cases span with
  | plain words => exact passes_of_lacks (words.free _ (start_reserved k).1) tail
  | marked mark words => exact marked_passes words early (clear rfl)
  | link label divider divides target => exact passes_of_lacks (link_lacks label divides target early) tail
  | colored opening cased color blanks blank words =>
      exact passes_of_lacks (colored_lacks cased color blank words early) tail
  | embedded embed name => exact embedded_passes name early tail
  | attached label target => exact attached_passes label target early tail

/-- The name of a colour may have a hash, but no opening goes on behind it: that would take a parenthesis. -/
theorem colored_passes {opening : Text} (cased : opening.map Char.toLower = "&color(".toList)
    (color : Words (inlineMarks.erase '#')) {blanks : Text} (blank : ∀ c ∈ blanks, isBlank c = true)
    (words : Words inlineMarks) {k : Fin 10} (late : 6 < k.val) (tail : Text) :
    (rule k).apply ((colored opening cased color blanks blank words).written ++ tail) =
      (colored opening cased color blanks blank words).written ++ (rule k).apply tail := by
  have marks : ∀ k : Fin 10, 6 < k.val → k ≠ 6 ∧ start k ∉ "<span style=\x22color: ".toList ∧
      '(' ∈ Inline.opening k ∧ ';' ∉ Inline.opening k ∧ start k ∉ ";\x22>".toList ∧
        start k ∉ "</span>".toList := by decide
  obtain ⟨uncased, style, parenthesis, apart, quote, ends⟩ := marks k late
  obtain ⟨finish?, opens⟩ := rule_opens uncased
  have behind : start k ∉ ";\x22>".toList ++ words.text ++ "</span>".toList :=
    List.not_mem_append (List.not_mem_append quote (words.free _ (start_reserved k).1)) ends
  have named (back : Text) : (rule k).apply (color.text ++ (";\x22>".toList ++ back)) =
      color.text ++ (rule k).apply (";\x22>".toList ++ back) :=
    opens.apply_append parenthesis (color.free '(' (by decide)) apart _
  have passed := passes_of_lacks behind tail
  have shape (back : Text) : (colored opening cased color blanks blank words).written ++ back =
      "<span style=\x22color: ".toList ++
        (color.text ++ (";\x22>".toList ++ (words.text ++ ("</span>".toList ++ back)))) := by
    show "<span style=\x22color: ".toList ++ color.text ++ ";\x22>".toList ++ words.text ++
      "</span>".toList ++ back = _
    simp only [List.append_assoc]
  simp only [List.append_assoc] at passed
  rw [shape, shape, passes_of_lacks style, named, passed]

theorem written_passes (span : Span) {k : Fin 10} (late : span.turn < k.val) (tail : Text) :
    (rule k).apply (span.written ++ tail) = span.written ++ (rule k).apply tail := by
  obtain ⟨reserved, barred⟩ := start_reserved k
  have trimmed (words : Words inlineMarks) : start k ∉ trim words.text :=
    fun member => words.free _ reserved ((trim_inside _).subset member)
  cases span with
  | plain words => exact absurd (late.trans k.isLt) (Nat.lt_irrefl 10)
  | marked mark words =>
      have marks : ∀ k, start k ∉ " ".toList ∧ start k ∉ mark.shown := by cases mark <;> decide
      obtain ⟨space, shown⟩ := marks k
      have front := List.not_mem_append (List.not_mem_append space shown) (trimmed words)
      exact passes_of_lacks (List.not_mem_append (List.not_mem_append front shown) space) tail
  | link label divider divides target =>
      have marks : ∀ k : Fin 10, 5 < k.val →
          start k ∉ "[".toList ∧ start k ∉ "](".toList ∧ start k ∉ ")".toList := by decide
      obtain ⟨opens, middle, closes⟩ := marks k late
      have front := List.not_mem_append (List.not_mem_append opens (trimmed label)) middle
      exact passes_of_lacks (List.not_mem_append (List.not_mem_append front (target.free _ barred)) closes) tail
  | colored opening cased color blanks blank words => exact colored_passes cased color blank words late tail
  | embedded embed name =>
      have marks : ∀ k : Fin 10, embed.turn < k.val → start k ∉ "![".toList ∧ start k ∉ "]".toList := by
        cases embed <;> decide
      obtain ⟨opens, closes⟩ := marks k late
      exact passes_of_lacks (List.not_mem_append (List.not_mem_append opens (name.free _ reserved)) closes) tail
  | attached label target => exact absurd k.isLt (Nat.not_lt.mpr late)

theorem source_ne_nil {span : Span} (marked : span.isMarked = true) : span.source ≠ [] := by
  cases span with
  | plain words => exact absurd marked Bool.false_ne_true
  | marked mark words => cases mark <;> exact List.cons_ne_nil _ _
  | embedded embed name => cases embed <;> exact List.cons_ne_nil _ _
  | link | attached => exact List.cons_ne_nil _ _
  | colored opening cased color blanks blank words =>
      cases opening with
      | nil => exact absurd cased (by decide)
      | cons c opening => exact List.cons_ne_nil _ _

theorem plain_eq {span : Span} (unmarked : span.isMarked = false) :
    span.written = span.source ∧ ∀ c ∈ inlineMarks, c ∉ span.source := by
  cases span with
  | plain words => exact ⟨rfl, words.free⟩
  | marked | link | colored | embedded | attached => exact absurd unmarked.symm Bool.false_ne_true

/-- What stands for a span when the first `k` rules have been applied. -/
def stage (k : Nat) (span : Span) : Text := if k ≤ span.turn then span.source else span.written

theorem stage_apply (span : Span) (k : Fin 10) {tail : Text}
    (clear : span.isMarked = true → tail.head? ≠ some '\x27') :
    (rule k).apply (span.stage k ++ tail) = span.stage (k + 1) ++ (rule k).apply tail := by
  rcases Nat.lt_trichotomy k span.turn with early | due | late
  · rw [stage, stage, if_pos early.le, if_pos (Nat.succ_le_of_lt early)]
    exact source_passes span early clear
  · rw [stage, stage, if_pos due.le, if_neg (by omega)]
    exact source_taken span due.symm tail
  · rw [stage, stage, if_neg (by omega), if_neg (by omega)]
    exact written_passes span late tail

theorem stage_first (span : Span) : span.stage 0 = span.source := if_pos (Nat.zero_le _)

theorem stage_last (span : Span) : span.stage 10 = span.written := by
  cases span with
  | plain words => rfl
  | marked mark words => cases mark <;> rfl
  | embedded embed name => cases embed <;> rfl
  | link | colored | attached => rfl

theorem written_of_empty {span : Span} (empty : span.source = []) : span.written = [] := by
  cases marked : span.isMarked with
  | false => rw [(plain_eq marked).1, empty]
  | true => exact absurd empty (source_ne_nil marked)

/-- Plain words do not begin with a quote, and no rule rewrites them. -/
theorem plain_clear {span : Span} (unmarked : span.isMarked = false) (nonempty : span.source ≠ []) (k : Nat)
    (tail : Text) : (span.stage k ++ tail).head? ≠ some '\x27' := by
  obtain ⟨same, plain⟩ := plain_eq unmarked
  have shape : span.stage k = span.source := by rw [stage, same, ite_self]
  obtain ⟨c, more, begins⟩ := List.exists_cons_of_ne_nil nonempty
  have free := plain '\x27' (by decide)
  rw [begins, List.mem_cons, not_or] at free
  rw [shape, begins]
  exact fun quote => free.1 (Option.some.inj quote).symm

/-- Each rule takes all spans of a text to their next stage. -/
theorem stages_apply {spans : List Span} (separated : spans.IsChain Apart)
    (nonempty : ∀ span ∈ spans, span.source ≠ []) (k : Fin 10) :
    (rule k).apply (spans.flatMap (stage k)) = spans.flatMap (stage (k + 1)) := by
  induction spans with
  | nil => exact Substitution.apply_nil _
  | cons span spans ih =>
      have clear : span.isMarked = true → (spans.flatMap (stage k)).head? ≠ some '\x27' := by
        intro marked
        cases spans with
        | nil => simp
        | cons next spans =>
            have apart := (List.isChain_cons_cons.mp separated).1
            have unmarked : next.isMarked = false := by simpa [Apart, marked] using apart
            exact plain_clear unmarked (nonempty next (by simp)) k _
      have later := ih separated.of_cons fun next member => nonempty next (List.mem_cons_of_mem _ member)
      rw [List.flatMap_cons, stage_apply span k clear, later, List.flatMap_cons]

/-- Pieces without text change nothing. -/
theorem flat_map_nonempty {text : Span → Text} (empty : ∀ span : Span, span.source = [] → text span = [])
    (spans : List Span) : (spans.filter (·.source ≠ [])).flatMap text = spans.flatMap text := by
  induction spans with
  | nil => rfl
  | cons span spans ih =>
      by_cases absent : span.source = []
      · rw [List.filter_cons_of_neg (by simp [absent]), ih, List.flatMap_cons, empty span absent,
          List.nil_append]
      · rw [List.filter_cons_of_pos (by simp [absent]), List.flatMap_cons, ih, List.flatMap_cons]

theorem rules_apply {spans : List Span} (separated : spans.IsChain Apart)
    (nonempty : ∀ span ∈ spans, span.source ≠ []) (count : Nat) (bound : count ≤ 10) :
    Substitution.applyAll (rules.take count) (spans.flatMap source) = spans.flatMap (stage count) := by
  induction count with
  | zero => exact congrArg spans.flatMap (funext fun span => (stage_first span).symm)
  | succ count ih =>
      have taken : rules.take (count + 1) = rules.take count ++ [rule ⟨count, bound⟩] :=
        List.take_succ_eq_append_getElem (Nat.lt_succ_of_lt bound)
      have passed := ih (Nat.le_of_succ_le bound)
      rw [Substitution.applyAll] at passed
      rw [taken, Substitution.applyAll, List.foldl_append, passed]
      exact stages_apply separated nonempty ⟨count, bound⟩

end Span

/-- A text of plain words and marked spans that stand apart is converted span by span: what is written for the
whole is what is written for each of them, with single spaces for pairs. -/
theorem convert_spans (spans : List Span) (separated : Span.Separated spans) :
    Inline.convert (spans.flatMap Span.source) = singleSpaced (spans.flatMap Span.written) := by
  have nonempty : ∀ span ∈ spans.filter (·.source ≠ []), span.source ≠ [] := fun span member => by
    simpa using (List.mem_filter.mp member).2
  have stages := Span.rules_apply separated nonempty 10 (Nat.le_refl 10)
  rw [Span.flat_map_nonempty (fun _ empty => empty)] at stages
  have last : (spans.filter (·.source ≠ [])).flatMap (Span.stage 10) = spans.flatMap Span.written := by
    rw [funext Span.stage_last, Span.flat_map_nonempty fun _ => Span.written_of_empty]
  rw [← single_spaces_apply, ← last, ← stages]
  rfl

/-- A span of each kind, and a piece without text. -/
def mixedSpans : List Span :=
  [ .marked .strong { text := "bold ".toList },
    .plain { text := [] },
    .plain { text := " ".toList },
    .marked .emphasis { text := "i".toList },
    .plain { text := ",".toList },
    .marked .strike { text := "s".toList },
    .plain { text := "; ".toList },
    .link { text := " Top".toList } ':' (.inl rfl) { text := "http://a.b/(c)".toList },
    .plain { text := " or ".toList },
    .colored "&COLOR(".toList (by decide) { text := "#f00".toList } "  ".toList
      (List.all_eq_true.mp (by decide)) { text := "red  hot".toList },
    .plain { text := ".".toList },
    .embedded .image { text := "a.png".toList },
    .plain { text := " ".toList },
    .embedded .thumbnail { text := "b.png".toList },
    .plain { text := "  ".toList },
    .attached { text := "notes".toList } { text := "n.txt".toList } ]

theorem convert_mixed_spans : Span.Separated mixedSpans ∧
    mixedSpans.flatMap Span.source = ("\x27\x27bold \x27\x27 \x27i\x27,%%s%%; [[ Top:http://a.b/(c)]] or " ++
      "&COLOR(#f00)  \x7bred  hot\x7d.#image(a.png) #thumbnail(b.png)  #attach(notes:n.txt)").toList ∧
    Inline.convert (mixedSpans.flatMap Span.source) = (" **bold**  *i* , ~~s~~ ; [Top](http://a.b/(c)) or " ++
      "<span style=\x22color: #f00;\x22>red hot</span>.![a.png] ![b.png] [notes][n.txt]").toList :=
  ⟨by decide +kernel, by decide +kernel,
    (convert_spans mixedSpans (by decide +kernel)).trans (by decide +kernel)⟩

end Wikidown
