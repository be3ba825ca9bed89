import Wikidown.Layout.Escape
import Wikidown.Proofs.Placeholder.Carried
import Wikidown.Proofs.Text.Blank
import Wikidown.Proofs.Text.Rewrite

/-!
# Substitutions that keep placeholders

A substitution keeps placeholders if it stays within a line, begins with a character that no
placeholder has, and writes what may stand anywhere. All rules of the inline notation are such, but
the colours.
-/

namespace Wikidown

set_option autoImplicit false

namespace Substitution

/-- What a substitution writes may stand anywhere, and the text behind it is one that was there. -/
def Keeps (rule : Substitution) : Prop :=
  ∀ (promote : Bool) (word : Text), Traced word → ∀ {text written rest : Text},
    rule.step? text = some (written, rest) → Lacks promote word text →
      Stands promote word written ∧ Lacks promote word rest

theorem apply_lacks {rule : Substitution} {promote : Bool} {word : Text} (traced : Traced word)
    (keeps : ∀ {text written rest : Text}, rule.step? text = some (written, rest) →
      Lacks promote word text → Stands promote word written ∧ Lacks promote word rest)
    (front text : Text) (lacks : Lacks promote word (front ++ text)) :
    Lacks promote word (front ++ rule.apply text) := by
  fun_induction rule.apply text generalizing front with
  | case1 => exact lacks
  | case2 c text written rest found ih =>
      obtain ⟨stands, lacksRest⟩ := keeps found (lacks.right traced)
      have joined := stands front rest lacks.left lacksRest
      simpa using ih (front ++ written) joined
  | case3 c text nothing ih =>
      have moved : Lacks promote word ((front ++ [c]) ++ text) := by simpa using lacks
      simpa using ih (front ++ [c]) moved

theorem Keeps.apply {rule : Substitution} (keeps : rule.Keeps) {promote : Bool} {word : Text}
    (traced : Traced word) (front text : Text) (lacks : Lacks promote word (front ++ text)) :
    Lacks promote word (front ++ rule.apply text) :=
  apply_lacks traced (keeps promote word traced) front text lacks

theorem literal_keeps {pattern value : Text} {visible : pattern ≠ []} (nonempty : value ≠ [])
    (apart : value.all separates = true) : (literal pattern value visible).Keeps := by
  intro promote word traced text written rest found lacks
  rw [literal_step, Option.map_eq_some_iff] at found
  obtain ⟨tail, shape, same⟩ := found
  obtain ⟨rfl, rfl⟩ := Prod.mk.inj same
  rw [after_eq_some.mp shape] at lacks
  exact ⟨.of_separates traced nonempty apart, lacks.right traced⟩

/-- What stands between an opening and the next closing of the line, and what the substitution
writes for it. -/
theorem enclosed_shape {opening closing : Text} {render : Text → Text} {visible : opening ≠ []}
    {text written rest : Text}
    (found : (enclosed opening closing render visible).step? text = some (written, rest)) :
    ∃ inner, text = opening ++ inner ++ closing ++ rest ∧ written = render inner := by
  rw [enclosed_opens opening closing render visible text, Option.bind_eq_some_iff] at found
  obtain ⟨tail, shape, read⟩ := found
  obtain ⟨⟨inner, behind⟩, upTo, same⟩ := Option.map_eq_some_iff.mp read
  obtain ⟨rfl, rfl⟩ := Prod.mk.inj same
  obtain ⟨more, rfl, closed⟩ := up_to_found upTo
  refine ⟨inner, ?_, rfl⟩
  rw [after_eq_some.mp shape, after_eq_some.mp closed]
  simp

theorem enclosed_keeps {opening closing : Text} {render : Text → Text} {visible : opening ≠ []}
    (stands : ∀ {promote : Bool} {word inner : Text}, Traced word → Lacks promote word inner →
      Stands promote word (render inner)) : (enclosed opening closing render visible).Keeps := by
  intro promote word traced text written rest found lacks
  obtain ⟨inner, rfl, rfl⟩ := enclosed_shape found
  exact ⟨stands traced (lacks.left.left.right traced), lacks.right traced⟩

theorem pair_shape {opening closing : Text} {divides : Char → Bool} {render : Text → Text → Text}
    {visible : opening ≠ []} {text written rest : Text}
    (found : (pair opening divides closing render visible).step? text = some (written, rest)) :
    ∃ first divider second, divides divider = true ∧
      text = opening ++ first ++ [divider] ++ second ++ closing ++ rest ∧ written = render first second := by
  rw [pair_opens opening divides closing render visible text, Option.bind_eq_some_iff] at found
  obtain ⟨tail, shape, read⟩ := found
  obtain ⟨⟨first, second, behind⟩, upTo, same⟩ := Option.map_eq_some_iff.mp read
  obtain ⟨rfl, rfl⟩ := Prod.mk.inj same
  obtain ⟨more, rfl, parts⟩ := up_to_found upTo
  obtain ⟨behindDivider, divider, closes⟩ := Option.bind_eq_some_iff.mp parts
  obtain ⟨ending, rfl, closed⟩ := up_to_found closes
  cases more with
  | nil => simp [afterOne?] at divider
  | cons d more =>
      simp only [afterOne?] at divider
      split at divider
      · next divided =>
        obtain rfl := Option.some.inj divider
        refine ⟨first, d, second, divided, ?_, rfl⟩
        rw [after_eq_some.mp shape, after_eq_some.mp closed]
        simp
      · simp at divider

theorem pair_keeps {opening closing : Text} {divides : Char → Bool} {render : Text → Text → Text}
    {visible : opening ≠ []}
    (stands : ∀ {promote : Bool} {word first second : Text}, Traced word →
      Lacks promote word first → Lacks promote word second →
        Stands promote word (render first second)) :
    (pair opening divides closing render visible).Keeps := by
  intro promote word traced text written rest found lacks
  obtain ⟨first, divider, second, _, rfl, rfl⟩ := pair_shape found
  have parted := lacks.left.left
  exact ⟨stands traced (parted.left.left.right traced) (parted.right traced),
    lacks.right traced⟩

/-! ## Characters that are not written -/

/-- A substitution brings no `c` into a text without one. -/
def KeepsOut (rule : Substitution) (c : Char) : Prop :=
  ∀ text written rest : Text, rule.step? text = some (written, rest) → c ∉ text → c ∉ written ++ rest

section KeepsOut

variable {rule : Substitution} {c : Char} {opening closing : Text}

theorem KeepsOut.apply (out : rule.KeepsOut c) {text : Text} (absent : c ∉ text) : c ∉ rule.apply text := by
  fun_induction rule.apply text with
  | case1 => exact absent
  | case2 d text written rest found ih =>
      have kept := out _ _ _ found absent
      rw [List.mem_append, not_or] at kept ⊢
      exact ⟨kept.1, ih kept.2⟩
  | case3 d text nothing ih =>
      rw [List.mem_cons, not_or] at absent ⊢
      exact ⟨absent.1, ih absent.2⟩

theorem literal_keeps_out {pattern value : Text} {visible : pattern ≠ []} (out : c ∉ value) :
    (literal pattern value visible).KeepsOut c := by
  intro text written rest found absent
  rw [literal_step, Option.map_eq_some_iff] at found
  obtain ⟨tail, shape, same⟩ := found
  obtain ⟨rfl, rfl⟩ := Prod.mk.inj same
  rw [after_eq_some.mp shape] at absent
  simp only [List.mem_append, not_or] at absent ⊢
  exact ⟨out, absent.2⟩

theorem enclosed_keeps_out {render : Text → Text} {visible : opening ≠ []}
    (out : ∀ inner, c ∉ inner → c ∉ render inner) : (enclosed opening closing render visible).KeepsOut c := by
  intro text written rest found absent
  obtain ⟨inner, rfl, rfl⟩ := enclosed_shape found
  simp only [List.mem_append, not_or] at absent ⊢
  exact ⟨out inner absent.1.1.2, absent.2⟩

theorem pair_keeps_out {divides : Char → Bool} {render : Text → Text → Text} {visible : opening ≠ []}
    (out : ∀ first second, c ∉ first → c ∉ second → c ∉ render first second) :
    (pair opening divides closing render visible).KeepsOut c := by
  intro text written rest found absent
  obtain ⟨first, divider, second, _, rfl, rfl⟩ := pair_shape found
  simp only [List.mem_append, not_or] at absent ⊢
  exact ⟨out first second absent.1.1.1.1.2 absent.1.1.2, absent.2⟩

/-- What is written for every occurrence of a character occurs nowhere in the result. -/
theorem literal_takes_out {value : Text} {visible : [c] ≠ []} (out : c ∉ value) (text : Text) :
    c ∉ (literal [c] value visible).apply text := by
  induction text with
  | nil => simp [apply_nil]
  | cons d text ih =>
      by_cases same : d = c
      · have found := literal_apply_found [c] value text visible
        rw [List.singleton_append] at found
        rw [same, found, List.mem_append, not_or]
        exact ⟨out, ih⟩
      · rw [apply_cons_other ((literal_opens [c] value visible).starts_with rfl) same, List.mem_cons, not_or]
        exact ⟨Ne.symm same, ih⟩

end KeepsOut

/-! ## Within a line -/

/-- A substitution that stays within a line and begins with a character of no placeholder. -/
structure InLine (rule : Substitution) (c : Char) : Prop where
  starts : rule.StartsWith c
  strange : inToken c = false
  visible : c ≠ '\n'
  stops : ∀ more, rule.StopsAt ('\n' :: more)
  keeps : rule.Keeps

namespace InLine

variable {rule : Substitution} {c : Char}

theorem apply_newline (inLine : rule.InLine c) (front back : Text) :
    rule.apply (front ++ '\n' :: back) = rule.apply front ++ '\n' :: rule.apply back := by
  rw [apply_append (inLine.stops back), apply_cons_other inLine.starts (Ne.symm inLine.visible)]

theorem apply_unlines (inLine : rule.InLine c) {content : List Line} (nonempty : content ≠ []) :
    rule.apply (unlines content) = unlines (content.map rule.apply) :=
  unlines_map_lines content rule.apply nonempty inLine.apply_newline

theorem apply_token (inLine : rule.InLine c) {front : Text} (absent : c ∉ front) (kind : Kind)
    (index : Nat) : rule.apply (front ++ token kind index) = front ++ token kind index := by
  refine apply_of_absent inLine.starts ?_
  rw [List.mem_append, not_or]
  exact ⟨absent, not_mem_token inLine.strange⟩

theorem carries (inLine : rule.InLine c) {promote : Bool} {word text : Text} {fronts : List Text}
    {keys : List (Kind × Nat)} (traced : Traced word)
    (absent : ∀ front ∈ fronts, c ∉ front ∧ '\n' ∉ front)
    (carries : Carries promote word fronts (lines text) keys) :
    Carries promote word fronts (lines (rule.apply text)) keys := by
  have changed : Carries promote word fronts ((lines text).map rule.apply) keys :=
    carries.map (fun line lacks => inLine.keeps.apply traced [] line lacks)
      fun front known kind index => inLine.apply_token (absent front known).1 kind index
  rw [← unlines_lines text, inLine.apply_unlines (lines_ne_nil text)]
  exact changed.lines_unlines traced fun front known => (absent front known).2

end InLine

theorem literal_in_line {pattern value : Text} {visible : pattern ≠ []} {c : Char}
    (front : pattern.head? = some c) (strange : inToken c = false) (whole : '\n' ∉ pattern)
    (nonempty : value ≠ []) (apart : value.all separates = true) :
    (literal pattern value visible).InLine c where
  starts := (literal_opens pattern value visible).starts_with front
  strange := strange
  visible := ne_of_mem_of_not_mem (List.mem_of_mem_head? front) whole
  stops _ := literal_stops whole
  keeps := literal_keeps nonempty apart

theorem enclosed_in_line {opening closing : Text} {render : Text → Text} {visible : opening ≠ []}
    {c : Char} (front : opening.head? = some c) (strange : inToken c = false)
    (closes : closing ≠ []) (whole : '\n' ∉ opening ++ closing)
    (stands : ∀ {promote : Bool} {word inner : Text}, Traced word → Lacks promote word inner →
      Stands promote word (render inner)) :
    (enclosed opening closing render visible).InLine c where
  starts := (enclosed_opens opening closing render visible).starts_with front
  strange := strange
  visible := ne_of_mem_of_not_mem (List.mem_append_left _ (List.mem_of_mem_head? front)) whole
  stops _ := enclosed_stops closes whole (.inl rfl)
  keeps := enclosed_keeps stands

theorem pair_in_line {opening closing : Text} {divides : Char → Bool} {render : Text → Text → Text}
    {visible : opening ≠ []} {c : Char} (front : opening.head? = some c)
    (strange : inToken c = false) (closes : closing ≠ []) (whole : '\n' ∉ opening ++ closing)
    (inside : divides '\n' = false)
    (stands : ∀ {promote : Bool} {word first second : Text}, Traced word →
      Lacks promote word first → Lacks promote word second →
        Stands promote word (render first second)) :
    (pair opening divides closing render visible).InLine c where
  starts := (pair_opens opening divides closing render visible).starts_with front
  strange := strange
  visible := ne_of_mem_of_not_mem (List.mem_append_left _ (List.mem_of_mem_head? front)) whole
  stops _ := pair_stops closes whole inside (.inl rfl)
  keeps := pair_keeps stands

end Substitution

end Wikidown
