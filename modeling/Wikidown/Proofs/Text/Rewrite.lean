import Wikidown.Proofs.Text.Lines
import Wikidown.Text.Substitution

/-!
# Substitutions along a text

Where a pass of a substitution can be cut in two, which texts it leaves as they are, and what it finds at the
front of one that is written for it.
-/

namespace Wikidown

set_option autoImplicit false

theorem after_append_tail {opening tail : Text} {c : Char} (apart : c ∉ opening) (text : Text) :
    after? opening (text ++ c :: tail) = (after? opening text).map (· ++ c :: tail) := by
  induction opening generalizing text with
  | nil => rfl
  | cons expected opening ih =>
      simp only [List.mem_cons, not_or] at apart
      cases text with
      | nil => simp [after?, Ne.symm apart.1]
      | cons d text =>
          simp only [List.cons_append, after?]
          split
          · exact ih apart.2 text
          · rfl

section Stop

variable {test : Char → Bool} {c : Char}

theorem take_while_append_stop (stops : test c = false) (text tail : Text) :
    (text ++ c :: tail).takeWhile test = text.takeWhile test := by
  induction text with
  | nil => exact List.takeWhile_cons_of_neg (by simp [stops])
  | cons d text ih => rw [List.cons_append, List.takeWhile_cons, List.takeWhile_cons, ih]

theorem drop_while_append_stop (stops : test c = false) (text tail : Text) :
    (text ++ c :: tail).dropWhile test = text.dropWhile test ++ c :: tail := by
  induction text with
  | nil => exact List.dropWhile_cons_of_neg (by simp [stops])
  | cons d text ih =>
      rw [List.cons_append, List.dropWhile_cons, List.dropWhile_cons, ih]
      split <;> rfl

end Stop

section UpTo

variable {Found : Type} {next? : Text → Option Found} {tail : Text}

/-- Nothing follows a stretch that would have to end within `tail`. -/
theorem up_to_append (grow : Found → Found)
    (shape : ∀ text, next? (text ++ tail) = (next? text).map grow)
    (nothing : upTo? next? tail = none) (text : Text) :
    upTo? next? (text ++ tail) = (upTo? next? text).map fun (inner, found) => (inner, grow found) := by
  induction text with
  | nil =>
      have here := shape []
      rw [List.nil_append] at here ⊢
      have empty : next? [] = none := by
        cases tail with
        | nil => simpa [upTo?] using nothing
        | cons c tail =>
            cases found : next? [] with
            | none => rfl
            | some result => simp [upTo?, here, found] at nothing
      rw [nothing]
      simp [upTo?, empty]
  | cons c text ih =>
      have here := shape (c :: text)
      rw [List.cons_append] at here ⊢
      simp only [upTo?, here, ih]
      cases next? (c :: text) with
      | some found => rfl
      | none =>
          by_cases newline : c = '\n'
          · simp [newline]
          · simp only [Option.map_none, if_neg newline]
            cases upTo? next? text <;> rfl

/-- A stretch ends at the first place where what follows it is found. -/
theorem up_to_first {inner : Text} {found : Found} (whole : '\n' ∉ inner) (here : next? tail = some found)
    (earlier : ∀ front back, inner = front ++ back → back ≠ [] → next? (back ++ tail) = none) :
    upTo? next? (inner ++ tail) = some (inner, found) := by
  induction inner with
  | nil => cases tail <;> simp [upTo?, here]
  | cons c inner ih =>
      rw [List.mem_cons, not_or] at whole
      have nothing : next? (c :: (inner ++ tail)) = none := earlier [] (c :: inner) rfl (List.cons_ne_nil _ _)
      have later := ih whole.2 fun front back shape => earlier (c :: front) back (by rw [shape, List.cons_append])
      rw [List.cons_append, upTo?, nothing, if_neg (Ne.symm whole.1), later]
      rfl

/-- A stretch ends at the first closing where it lacks the character that the closing begins with. -/
theorem up_to_closing {closing inner : Text} {c : Char} (begins : closing.head? = some c) (absent : c ∉ inner)
    (whole : '\n' ∉ inner) (rest : Text) :
    upTo? (after? closing) (inner ++ (closing ++ rest)) = some (inner, rest) := by
  refine up_to_first whole (after_eq_some.mpr rfl) fun front back shape nonempty => ?_
  obtain ⟨closing, rfl⟩ := List.head?_eq_some_iff.mp begins
  obtain ⟨d, back, rfl⟩ := List.exists_cons_of_ne_nil nonempty
  have other : c ≠ d := fun same => absent (by simp [shape, same])
  rw [List.cons_append, after?, if_neg other]

theorem up_to_no_newline {text inner : Text} {found : Found}
    (success : upTo? next? text = some (inner, found)) : '\n' ∉ inner := by
  induction text generalizing inner with
  | nil =>
      simp only [upTo?, Option.map_eq_some_iff, Prod.mk.injEq] at success
      obtain ⟨_, _, rfl, rfl⟩ := success
      simp
  | cons c text ih =>
      simp only [upTo?] at success
      split at success
      · simp only [Option.some.injEq, Prod.mk.injEq] at success
        simp [← success.1]
      · split at success
        · simp at success
        · next visible =>
            simp only [Option.map_eq_some_iff, Prod.mk.injEq] at success
            obtain ⟨⟨more, _⟩, step, rfl, rfl⟩ := success
            simp [Ne.symm visible, ih step]

theorem up_to_eq_none {c : Char} {more : Text} (here : next? (c :: more) = none)
    (empty : next? [] = none) (ends : c = '\n' ∨ more = []) : upTo? next? (c :: more) = none := by
  rcases ends with rfl | rfl
  · simp [upTo?, here]
  · simp [upTo?, here, empty]

theorem after_cons_eq_none {closing more : Text} {c : Char} (nonempty : closing ≠ [])
    (apart : c ∉ closing) : after? closing (c :: more) = none := by
  obtain ⟨d, closing, rfl⟩ := List.exists_cons_of_ne_nil nonempty
  simp only [List.mem_cons, not_or] at apart
  simp [after?, Ne.symm apart.1]

theorem after_nil_eq_none {closing : Text} (nonempty : closing ≠ []) : after? closing [] = none := by
  obtain ⟨d, closing, rfl⟩ := List.exists_cons_of_ne_nil nonempty
  rfl

theorem up_to_after_append {closing more : Text} {c : Char} (nonempty : closing ≠ [])
    (apart : c ∉ closing) (ends : c = '\n' ∨ more = []) (text : Text) :
    upTo? (after? closing) (text ++ c :: more) =
      (upTo? (after? closing) text).map fun (inner, rest) => (inner, rest ++ c :: more) :=
  up_to_append (· ++ c :: more) (after_append_tail apart)
    (up_to_eq_none (after_cons_eq_none nonempty apart) (after_nil_eq_none nonempty) ends) text

end UpTo

namespace Substitution

/-- A substitution does not look beyond `tail`: before it, a pass goes as it goes without it. -/
def StopsAt (rule : Substitution) (tail : Text) : Prop :=
  ∀ text, rule.step? (text ++ tail) =
    (rule.step? text).map fun (written, rest) => (written, rest ++ tail)

theorem apply_append {rule : Substitution} {tail : Text} (stops : rule.StopsAt tail)
    (text : Text) : rule.apply (text ++ tail) = rule.apply text ++ rule.apply tail := by
  fun_induction rule.apply text with
  | case1 => rfl
  | case2 c text written rest found ih =>
      have step := stops (c :: text)
      rw [found, Option.map_some] at step
      rw [apply_of_some step, ih, List.append_assoc]
  | case3 c text nothing ih =>
      have step := stops (c :: text)
      rw [nothing, Option.map_none, List.cons_append] at step
      rw [List.cons_append, apply_of_none step, ih, List.cons_append]

/-- A substitution recognises nothing that begins with another character than `c`. -/
def StartsWith (rule : Substitution) (c : Char) : Prop :=
  ∀ text, rule.step? text ≠ none → ∃ more, text = c :: more

theorem apply_cons_other {rule : Substitution} {c d : Char} (starts : rule.StartsWith c)
    (other : d ≠ c) (text : Text) : rule.apply (d :: text) = d :: rule.apply text := by
  apply apply_of_none
  by_contra found
  obtain ⟨more, shape⟩ := starts _ found
  exact other (List.cons.inj shape).1

/-- What lacks the character that a substitution begins with stays, and the pass goes on behind it. -/
theorem apply_append_of_absent {rule : Substitution} {c : Char} {front : Text} (starts : rule.StartsWith c)
    (absent : c ∉ front) (text : Text) : rule.apply (front ++ text) = front ++ rule.apply text := by
  induction front with
  | nil => rfl
  | cons d front ih =>
      rw [List.mem_cons, not_or] at absent
      rw [List.cons_append, apply_cons_other starts (Ne.symm absent.1), ih absent.2, List.cons_append]

theorem apply_of_absent {rule : Substitution} {c : Char} {text : Text} (starts : rule.StartsWith c)
    (absent : c ∉ text) : rule.apply text = text := by
  have whole := apply_append_of_absent starts absent []
  rwa [apply_nil, List.append_nil] at whole

/-- What each of some rules keeps, all of them keep. -/
theorem apply_all_keeps {rules : List Substitution} {Holds : Text → Prop} {text : Text}
    (keeps : ∀ rule ∈ rules, ∀ text, Holds text → Holds (rule.apply text)) (holds : Holds text) :
    Holds (applyAll rules text) := by
  induction rules generalizing text with
  | nil => exact holds
  | cons rule rules ih =>
      rw [List.forall_mem_cons] at keeps
      exact ih keeps.2 (keeps.1 text holds)

theorem apply_all_of_fixed {rules : List Substitution} {text : Text}
    (fixed : ∀ rule ∈ rules, rule.apply text = text) : applyAll rules text = text :=
  @apply_all_keeps rules (· = text) text (fun rule member _ same => same ▸ fixed rule member) rfl

/-- Two texts that each of some rules keeps apart, all of them keep apart. -/
theorem apply_all_apart {rules : List Substitution} {join : Text → Text → Text}
    (apart : ∀ rule ∈ rules, ∀ front back, rule.apply (join front back) = join (rule.apply front) (rule.apply back))
    (front back : Text) : applyAll rules (join front back) = join (applyAll rules front) (applyAll rules back) := by
  induction rules generalizing front back with
  | nil => rfl
  | cons rule rules ih =>
      rw [List.forall_mem_cons] at apart
      rw [applyAll, List.foldl_cons, apart.1]
      exact ih apart.2 (rule.apply front) (rule.apply back)

theorem apply_all_around {rules : List Substitution} {around : Text → Text}
    (kept : ∀ rule ∈ rules, ∀ text, rule.apply (around text) = around (rule.apply text)) (text : Text) :
    applyAll rules (around text) = around (applyAll rules text) :=
  @apply_all_apart rules (fun _ => around) (fun rule member _ => kept rule member) [] text

section Opened

variable {opening closing more : Text} {finish? : Text → Option (Text × Text)} {c : Char}

/-- A substitution that reads a fixed opening and something behind it. -/
def Opens (rule : Substitution) (opening : Text) (finish? : Text → Option (Text × Text)) : Prop :=
  ∀ text, rule.step? text = (after? opening text).bind finish?

theorem Opens.starts_with {rule : Substitution} (opens : rule.Opens opening finish?)
    (front : opening.head? = some c) : rule.StartsWith c := by
  obtain ⟨opening, rfl⟩ := List.head?_eq_some_iff.mp front
  intro text found
  rw [opens text] at found
  obtain ⟨result, found⟩ := Option.ne_none_iff_exists'.mp found
  obtain ⟨tail, shape, _⟩ := Option.bind_eq_some_iff.mp found
  exact ⟨opening ++ tail, by simpa using after_eq_some.mp shape⟩

/-- Nothing is recognised in a text without the opening. -/
theorem Opens.apply_of_absent {rule : Substitution} (opens : rule.Opens opening finish?) {text : Text}
    (absent : ¬ opening <:+: text) : rule.apply text = text := by
  induction text with
  | nil => exact apply_nil _
  | cons c text ih =>
      rw [List.infix_cons_iff, not_or] at absent
      have nothing : rule.step? (c :: text) = none := by
        rw [opens, Option.bind_eq_none_iff]
        exact fun rest found => absurd ⟨rest, (after_eq_some.mp found).symm⟩ absent.1
      rw [apply_of_none nothing, ih absent.2]

/-- An opening neither begins in a stretch that lacks a part of it nor goes on behind a character of no opening. -/
theorem Opens.apply_append {rule : Substitution} (opens : rule.Opens opening finish?) {front : Text} {part : Char}
    (known : part ∈ opening) (absent : part ∉ front) (apart : c ∉ opening) (back : Text) :
    rule.apply (front ++ c :: back) = front ++ rule.apply (c :: back) := by
  induction front with
  | nil => rfl
  | cons d front ih =>
      have nothing : rule.step? (d :: (front ++ c :: back)) = none := by
        rw [opens, ← List.cons_append, after_append_tail apart, Option.bind_eq_none_iff]
        intro rest found
        obtain ⟨inside, read, _⟩ := Option.map_eq_some_iff.mp found
        exact absurd (after_eq_some.mp read ▸ List.mem_append_left inside known) absent
      rw [List.mem_cons, not_or] at absent
      rw [List.cons_append, apply_of_none nothing, ih absent.2, List.cons_append]

theorem Opens.stops {rule : Substitution} (opens : rule.Opens opening finish?) (apart : c ∉ opening)
    (stops : ∀ text, finish? (text ++ c :: more) =
      (finish? text).map fun (written, rest) => (written, rest ++ c :: more)) :
    rule.StopsAt (c :: more) := by
  intro text
  rw [opens text, opens (text ++ c :: more), after_append_tail apart]
  cases after? opening text with
  | none => rfl
  | some tail => exact stops tail

theorem literal_opens (pattern value : Text) (visible : pattern ≠ []) :
    (literal pattern value visible).Opens pattern fun rest => some (value, rest) :=
  fun _ => rfl

theorem literal_stops {pattern value : Text} {visible : pattern ≠ []} (apart : c ∉ pattern) :
    (literal pattern value visible).StopsAt (c :: more) :=
  (literal_opens pattern value visible).stops apart fun _ => rfl

theorem enclosed_opens (opening closing : Text) (render : Text → Text) (visible : opening ≠ []) :
    (enclosed opening closing render visible).Opens opening fun text =>
      (upTo? (after? closing) text).map fun (inner, rest) => (render inner, rest) :=
  fun _ => rfl

theorem enclosed_found {render : Text → Text} (visible : opening ≠ []) {inner rest : Text}
    (ends : upTo? (after? closing) (inner ++ (closing ++ rest)) = some (inner, rest)) :
    (enclosed opening closing render visible).step? (opening ++ inner ++ closing ++ rest) =
      some (render inner, rest) := by
  have begins : after? opening (opening ++ (inner ++ (closing ++ rest))) = some _ := after_eq_some.mpr rfl
  rw [List.append_assoc, List.append_assoc, enclosed_opens opening closing render visible, begins,
    Option.bind_some, ends]
  rfl

theorem enclosed_stops {render : Text → Text} {visible : opening ≠ []} (nonempty : closing ≠ [])
    (apart : c ∉ opening ++ closing) (ends : c = '\n' ∨ more = []) :
    (enclosed opening closing render visible).StopsAt (c :: more) := by
  rw [List.mem_append, not_or] at apart
  refine (enclosed_opens opening closing render visible).stops apart.1 fun text => ?_
  rw [up_to_after_append nonempty apart.2 ends]
  cases upTo? (after? closing) text <;> rfl

theorem pair_opens (opening : Text) (divides : Char → Bool) (closing : Text)
    (render : Text → Text → Text) (visible : opening ≠ []) :
    (pair opening divides closing render visible).Opens opening fun text =>
      (upTo? (fun tail => (afterOne? divides tail).bind (upTo? (after? closing))) text).map
        fun (first, second, rest) => (render first second, rest) :=
  fun _ => rfl

/-- The first part lacks what divides it from the second. -/
theorem pair_found {divides : Char → Bool} {render : Text → Text → Text} (visible : opening ≠ [])
    {first second rest : Text} {divider : Char} (divided : divides divider = true)
    (undivided : ∀ c ∈ first, divides c = false) (whole : '\n' ∉ first)
    (ends : upTo? (after? closing) (second ++ (closing ++ rest)) = some (second, rest)) :
    (pair opening divides closing render visible).step?
        (opening ++ first ++ [divider] ++ second ++ closing ++ rest) = some (render first second, rest) := by
  have begins : after? opening (opening ++ (first ++ (divider :: (second ++ (closing ++ rest))))) = some _ :=
    after_eq_some.mpr rfl
  have parts : upTo? (fun tail => (afterOne? divides tail).bind (upTo? (after? closing)))
      (first ++ (divider :: (second ++ (closing ++ rest)))) = some (first, second, rest) := by
    refine up_to_first whole (by rw [afterOne?, if_pos divided, Option.bind_some, ends]) ?_
    intro front back shape nonempty
    obtain ⟨c, back, rfl⟩ := List.exists_cons_of_ne_nil nonempty
    have other := undivided c (by simp [shape])
    rw [List.cons_append, afterOne?, if_neg (by simp [other]), Option.bind_none]
  have shape : opening ++ first ++ [divider] ++ second ++ closing ++ rest =
      opening ++ (first ++ (divider :: (second ++ (closing ++ rest)))) := by simp
  rw [shape, pair_opens opening divides closing render visible, begins, Option.bind_some, parts]
  rfl

theorem pair_stops {divides : Char → Bool} {render : Text → Text → Text} {visible : opening ≠ []}
    (nonempty : closing ≠ []) (apart : c ∉ opening ++ closing) (inside : divides c = false)
    (ends : c = '\n' ∨ more = []) :
    (pair opening divides closing render visible).StopsAt (c :: more) := by
  rw [List.mem_append, not_or] at apart
  refine (pair_opens opening divides closing render visible).stops apart.1 fun text => ?_
  rw [up_to_append (fun (second, rest) => (second, rest ++ c :: more)) (fun text => ?_)
    (up_to_eq_none (by simp [afterOne?, inside]) rfl ends)]
  · cases upTo? _ text <;> rfl
  · cases text with
    | nil => simp [afterOne?, inside]
    | cons d text =>
        simp only [List.cons_append, afterOne?]
        cases divides d with
        | false => rfl
        | true => exact up_to_after_append nonempty apart.2 ends text

end Opened

theorem literal_step (pattern value text : Text) (visible : pattern ≠ []) :
    (literal pattern value visible).step? text = (after? pattern text).map fun rest => (value, rest) := by
  simp only [literal, opened]
  cases after? pattern text <;> rfl

theorem literal_apply_found (pattern value text : Text) (visible : pattern ≠ []) :
    (literal pattern value visible).apply (pattern ++ text) =
      value ++ (literal pattern value visible).apply text := by
  apply apply_of_some
  rw [literal_step, after_eq_some.mpr rfl]
  rfl

theorem literal_apply_cons {pattern value text : Text} {c : Char} (visible : pattern ≠ [])
    (other : ¬ pattern <+: c :: text) :
    (literal pattern value visible).apply (c :: text) =
      c :: (literal pattern value visible).apply text := by
  apply apply_of_none
  rw [literal_step, Option.map_eq_none_iff]
  cases found : after? pattern (c :: text) with
  | none => rfl
  | some rest => exact absurd ⟨rest, (after_eq_some.mp found).symm⟩ other

theorem literal_apply_of_absent {pattern value text : Text} (visible : pattern ≠ [])
    (absent : ¬ pattern <:+: text) : (literal pattern value visible).apply text = text :=
  (literal_opens pattern value visible).apply_of_absent absent

end Substitution

end Wikidown
