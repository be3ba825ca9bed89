import Wikidown.Proofs.Placeholder.Reserved
import Wikidown.Proofs.Text.Blank
import Wikidown.Proofs.Text.Digit

/-!
# Lines that carry placeholders

`Carries` reads the placeholders off the lines of a document: each stands alone on its line, behind
one of a few known fronts, and the other lines lack the word that placeholders contain. What the
rules of the layout do to placeholders is stated with it.
-/

namespace Wikidown

set_option autoImplicit false

/-- The characters that placeholders are written with. -/
def inToken (c : Char) : Bool := c.isDigit || c.isUpper || "\x7b\x7d_-".toList.contains c

theorem in_token {kind : Kind} {index : Nat} {c : Char} (member : c ∈ token kind index) :
    inToken c = true := by
  have opening : ∀ c ∈ kind.opening, inToken c = true :=
    List.all_iff_forall_prop.mp (by cases kind <;> decide)
  have closing : ∀ c ∈ tokenClosing, inToken c = true := List.all_iff_forall_prop.mp (by decide)
  rw [token, List.mem_append, List.mem_append] at member
  rcases member with (front | number) | back
  · exact opening c front
  · simp [inToken, decimal_is_digit number]
  · exact closing c back

theorem not_mem_token {kind : Kind} {index : Nat} {c : Char} (strange : inToken c = false) :
    c ∉ token kind index := by
  intro member
  rw [in_token member] at strange
  exact absurd strange (by decide)

theorem token_begins (kind : Kind) (index : Nat) : ∃ tail, token kind index = mark ++ tail := by
  cases kind <;> exact ⟨_, rfl⟩

theorem token_ne_nil (kind : Kind) (index : Nat) : token kind index ≠ [] := by
  cases kind <;> exact List.cons_ne_nil _ _

theorem count_brace_token (kind : Kind) (index : Nat) : (token kind index).count '\x7b' = 2 := by
  have opening : kind.opening.count '\x7b' = 2 := by cases kind <;> decide
  have number : (decimalText index).count '\x7b' = 0 :=
    List.count_eq_zero.mpr fun member => absurd (decimal_is_digit member) (by decide)
  have closing : tokenClosing.count '\x7b' = 0 := by decide
  rw [token, List.count_append, List.count_append, opening, number, closing]

/-- Behind the first brace of a placeholder none begins. -/
theorem lacks_mark_of_token {promote : Bool} {kind : Kind} {index : Nat} {front back : Text}
    (shape : token kind index = front ++ '\x7b' :: back) : Lacks promote mark back := by
  have plain : ':' ∉ token kind index := not_mem_token (by decide)
  rw [shape, List.mem_append, List.mem_cons, not_or, not_or] at plain
  rw [Lacks, visible_of_no_colon promote plain.2.2]
  intro inside
  have braces := count_brace_token kind index
  have marked : mark.count '\x7b' ≤ back.count '\x7b' := inside.sublist.count_le '\x7b'
  rw [shape, List.count_append, List.count_cons_self] at braces
  have two : mark.count '\x7b' = 2 := by decide
  omega

/-- What stands before a closing brace of a placeholder begins like one. -/
theorem mark_prefix_of_token {kind : Kind} {index : Nat} {front back : Text}
    (shape : token kind index = front ++ '\x7d' :: back) : mark <+: front := by
  obtain ⟨tail, begins⟩ := token_begins kind index
  rw [begins] at shape
  rcases List.append_eq_append_iff.mp shape with ⟨more, rfl, _⟩ | ⟨more, split, closing⟩
  · exact List.prefix_append mark more
  · cases more with
    | nil => exact ⟨[], by simpa using split⟩
    | cons c more =>
        obtain rfl : '\x7d' = c := (List.cons.inj closing).1
        have member : '\x7d' ∈ mark := by simp [split]
        exact absurd member (by decide)

/-- Lines and the placeholders that stand on them, in order. -/
inductive Carries (promote : Bool) (word : Text) (fronts : List Text) :
    List Line → List (Kind × Nat) → Prop
  | nil : Carries promote word fronts [] []
  | quiet {line : Line} {content : List Line} {keys : List (Kind × Nat)}
      (lacks : Lacks promote word line) (rest : Carries promote word fronts content keys) :
      Carries promote word fronts (line :: content) keys
  | token {front : Text} {content : List Line} {keys : List (Kind × Nat)} (known : front ∈ fronts)
      (kind : Kind) (index : Nat) (rest : Carries promote word fronts content keys) :
      Carries promote word fronts ((front ++ token kind index) :: content) ((kind, index) :: keys)

/-- The fronts of placeholders before the lists are numbered: none. -/
def bare : List Text := [[]]

/-- The fronts of placeholders in numbered lists: a first item without a text of its own comes before
the placeholder in the next line. -/
def itemized : List Text := [[], "1. ".toList]

namespace Carries

variable {promote : Bool} {word : Text} {fronts : List Text} {content other : List Line}
  {keys more : List (Kind × Nat)}

theorem append (first : Carries promote word fronts content keys)
    (second : Carries promote word fronts other more) :
    Carries promote word fronts (content ++ other) (keys ++ more) := by
  induction first with
  | nil => exact second
  | quiet lacks _ ih => exact .quiet lacks ih
  | token known kind index _ ih => exact .token known kind index ih

theorem of_append (carries : Carries promote word fronts (content ++ other) keys) :
    ∃ first second, keys = first ++ second ∧ Carries promote word fronts content first ∧
      Carries promote word fronts other second := by
  induction content generalizing keys with
  | nil => exact ⟨[], keys, rfl, .nil, carries⟩
  | cons line content ih =>
      cases carries with
      | quiet lacks rest =>
          obtain ⟨first, second, rfl, here, later⟩ := ih rest
          exact ⟨first, second, rfl, .quiet lacks here, later⟩
      | token known kind index rest =>
          obtain ⟨first, second, rfl, here, later⟩ := ih rest
          exact ⟨(kind, index) :: first, second, rfl, .token known kind index here, later⟩

theorem of_quiet (lacks : ∀ line ∈ content, Lacks promote word line) :
    Carries promote word fronts content [] := by
  induction content with
  | nil => exact .nil
  | cons line content ih =>
      exact .quiet (lacks line (by simp)) (ih fun other member => lacks other (by simp [member]))

/-- A change of single lines that leaves the word away and placeholders alone. -/
theorem flatMap {change : Line → List Line} (carries : Carries promote word fronts content keys)
    (quiet : ∀ line, Lacks promote word line → ∀ changed ∈ change line, Lacks promote word changed)
    (kept : ∀ front ∈ fronts, ∀ kind index,
      change (front ++ Wikidown.token kind index) = [front ++ Wikidown.token kind index]) :
    Carries promote word fronts (content.flatMap change) keys := by
  induction carries with
  | nil => exact .nil
  | quiet lacks _ ih =>
      rw [List.flatMap_cons]
      exact (of_quiet (quiet _ lacks)).append ih
  | token known kind index _ ih =>
      rw [List.flatMap_cons, kept _ known]
      exact .token known kind index ih

theorem map {change : Line → Line} (carries : Carries promote word fronts content keys)
    (quiet : ∀ line, Lacks promote word line → Lacks promote word (change line))
    (kept : ∀ front ∈ fronts, ∀ kind index,
      change (front ++ Wikidown.token kind index) = front ++ Wikidown.token kind index) :
    Carries promote word fronts (content.map change) keys := by
  rw [List.map_eq_flatMap]
  refine carries.flatMap (fun line lacks changed member => ?_) fun front known kind index => ?_
  · rw [List.mem_singleton] at member
    exact member ▸ quiet line lacks
  · rw [kept front known]

/-- Lines that are put into one text and cut again. -/
theorem lines_unlines (traced : Traced word) (whole : ∀ front ∈ fronts, '\n' ∉ front)
    (carries : Carries promote word fronts content keys) :
    Carries promote word fronts (lines (unlines content)) keys := by
  cases content with
  | nil =>
      cases carries
      exact .quiet (.nil traced) .nil
  | cons line content =>
      rw [lines_unlines_flatMap (by simp)]
      refine carries.flatMap (fun line lacks part member => ?_) fun front known kind index => ?_
      · exact lacks.of_inside traced (infix_of_mem_lines member)
      · refine lines_of_no_newline ?_
        rw [List.mem_append, not_or]
        exact ⟨whole front known, not_mem_token (by decide)⟩

theorem cons_iff {line : Line} : Carries promote word fronts (line :: content) keys ↔
    (Lacks promote word line ∧ Carries promote word fronts content keys) ∨
      ∃ front ∈ fronts, ∃ kind index later, line = front ++ Wikidown.token kind index ∧
        keys = (kind, index) :: later ∧ Carries promote word fronts content later := by
  constructor
  · intro carries
    cases carries with
    | quiet lacks rest => exact .inl ⟨lacks, rest⟩
    | token known kind index rest => exact .inr ⟨_, known, kind, index, _, rfl, rfl, rest⟩
  · rintro (⟨lacks, rest⟩ | ⟨front, known, kind, index, later, rfl, rfl, rest⟩)
    · exact .quiet lacks rest
    · exact .token known kind index rest

/-- A placeholder that has a line for itself. -/
theorem alone (kind : Kind) (index : Nat) (rest : Carries promote word bare content keys) :
    Carries promote word bare (Wikidown.token kind index :: content) ((kind, index) :: keys) :=
  .token (List.mem_singleton.mpr rfl) kind index rest

/-- A line with a character of no placeholder carries none. -/
theorem quiet_of_strange {line : Line} {c : Char}
    (carries : Carries promote word bare (line :: content) keys) (strange : inToken c = false)
    (member : c ∈ line) : Lacks promote word line ∧ Carries promote word bare content keys := by
  rcases cons_iff.mp carries with quiet | ⟨front, known, kind, index, _, rfl, _⟩
  · exact quiet
  · rw [bare, List.mem_singleton] at known
    rw [known, List.nil_append] at member
    exact absurd member (not_mem_token strange)

theorem quiet_of_nil (carries : Carries promote word fronts content []) :
    ∀ line ∈ content, Lacks promote word line := by
  generalize none : ([] : List (Kind × Nat)) = keys at carries
  induction carries with
  | nil => simp
  | quiet lacks _ ih =>
      intro line member
      rcases List.mem_cons.mp member with rfl | later
      · exact lacks
      · exact ih none line later
  | token => exact absurd none (by simp)

theorem lacks_of_nil {text : Text} (traced : Traced word)
    (carries : Carries promote word fronts (lines text) []) : Lacks promote word text := by
  rw [← unlines_lines text, Lacks.unlines_iff traced]
  exact carries.quiet_of_nil

theorem of_lacks {text : Text} (traced : Traced word) (lacks : Lacks promote word text) :
    Carries promote word fronts (lines text) [] :=
  of_quiet fun _ member => lacks.of_inside traced (infix_of_mem_lines member)

/-- Lines without the mark of placeholders carry none. -/
theorem eq_nil_of_absent (carries : Carries promote word fronts content keys)
    (absent : ∀ line ∈ content, ¬ mark <:+: line) : keys = [] := by
  induction carries with
  | nil => rfl
  | quiet _ _ ih => exact ih fun line member => absent line (by simp [member])
  | @token front _ _ _ kind index _ _ =>
      obtain ⟨tail, begins⟩ := token_begins kind index
      refine absurd ⟨front, tail, ?_⟩ (absent (front ++ Wikidown.token kind index) (by simp))
      rw [begins, List.append_assoc]

theorem of_empty_cons (carries : Carries promote word fronts ([] :: content) keys) :
    Carries promote word fronts content keys := by
  rcases cons_iff.mp carries with ⟨_, rest⟩ | ⟨front, _, kind, index, _, empty, _⟩
  · exact rest
  · simp [token_ne_nil] at empty

/-- Empty lines carry nothing. -/
theorem filled_iff (traced : Traced word) :
    Carries promote word fronts (content.filter (!·.isEmpty)) keys ↔
      Carries promote word fronts content keys := by
  induction content generalizing keys with
  | nil => exact Iff.rfl
  | cons line content ih =>
      cases line with
      | nil =>
          have empty : Lacks promote word [] := .nil traced
          rw [List.filter_cons_of_neg (by simp), ih]
          exact ⟨.quiet empty, of_empty_cons⟩
      | cons c line =>
          rw [List.filter_cons_of_pos (by simp), cons_iff, cons_iff]
          simp only [ih]

theorem promoted (traced : Traced word) (carries : Carries promote word fronts content keys) :
    Carries true word fronts content keys := by
  induction carries with
  | nil => exact .nil
  | quiet lacks _ ih => exact .quiet (lacks.promoted traced) ih
  | token known kind index _ ih => exact .token known kind index ih

theorem mono {wider : List Text} (known : ∀ front ∈ fronts, front ∈ wider)
    (carries : Carries promote word fronts content keys) :
    Carries promote word wider content keys := by
  induction carries with
  | nil => exact .nil
  | quiet lacks _ ih => exact .quiet lacks ih
  | token here kind index _ ih => exact .token (known _ here) kind index ih

end Carries

section Trim

variable {promote : Bool} {word : Text} {keys : List (Kind × Nat)} {text : Text}

theorem point_of_in_token {c : Char} (letter : inToken c = true) : 33 ≤ c.toNat ∧ c.toNat ≤ 126 := by
  have bounds : ∀ d ∈ "\x7b\x7d_-".toList, 33 ≤ d.toNat ∧ d.toNat ≤ 126 :=
    List.all_iff_forall_prop.mp (by decide)
  simp only [inToken, Bool.or_eq_true, List.contains_eq_mem, decide_eq_true_eq] at letter
  rcases letter with (digit | upper) | other
  · have low : 48 ≤ c.toNat := (Char.isDigit_iff_toNat.mp digit).1
    have high : c.toNat ≤ 57 := (Char.isDigit_iff_toNat.mp digit).2
    omega
  · have between : 'A'.val ≤ c.val ∧ c.val ≤ 'Z'.val := of_decide_eq_true upper
    have low : 65 ≤ c.toNat := UInt32.le_iff_toNat_le.mp between.1
    have high : c.toNat ≤ 90 := UInt32.le_iff_toNat_le.mp between.2
    omega
  · exact bounds c other

theorem point_of_blank {c : Char} (blank : isBlank c = true) : c.toNat < 33 ∨ 126 < c.toNat := by
  simp only [isBlank, Bool.or_eq_true, Bool.and_eq_true, decide_eq_true_eq, beq_iff_eq] at blank
  omega

theorem strange_of_blank {c : Char} (blank : isBlank c = true) : inToken c = false := by
  cases letter : inToken c with
  | false => rfl
  | true =>
      have bounds := point_of_in_token letter
      have outside := point_of_blank blank
      omega

theorem Carries.trim_start (traced : Traced word)
    (carries : Carries promote word bare (lines text) keys) :
    Carries promote word bare (lines (trimStart text)) keys := by
  induction text generalizing keys with
  | nil => exact carries
  | cons c text ih =>
      cases blank : isBlank c with
      | false => rwa [trim_start_cons_visible blank]
      | true =>
          rw [trim_start_cons_blank blank]
          refine ih ?_
          by_cases newline : c = '\n'
          · rw [newline, lines_cons_newline] at carries
            exact carries.of_empty_cons
          · obtain ⟨first, more, shape⟩ := List.exists_cons_of_ne_nil (lines_ne_nil text)
            rw [lines_cons newline shape] at carries
            obtain ⟨lacks, rest⟩ := carries.quiet_of_strange (strange_of_blank blank) (by simp)
            rw [shape]
            exact .quiet (Lacks.right traced (by simpa using lacks : Lacks promote word ([c] ++ first)))
              rest

theorem Carries.trim_end (carries : Carries promote word bare (lines text) keys) :
    Carries promote word bare (lines (trimEnd text)) keys := by
  induction text using List.reverseRecOn generalizing keys with
  | nil => exact carries
  | append_singleton text c ih =>
      cases blank : isBlank c with
      | false => rwa [trim_end_concat_visible blank]
      | true =>
          rw [trim_end_concat_blank blank]
          refine ih ?_
          by_cases newline : c = '\n'
          · rw [newline, lines_append_newline, lines_nil] at carries
            obtain ⟨first, last, rfl, here, nothing⟩ := carries.of_append
            cases nothing.of_empty_cons
            rwa [List.append_nil]
          · obtain ⟨above, last, shape⟩ := exists_last_line text
            have single : lines [c] = [[c]] := lines_of_no_newline (by simp [Ne.symm newline])
            rw [lines_join shape single] at carries
            obtain ⟨first, late, rfl, here, ending⟩ := carries.of_append
            obtain ⟨lacks, rest⟩ := ending.quiet_of_strange (strange_of_blank blank) (by simp)
            rw [shape]
            exact here.append (.quiet lacks.left rest)

/-- Trimming takes no placeholder away. -/
theorem Carries.trim (traced : Traced word)
    (carries : Carries promote word bare (lines text) keys) :
    Carries promote word bare (lines (Wikidown.trim text)) keys :=
  (carries.trim_start traced).trim_end

theorem brace_mem_token (kind : Kind) (index : Nat) : '\x7b' ∈ token kind index := by
  cases kind <;> exact List.mem_cons_self

theorem trim_end_token (kind : Kind) (index : Nat) :
    trimEnd (token kind index) = token kind index := by
  have ends : token kind index = (kind.opening ++ decimalText index ++ ['\x7d']) ++ ['\x7d'] := by
    simp [token, tokenClosing]
  rw [ends, trim_end_concat_visible (by decide)]

theorem trim_token (kind : Kind) (index : Nat) : trim (token kind index) = token kind index := by
  have begins : trimStart (token kind index) = token kind index := by
    cases kind <;> exact trim_start_cons_visible (by decide) _
  rw [trim, begins, trim_end_token]

end Trim

end Wikidown
