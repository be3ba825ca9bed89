import Wikidown.Proofs.InlineLines
import Wikidown.Proofs.Placeholder.Restoring
import Wikidown.Proofs.Placeholder.Spacing

/-!
# Placeholders replaced by parts

Where the placeholders of one kind are looked for, a text is made of these placeholders and of single
characters. Two placeholders never overlap, so each of them is found wherever it stands. Restoring writes one
text for each of these fragments: a character is copied, and so is a placeholder whose number no part has; for
every other one the part is written, without a line feed that would double a blank line beside it.
-/

namespace Wikidown

set_option autoImplicit false

variable {kind other : Kind} {parts : List Text} {text front back rest digits output : Text}

/-- A number as it stands in a placeholder: decimal digits of any script. -/
structure Numeral (digits : Text) : Prop where
  digit : ∀ d ∈ digits, isDigit d = true
  nonempty : digits ≠ []

/-- A piece of a text: a placeholder of the kind that is looked for, or a character of the text around. -/
inductive Fragment where
  | char (c : Char)
  | token (digits : Text)

def Fragment.source (kind : Kind) : Fragment → Text
  | char c => [c]
  | token digits => kind.opening ++ digits ++ tokenClosing

theorem read_token_iff : readToken? kind text = some (digits, rest) ↔
    Numeral digits ∧ text = (Fragment.token digits).source kind ++ rest := by
  constructor
  · intro read
    obtain ⟨shape, digit⟩ := read_token_shape read
    refine ⟨⟨digit, ?_⟩, shape⟩
    rintro rfl
    obtain ⟨tail, _, more⟩ := Option.bind_eq_some_iff.mp read
    split at more
    · simp at more
    · next some =>
        simp only [Option.map_eq_some_iff, Prod.mk.injEq] at more
        obtain ⟨_, _, none, _⟩ := more
        exact some (by rw [none]; rfl)
  · rintro ⟨numeral, rfl⟩
    exact read_token_of_digits kind numeral.digit numeral.nonempty rest

/-! ## Fragments -/

/-- The fragments of a text, from left to right. -/
def fragments (kind : Kind) : Text → List Fragment
  | [] => []
  | c :: text =>
      match _ : readToken? kind (c :: text) with
      | some (digits, rest) => .token digits :: fragments kind rest
      | none => .char c :: fragments kind text
termination_by text => text.length
decreasing_by
  · exact read_token_length ‹readToken? kind (c :: text) = some (digits, rest)›
  · simp

theorem fragments_of_read (read : readToken? kind text = some (digits, rest)) :
    fragments kind text = .token digits :: fragments kind rest := by
  cases text with
  | nil => exact absurd (read_token_length read) (Nat.not_lt_zero _)
  | cons c text =>
      rw [fragments]
      split <;> simp_all

theorem fragments_of_unread {c : Char} (unread : readToken? kind (c :: text) = none) :
    fragments kind (c :: text) = .char c :: fragments kind text := by
  rw [fragments]
  split <;> simp_all

/-- The fragments of a text lose nothing of it. -/
theorem fragments_text (kind : Kind) (text : Text) : (fragments kind text).flatMap (Fragment.source kind) = text := by
  fun_induction fragments kind text with
  | case1 => rfl
  | case2 c text digits rest read ih =>
      rw [List.flatMap_cons, ih]
      exact (read_token_iff.mp read).2.symm
  | case3 c text unread ih =>
      rw [List.flatMap_cons, ih]
      rfl

theorem numeral_of_mem (member : .token digits ∈ fragments kind text) : Numeral digits := by
  fun_induction fragments kind text with
  | case1 => exact absurd member List.not_mem_nil
  | case2 c text number rest read ih =>
      rcases List.mem_cons.mp member with same | later
      · obtain rfl := Fragment.token.inj same
        exact (read_token_iff.mp read).1
      · exact ih later
  | case3 c text unread ih =>
      rcases List.mem_cons.mp member with same | later
      · exact absurd same (by simp)
      · exact ih later

/-- A placeholder has its two opening braces in front, and no other ones. -/
theorem token_braces (kind : Kind) (numeral : Numeral digits) :
    ∃ body, (Fragment.token digits).source kind = '\x7b' :: '\x7b' :: body ∧ '\x7b' ∉ body ∧ body ≠ [] := by
  have sign : '\x7b' ∉ digits := fun member => absurd (numeral.digit _ member) (by decide)
  have label : '\x7b' ∉ kind.label ++ ['-'] := by cases kind <;> decide
  have closing : '\x7b' ∉ tokenClosing := by decide
  refine ⟨kind.label ++ ['-'] ++ digits ++ tokenClosing, ?_, ?_, by simp⟩
  · simp [Fragment.source, Kind.opening]
  · exact List.not_mem_append (List.not_mem_append label sign) closing

/-- A placeholder that begins in front of two braces ends in front of them. -/
theorem ends_before_braces (numeral : Numeral digits) (begun : front ≠ [])
    (shape : front ++ '\x7b' :: '\x7b' :: back = (Fragment.token digits).source kind ++ rest) :
    ∃ more, front = (Fragment.token digits).source kind ++ more ∧ rest = more ++ '\x7b' :: '\x7b' :: back := by
  obtain ⟨body, braces, plain, nonempty⟩ := token_braces kind numeral
  rcases List.append_eq_append_iff.mp shape with ⟨more, whole, behind⟩ | ⟨more, inside, behind⟩
  · obtain ⟨c, front, rfl⟩ := List.exists_cons_of_ne_nil begun
    cases more with
    | nil => exact ⟨[], by rw [List.append_nil, whole, List.append_nil], behind.symm⟩
    | cons d more =>
        -- the braces stand within the placeholder, where one brace is left at most
        obtain ⟨rfl, next⟩ := List.cons.inj behind
        rw [braces, List.cons_append] at whole
        have within := (List.cons.inj whole).2
        cases front with
        | nil =>
            obtain rfl := (List.cons.inj within).2
            obtain ⟨e, body, rfl⟩ := List.exists_cons_of_ne_nil nonempty
            have same : '\x7b' = e := (List.cons.inj next).1
            exact absurd (same ▸ List.mem_cons_self) plain
        | cons e front =>
            have later := (List.cons.inj within).2
            exact absurd (later ▸ List.mem_append_right front List.mem_cons_self) plain
  · exact ⟨more, inside, behind⟩

/-- Two braces are not taken for a part of a placeholder that begins in front of them. -/
theorem fragments_at_braces (kind : Kind) (front back : Text) :
    ∃ before, fragments kind (front ++ '\x7b' :: '\x7b' :: back) = before ++ fragments kind ('\x7b' :: '\x7b' :: back) ∧
      before.flatMap (Fragment.source kind) = front := by
  induction size : front.length using Nat.strong_induction_on generalizing front with
  | _ total ih =>
      cases front with
      | nil => exact ⟨[], rfl, rfl⟩
      | cons c front =>
          cases read : readToken? kind (c :: front ++ '\x7b' :: '\x7b' :: back) with
          | none =>
              obtain ⟨before, cut, shape⟩ := ih front.length (by simp [← size]) front rfl
              rw [List.cons_append] at read ⊢
              refine ⟨.char c :: before, by rw [fragments_of_unread read, cut]; rfl, ?_⟩
              rw [List.flatMap_cons, shape]
              rfl
          | some found =>
              obtain ⟨digits, rest⟩ := found
              obtain ⟨numeral, shape⟩ := read_token_iff.mp read
              obtain ⟨more, inside, behind⟩ := ends_before_braces numeral (List.cons_ne_nil c front) shape
              have shorter : more.length < total := by
                have long := congrArg List.length inside
                obtain ⟨body, braces, _⟩ := token_braces kind numeral
                simp only [braces, List.length_append, List.length_cons] at long
                rw [← size, List.length_cons]
                omega
              obtain ⟨before, cut, kept⟩ := ih more.length shorter more rfl
              refine ⟨.token digits :: before, ?_, by rw [List.flatMap_cons, kept, inside]⟩
              rw [fragments_of_read read, behind, cut]
              rfl

theorem fragments_of_passes (passes : Passes kind text rest) :
    fragments kind (text ++ rest) = text.map .char ++ fragments kind rest := by
  induction text with
  | nil => rfl
  | cons c text ih =>
      have unread : readToken? kind (c :: (text ++ rest)) = none :=
        read_token_eq_none (passes (c :: text) (List.cons_ne_nil c text) (List.suffix_refl _))
      rw [List.cons_append, fragments_of_unread unread,
        ih fun part nonempty ends => passes part nonempty (ends.trans (List.suffix_cons c text))]
      rfl

/-- No placeholder begins within one of another kind. -/
theorem passes_other (apart : other ≠ kind) (numeral : Numeral digits) (rest : Text) :
    Passes kind ((Fragment.token digits).source other) rest := by
  refine passes_of_apart (fun inside => ?_) fun last _ ends _ => .inl ?_
  · have sign : '-' ∉ digits ++ tokenClosing := by
      refine List.not_mem_append (fun member => ?_) (by decide)
      exact absurd (numeral.digit _ member) (by decide)
    rw [Fragment.source, List.append_assoc] at inside
    have opened := infix_of_append_back (show kind.opening.getLast? = some '-' by cases kind <;> rfl) sign inside
    revert opened apart
    cases kind <;> cases other <;> decide
  · have last' : ((Fragment.token digits).source other).getLast? = some '\x7d' :=
      List.getLast?_append_of_ne_nil _ (by decide)
    obtain rfl := Option.some.inj (last'.symm.trans ends)
    cases kind <;> decide

/-- Fragments that a text is made of, with each placeholder that stands anywhere in it: those of the kind are
fragments of their own, those of other kinds are copied character by character. -/
structure Fragmented (kind : Kind) (text : Text) (pieces : List Fragment) : Prop where
  whole : pieces.flatMap (Fragment.source kind) = text
  numeral : ∀ digits, .token digits ∈ pieces → Numeral digits
  each : ∀ front digits back, Numeral digits → text = front ++ (Fragment.token digits).source kind ++ back →
    ∃ before after, pieces = before ++ .token digits :: after ∧
      before.flatMap (Fragment.source kind) = front ∧ after.flatMap (Fragment.source kind) = back
  others : ∀ other, other ≠ kind → ∀ front digits back, Numeral digits →
    text = front ++ (Fragment.token digits).source other ++ back →
      ∃ before after, pieces = before ++ ((Fragment.token digits).source other).map .char ++ after ∧
        before.flatMap (Fragment.source kind) = front ∧ after.flatMap (Fragment.source kind) = back

theorem fragmented (kind : Kind) (text : Text) : Fragmented kind text (fragments kind text) where
  whole := fragments_text kind text
  numeral _ := numeral_of_mem
  each front digits back numeral shape := by
    obtain ⟨body, braces, _⟩ := token_braces kind numeral
    have read : readToken? kind ((Fragment.token digits).source kind ++ back) = some (digits, back) :=
      read_token_iff.mpr ⟨numeral, rfl⟩
    obtain ⟨before, cut, kept⟩ := fragments_at_braces kind front (body ++ back)
    rw [← List.cons_append, ← List.cons_append, ← braces, ← List.append_assoc, ← shape, fragments_of_read read] at cut
    exact ⟨before, fragments kind back, cut, kept, fragments_text kind back⟩
  others other apart front digits back numeral shape := by
    obtain ⟨body, braces, _⟩ := token_braces other numeral
    obtain ⟨before, cut, kept⟩ := fragments_at_braces kind front (body ++ back)
    rw [← List.cons_append, ← List.cons_append, ← braces, ← List.append_assoc, ← shape,
      fragments_of_passes (passes_other apart numeral back), ← List.append_assoc] at cut
    exact ⟨before, fragments kind back, cut, kept, fragments_text kind back⟩

/-! ## What is written for them -/

/-- What is left of a rendered part between the text `output` in front of it and the text `rest` behind: a line
feed at an end of it is dropped where there is a blank line beside it. -/
def Fitted (output rest rendered core : Text) : Prop :=
  ∃ lead trail, rendered = lead ++ core ++ trail ∧ (lead = [] ∨ lead = ['\n']) ∧ (trail = [] ∨ trail = ['\n']) ∧
    (lead ≠ [] ↔ doubleFeed <:+ output ∧ ['\n'] <+: rendered) ∧
    (trail ≠ [] ↔ doubleFeed <+: rest ∧ ['\n'] <:+ core ++ trail)

/-- What is written for a fragment, behind the text `output` and in front of the text `rest`. -/
inductive Shown (kind : Kind) (parts : List Text) (rendered : Text → Text) (output rest : Text) :
    Fragment → Text → Prop
  | char (c : Char) : Shown kind parts rendered output rest (.char c) [c]
  | foreign {digits : Text} (outside : parts.length ≤ decimalValue digits) :
      Shown kind parts rendered output rest (.token digits) ((Fragment.token digits).source kind)
  | own {digits part core : Text} (known : parts[decimalValue digits]? = some part)
      (fitted : Fitted output rest (rendered part) core) :
      Shown kind parts rendered output rest (.token digits) core

/-- Texts that are written for fragments one after another, behind the text `output`. -/
inductive Substituted (kind : Kind) (parts : List Text) (rendered : Text → Text) :
    (output : Text) → List Fragment → List Text → Prop
  | done (output : Text) : Substituted kind parts rendered output [] []
  | next {output here : Text} {fragment : Fragment} {rest : List Fragment} {written : List Text}
      (shown : Shown kind parts rendered output (rest.flatMap (Fragment.source kind)) fragment here)
      (behind : Substituted kind parts rendered (output ++ here) rest written) :
      Substituted kind parts rendered output (fragment :: rest) (here :: written)

/-- A line feed in front of a text that is dropped if `drop` says so. -/
theorem exists_lead (drop : Bool) (text : Text) :
    ∃ lead, text = lead ++ (if drop then (after? "\n".toList text).getD text else text) ∧
      (lead = [] ∨ lead = ['\n']) ∧ (lead ≠ [] ↔ drop = true ∧ ['\n'] <+: text) := by
  cases drop with
  | false => exact ⟨[], rfl, .inl rfl, by simp⟩
  | true =>
      cases found : after? "\n".toList text with
      | none =>
          have unfed : ¬ ['\n'] <+: text := fun ⟨core, shape⟩ =>
            absurd (found.symm.trans (after_eq_some.mpr shape.symm)) (by simp)
          exact ⟨[], rfl, .inl rfl, by simp [unfed]⟩
      | some core =>
          have shape : text = ['\n'] ++ core := after_eq_some.mp found
          exact ⟨['\n'], shape, .inr rfl, by simp [shape]⟩

/-- A line feed behind a text that is dropped if `drop` says so. -/
theorem exists_trail (drop : Bool) (text : Text) :
    ∃ trail, text = (if drop then (before? "\n".toList text).getD text else text) ++ trail ∧
      (trail = [] ∨ trail = ['\n']) ∧ (trail ≠ [] ↔ drop = true ∧ ['\n'] <:+ text) := by
  cases drop with
  | false => exact ⟨[], by simp, .inl rfl, by simp⟩
  | true =>
      cases found : before? "\n".toList text with
      | none =>
          have unfed : ¬ ['\n'] <:+ text := fun ⟨core, shape⟩ =>
            absurd (found.symm.trans (before_eq_some.mpr shape.symm)) (by simp)
          exact ⟨[], by simp, .inl rfl, by simp [unfed]⟩
      | some core =>
          have shape : text = core ++ ['\n'] := before_eq_some.mp found
          exact ⟨['\n'], shape, .inr rfl, by simp [shape]⟩

theorem fitted_without_doubled (output rest rendered : Text) :
    Fitted output rest rendered (withoutDoubledBlank output.reverse rest rendered) := by
  obtain ⟨lead, split, single, leads⟩ := exists_lead (startsWith "\n\n".toList output.reverse) rendered
  rw [← ends_with_feeds, ends_with_iff] at leads
  rw [withoutDoubledBlank]
  generalize (if startsWith "\n\n".toList output.reverse then (after? "\n".toList rendered).getD rendered
    else rendered) = started at split ⊢
  obtain ⟨trail, shape, singleToo, trails⟩ := exists_trail (startsWith "\n\n".toList rest) started
  rw [starts_with_iff] at trails
  refine ⟨lead, trail, ?_, single, singleToo, leads, ?_⟩
  · rw [List.append_assoc, ← shape, ← split]
  · rw [← shape]
    exact trails

section Restore

variable {render : Text → Except NumberTooLong Text} {rendered : Text → Text}

theorem restore_from_fragments (renders : ∀ part ∈ parts, render part = .ok (rendered part))
    (short : ∀ digits, Numeral digits → (Fragment.token digits).source kind <:+: text → digits.length ≤ digitLimit) :
    ∃ written, Substituted kind parts rendered output (fragments kind text) written ∧
      restoreFrom kind parts render output.reverse text = .ok (output ++ written.flatten) := by
  fun_induction fragments kind text generalizing output with
  | case1 => exact ⟨[], .done output, by rw [restore_from_nil, List.reverse_reverse]; simp⟩
  | case2 c text digits rest read ih =>
      obtain ⟨numeral, shape⟩ := read_token_iff.mp read
      have within {word : Text} (inside : word <:+: rest) : word <:+: c :: text :=
        shape ▸ List.infix_append_of_infix_right inside
      have number : boundedNumber digits = .ok (decimalValue digits) := by
        refine if_neg (Nat.not_lt.mpr (short digits numeral ?_))
        rw [shape]
        exact (List.prefix_append _ rest).isInfix
      have later (here : Text) := @ih (output ++ here) fun other known inside => short other known (within inside)
      rw [restore_from_read_eq read, number]
      cases known : parts[decimalValue digits]? with
      | none =>
          obtain ⟨written, substituted, restored⟩ := later ((Fragment.token digits).source kind)
          have outside := List.getElem?_eq_none_iff.mp known
          refine ⟨_ :: written, .next (.foreign outside) substituted, ?_⟩
          rw [List.reverse_append] at restored
          simp only [known, bind, Except.bind]
          exact restored.trans (by simp)
      | some part =>
          obtain ⟨written, substituted, restored⟩ :=
            later (withoutDoubledBlank output.reverse rest (rendered part))
          refine ⟨_ :: written, .next (.own known ?_) substituted, ?_⟩
          · rw [fragments_text]
            exact fitted_without_doubled output rest (rendered part)
          · rw [List.reverse_append] at restored
            simp only [known, renders part (List.mem_of_getElem? known), bind, Except.bind]
            exact restored.trans (by simp)
  | case3 c text unread ih =>
      obtain ⟨written, substituted, restored⟩ := @ih (output ++ [c])
        fun digits numeral inside => short digits numeral (inside.trans (List.suffix_cons c text).isInfix)
      refine ⟨[c] :: written, .next (.char c) substituted, ?_⟩
      rw [restore_from_unread unread]
      rw [List.reverse_append] at restored
      exact restored.trans (by simp)

end Restore

/-- Whatever the parts are and whatever is rendered for them: in a text whose placeholders of a kind have short
numbers, restoring writes the part of its number for each of these placeholders, wherever they stand, and keeps
all else in its order. -/
theorem tokens_substituted (kind : Kind) {parts : List Text} {render : Text → Except NumberTooLong Text}
    {rendered : Text → Text} (renders : ∀ part ∈ parts, render part = .ok (rendered part)) {text : Text}
    (short : ∀ digits, Numeral digits → (Fragment.token digits).source kind <:+: text → digits.length ≤ digitLimit) :
    ∃ pieces written, Fragmented kind text pieces ∧ Substituted kind parts rendered [] pieces written ∧
      restore kind parts render text = .ok written.flatten := by
  obtain ⟨written, substituted, restored⟩ := @restore_from_fragments kind parts text [] render rendered renders short
  exact ⟨fragments kind text, written, fragmented kind text, substituted, restored⟩

/-- Placeholders side by side, one of them with a number of another script, and some that no part has. -/
def tokenText : Text :=
  ("a\n\n\x7b\x7bBACKLOG2MD_CODE-0\x7d\x7d\x7b\x7bBACKLOG2MD_CODE-\u0660\u0661\x7d\x7d\n\n" ++
    "\x7b\x7bBACKLOG2MD_QUOTE-0\x7d\x7d\x7b\x7b\x7bBACKLOG2MD_CODE-7\x7d\x7d").toList

def tokenParts : List Text := ["x".toList, "y".toList]

theorem tokens_substituted_side_by_side :
    (restore .code tokenParts (fun part => .ok (renderCode part)) tokenText).toOption =
        some ("a\n\n\x60\x60\x60\nx\n\x60\x60\x60\n\n\x60\x60\x60\ny\n\x60\x60\x60\n\n" ++
          "\x7b\x7bBACKLOG2MD_QUOTE-0\x7d\x7d\x7b\x7b\x7bBACKLOG2MD_CODE-7\x7d\x7d").toList ∧
      ∃ pieces written, Fragmented .code tokenText pieces ∧
        Substituted .code tokenParts renderCode [] pieces written ∧
          restore .code tokenParts (fun part => .ok (renderCode part)) tokenText = .ok written.flatten := by
  refine ⟨by decide +kernel, tokens_substituted .code (fun _ _ => rfl) fun digits _ inside => ?_⟩
  have short : tokenText.length ≤ digitLimit := by decide +kernel
  have within : digits.length ≤ ((Fragment.token digits).source .code).length := by
    simp only [Fragment.source, List.length_append]
    omega
  exact within.trans (inside.length_le.trans short)

end Wikidown
