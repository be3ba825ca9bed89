import Wikidown.Proofs.Collapse
import Wikidown.Proofs.Placeholder.Restored

/-!
# Masked texts written back

Unmasking puts each part in the place of its placeholder as the source has it: code and quotes
between their delimiters, the lines of paragraphs as they are. It goes through the passes of masking
in the opposite order.
-/

namespace Wikidown

set_option autoImplicit false

/-- A part as it stands in the source. -/
def Kind.written : Kind → Text → Text
  | .code, body => Masked.codeShape.opening ++ body ++ Masked.codeShape.closing
  | .quote, body => Masked.quoteShape.opening ++ body ++ Masked.quoteShape.closing
  | .paragraph, line => line

/-- Write each part of one kind in the place of its placeholder. -/
def unmasking (kind : Kind) (parts : List Text) : Substitution where
  step? text := (readToken? kind text).bind fun (digits, rest) =>
    (parts[decimalValue digits]?).map fun part => (kind.written part, rest)
  shorter := by
    intro text written rest found
    obtain ⟨⟨digits, remaining⟩, read, known⟩ := Option.bind_eq_some_iff.mp found
    obtain ⟨part, _, same⟩ := Option.map_eq_some_iff.mp known
    obtain ⟨_, rfl⟩ := Prod.mk.inj same
    exact read_token_length read

/-- The text that was masked, up to empty lines below paragraphs. -/
def Masked.unmasked (masked : Masked) : Text :=
  Substitution.applyAll
    [unmasking .paragraph masked.store.paragraph, unmasking .quote masked.store.quote,
      unmasking .code masked.store.code]
    masked.text

/-- The numbers of the placeholders of one kind in a text, wherever they stand. -/
def tokenNumbers (kind : Kind) : Text → List Nat
  | [] => []
  | c :: text =>
      ((readToken? kind (c :: text)).map fun (digits, _) => decimalValue digits).toList ++
        tokenNumbers kind text

/-- The numbers of the placeholders of one kind in a masked text; those of code stand in the stored
quotes too. -/
def Masked.numbers (masked : Masked) (kind : Kind) : List Nat :=
  tokenNumbers kind masked.text ++
    if kind = .code then masked.store.quote.flatMap (tokenNumbers kind) else []

variable {kind : Kind} {parts : List Text}

/-! ## Reading placeholders line by line -/

theorem token_numbers_append_newline (kind : Kind) (front back : Text) :
    tokenNumbers kind (front ++ '\n' :: back) = tokenNumbers kind front ++ tokenNumbers kind back := by
  induction front with
  | nil =>
      simp only [List.nil_append, tokenNumbers, read_token_cons_newline]
      rfl
  | cons c front ih =>
      have here := read_token_append_newline kind (c :: front) back
      rw [List.cons_append] at here ⊢
      rw [tokenNumbers, tokenNumbers, here, ih, List.append_assoc, Option.map_map]
      rfl

theorem token_numbers_unlines (kind : Kind) (content : List Line) :
    tokenNumbers kind (unlines content) = content.flatMap (tokenNumbers kind) := by
  induction content with
  | nil => rfl
  | cons line content ih =>
      rw [List.flatMap_cons, ← ih]
      cases content with
      | nil => exact (List.append_nil _).symm
      | cons next content => exact token_numbers_append_newline kind line _

theorem token_numbers_of_lacks {text : Text} (lacks : Lacks true mark text) (kind : Kind) :
    tokenNumbers kind text = [] := by
  induction text with
  | nil => rfl
  | cons c text ih =>
      have other : ¬ kind.opening <+: c :: text := fun begins =>
        not_opening_of_lacks lacks kind begins.isInfix
      rw [tokenNumbers, read_token_eq_none other,
        ih (lacks.of_inside .opening (List.suffix_cons c text).isInfix)]
      rfl

theorem token_numbers_token (kind other : Kind) (index : Nat) :
    tokenNumbers kind (token other index) = if other = kind then [index] else [] := by
  obtain ⟨tail, begins⟩ := token_begins other index
  have shape : token other index = '\x7b' :: ("\x7bBACKLOG2MD_".toList ++ tail) := begins
  have behind := token_numbers_of_lacks (@lacks_mark_of_token true other index [] _ shape) kind
  have whole : readToken? other (token other index) = some (decimalText index, []) := by
    have read := read_token_of_token other index []
    rwa [List.append_nil] at read
  rw [shape] at whole ⊢
  rw [tokenNumbers, behind, List.append_nil]
  split
  · next same =>
      rw [← same, whole]
      exact congrArg (· :: []) (decimal_value_text index)
  · next apart =>
      have absent := opening_not_in_token apart index
      rw [shape] at absent
      rw [read_token_eq_none fun begins => absent begins.isInfix]
      rfl

/-- Lines with placeholders have the numbers of those placeholders. -/
theorem token_numbers_of_carries {content : List Line} {keys : List (Kind × Nat)}
    (carries : Carries true mark bare content keys) (kind : Kind) :
    content.flatMap (tokenNumbers kind) = numbersOf kind keys := by
  induction carries with
  | nil => rfl
  | quiet lacks _ ih =>
      rw [List.flatMap_cons, token_numbers_of_lacks lacks, ih]
      rfl
  | token known other index _ ih =>
      rw [List.mem_singleton.mp known, List.nil_append, List.flatMap_cons, token_numbers_token, ih,
        Masked.numbers_of_cons]

theorem token_numbers_of_carries_lines {text : Text} {keys : List (Kind × Nat)}
    (carries : Carries true mark bare (lines text) keys) (kind : Kind) :
    tokenNumbers kind text = numbersOf kind keys := by
  rw [← token_numbers_of_carries carries, ← token_numbers_unlines, unlines_lines]

/-! ## Unmasking line by line -/

theorem unmasking_stops (tail : Text) : (unmasking kind parts).StopsAt ('\n' :: tail) := by
  intro text
  change (readToken? kind (text ++ '\n' :: tail)).bind _ = _
  rw [read_token_append_newline]
  change _ = ((readToken? kind text).bind _).map _
  cases readToken? kind text with
  | none => rfl
  | some read =>
      obtain ⟨digits, rest⟩ := read
      change (parts[decimalValue digits]?).map _ = ((parts[decimalValue digits]?).map _).map _
      cases parts[decimalValue digits]? <;> rfl

theorem unmasking_unread {text : Text} (unread : readToken? kind text = none) :
    (unmasking kind parts).step? text = none := by
  change (readToken? kind text).bind _ = none
  rw [unread]
  rfl

theorem unmasking_append_newline (front back : Text) :
    (unmasking kind parts).apply (front ++ '\n' :: back) =
      (unmasking kind parts).apply front ++ '\n' :: (unmasking kind parts).apply back := by
  rw [Substitution.apply_append (unmasking_stops back),
    Substitution.apply_of_none (unmasking_unread (read_token_cons_newline kind back))]

theorem unmasking_unlines (content : List Line) :
    (unmasking kind parts).apply (unlines content) =
      unlines (content.map (unmasking kind parts).apply) := by
  cases content with
  | nil => exact Substitution.apply_nil _
  | cons line content =>
      exact unlines_map_lines _ _ (List.cons_ne_nil line content) unmasking_append_newline

/-- A text without placeholders of a kind has none of its parts to write. -/
theorem unmasking_of_absent {text : Text} (absent : ¬ kind.opening <:+: text) :
    (unmasking kind parts).apply text = text := by
  induction text with
  | nil => exact Substitution.apply_nil _
  | cons c text ih =>
      rw [List.infix_cons_iff, not_or] at absent
      rw [Substitution.apply_of_none (unmasking_unread (read_token_eq_none absent.1)), ih absent.2]

theorem unmasking_token {index : Nat} {part : Text} (known : parts[index]? = some part) :
    (unmasking kind parts).apply (token kind index) = kind.written part := by
  have read := read_token_of_token kind index []
  rw [List.append_nil] at read
  have step : (unmasking kind parts).step? (token kind index) = some (kind.written part, []) := by
    change (readToken? kind (token kind index)).bind _ = _
    simp only [read, Option.bind_some, decimal_value_text, known]
    rfl
  rw [Substitution.apply_of_some step, Substitution.apply_nil, List.append_nil]

/-! ## Filled lines -/

theorem filled_lines_unlines (content : List Line) :
    filledLines (unlines content) = content.flatMap filledLines := by
  induction content with
  | nil => rfl
  | cons line content ih =>
      rw [List.flatMap_cons, ← ih]
      cases content with
      | nil => exact (List.append_nil _).symm
      | cons next content => exact filled_lines_append_newline line _

/-- Unmasking writes into each filled line on its own. -/
theorem filled_lines_unmasking (text : Text) :
    filledLines ((unmasking kind parts).apply text) =
      (filledLines text).flatMap fun line => filledLines ((unmasking kind parts).apply line) := by
  have split := filled_lines_unlines ((lines text).map (unmasking kind parts).apply)
  rw [← unmasking_unlines, unlines_lines, List.flatMap_map] at split
  rw [split, filledLines]
  generalize lines text = content
  induction content with
  | nil => rfl
  | cons line content ih =>
      cases line with
      | nil =>
          rw [List.filter_cons_of_neg (by simp), ← ih, List.flatMap_cons, Substitution.apply_nil]
          rfl
      | cons c line => rw [List.filter_cons_of_pos (by simp), List.flatMap_cons, List.flatMap_cons, ih]

theorem filled_lines_unmasking_congr {text other : Text} (same : filledLines text = filledLines other) :
    filledLines ((unmasking kind parts).apply text) =
      filledLines ((unmasking kind parts).apply other) := by
  rw [filled_lines_unmasking, filled_lines_unmasking, same]

end Wikidown
