import Wikidown.Proofs.Page.Links
import Wikidown.Proofs.Page.Runs

/-!
# Redirected pages read again

Files whose names hold no parenthesis and no end of a line can be put into links without harm: a page with its
links pointed at such files has the same lines of code and the same links as before, with other targets.
-/

namespace Wikidown.Page

set_option autoImplicit false

variable {resolve? : Text → Option Text} {pieces : List Piece} {previous : Option Char}

/-- The name of a file that a link can be pointed at wherever the link stands. -/
structure Linkable (file : Text) : Prop where
  nonempty : file ≠ []
  unended : ')' ∉ file
  whole : ∀ c ∈ file, isLineEnd c = false

theorem Linkable.readable {label target file : Text} (linkable : Linkable file) (readable : Readable label target) :
    Readable label file where
  unclosed := readable.unclosed
  nonempty := linkable.nonempty
  unended := linkable.unended
  whole feed := absurd (linkable.whole '\n' feed) (by decide)

/-- A text that is made of pieces, before its links are redirected and after. -/
def plainText (pieces : List Piece) : Text := pieces.flatMap Piece.text

def redirectedPieces (resolve? : Text → Option Text) (pieces : List Piece) : Text :=
  pieces.flatMap fun piece => (piece.redirect resolve?).text

section Pieces

variable (c : Char) (label target : Text) (pieces : List Piece)

theorem plain_text_char : plainText (.char c :: pieces) = c :: plainText pieces := rfl

theorem redirected_char : redirectedPieces resolve? (.char c :: pieces) = c :: redirectedPieces resolve? pieces := rfl

theorem plain_text_link :
    plainText (.link label target :: pieces) = (Piece.link label target).text ++ plainText pieces := rfl

theorem redirected_link : redirectedPieces resolve? (.link label target :: pieces) =
    (Piece.link label ((resolve? target).getD target)).text ++ redirectedPieces resolve? pieces := rfl

end Pieces

/-- Pieces that are read back as they are written. -/
def ReadBack (pieces : List Piece) : Prop := ∀ label target, .link label target ∈ pieces → Readable label target

theorem ReadBack.tail {piece : Piece} (readBack : ReadBack (piece :: pieces)) : ReadBack pieces :=
  fun label target member => readBack label target (List.mem_cons_of_mem piece member)

/-! ## What redirecting leaves as it was -/

theorem piece_text_ne_nil (piece : Piece) : piece.text ≠ [] := by
  cases piece <;> exact List.cons_ne_nil _ _

theorem redirected_head (pieces : List Piece) :
    (redirectedPieces resolve? pieces).head? = (plainText pieces).head? := by
  rcases pieces with _ | ⟨_ | _, _⟩ <;> rfl

theorem redirected_last (pieces : List Piece) :
    (redirectedPieces resolve? pieces).getLast? = (plainText pieces).getLast? := by
  obtain rfl | ⟨front, piece, rfl⟩ := List.eq_nil_or_concat' pieces
  · rfl
  · have ends : (piece.redirect resolve?).text.getLast? = piece.text.getLast? := by
      cases piece <;> simp [Piece.redirect, Piece.text, List.getLast?_cons]
    rw [redirectedPieces, plainText, List.flatMap_append, List.flatMap_append, List.flatMap_singleton,
      List.flatMap_singleton, List.getLast?_append_of_ne_nil _ (piece_text_ne_nil _),
      List.getLast?_append_of_ne_nil _ (piece_text_ne_nil _), ends]

/-! ## Fences -/

/-- What a link is written with, around its label and its target. -/
theorem link_text_append (label target rest : Text) :
    (Piece.link label target).text ++ rest = '[' :: (label ++ ']' :: ('(' :: (target ++ ')' :: rest))) := by
  simp [Piece.text]

theorem is_fence_redirected (front : Text) (pieces : List Piece) :
    isFence (front ++ redirectedPieces resolve? pieces) = isFence (front ++ plainText pieces) := by
  induction pieces generalizing front with
  | nil => rfl
  | cons piece pieces ih =>
      cases piece with
      | char c =>
          have moved := ih (front ++ [c])
          rwa [List.append_assoc, List.append_assoc] at moved
      | link label target =>
          have strange : Strange '[' := show '[' ∉ "> \x60".toList by decide
          rw [redirected_link, plain_text_link, link_text_append, link_text_append, is_fence_append strange,
            is_fence_append strange]

/-- No end of a line stands in the new target of a link, so no fence begins there. -/
theorem has_fence_target (linkable : ∀ target file, resolve? target = some file → Linkable file) {target : Text}
    (none : hasFence (some '(') target = false) : hasFence (some '(') ((resolve? target).getD target) = false := by
  cases found : resolve? target with
  | none => exact none
  | some file =>
      exact has_fence_of_no_line_end (List.forall_mem_cons.mpr ⟨by decide, (linkable target file found).whole⟩)

theorem has_fence_redirected (linkable : ∀ target file, resolve? target = some file → Linkable file)
    (none : hasFence previous (plainText pieces) = false) :
    hasFence previous (redirectedPieces resolve? pieces) = false := by
  induction pieces generalizing previous with
  | nil => exact none
  | cons piece pieces ih =>
      cases piece with
      | char c =>
          have same := @is_fence_redirected resolve? [c] pieces
          rw [List.singleton_append, List.singleton_append] at same
          rw [plain_text_char, hasFence, Bool.or_eq_false_iff] at none
          rw [redirected_char, hasFence, Bool.or_eq_false_iff]
          exact ⟨same ▸ none.1, ih none.2⟩
      | link label target =>
          have marks : Strange '[' ∧ Strange ']' ∧ Strange '(' ∧ Strange ')' := by
            unfold Strange
            decide
          -- fences begin in the label, in the target or behind the link
          have split (other rest : Text) : hasFence previous ((Piece.link label other).text ++ rest) = false ↔
              hasFence previous [] = false ∧ hasFence (some '[') label = false ∧ hasFence (some ']') [] = false ∧
                hasFence (some '(') other = false ∧ hasFence (some ')') rest = false := by
            have first := has_fence_across marks.1 previous []
            have third := has_fence_across marks.2.2.1 (some ']') []
            rw [link_text_append, ← List.nil_append ('[' :: _), first, has_fence_across marks.2.1,
              ← List.nil_append ('(' :: _), third, has_fence_across marks.2.2.2]
            simp only [Bool.or_eq_false_iff]
          rw [plain_text_link, split] at none
          rw [redirected_link, split]
          exact ⟨none.1, none.2.1, none.2.2.1, has_fence_target linkable none.2.2.2.1, ih none.2.2.2.2⟩

/-! ## Links -/

/-- Whether a target that a text begins within ends on its line. -/
def endsTarget : Text → Bool
  | [] => false
  | c :: text => c == ')' || (c != '\n' && endsTarget text)

/-- Whether a text begins with a target in parentheses. -/
def beginsTarget : Text → Bool
  | '(' :: text => text.head? != some ')' && endsTarget text
  | _ => false

/-- Whether a label that a text begins within ends in front of a target. -/
def endsLabel : Text → Bool
  | [] => false
  | c :: text => if c = ']' then beginsTarget text else endsLabel text

theorem ends_target_append {target : Text} (unended : ')' ∉ target) (whole : '\n' ∉ target) (text : Text) :
    endsTarget (target ++ text) = endsTarget text := by
  induction target with
  | nil => rfl
  | cons c target ih =>
      rw [List.mem_cons, not_or] at unended whole
      have visible : (c == ')') = false ∧ (c != '\n') = true := by
        simpa using ⟨Ne.symm unended.1, Ne.symm whole.1⟩
      rw [List.cons_append, endsTarget, visible.1, visible.2, ih unended.2 whole.2]
      rfl

theorem ends_label_append {label : Text} (unclosed : ']' ∉ label) (text : Text) :
    endsLabel (label ++ text) = endsLabel text := by
  induction label with
  | nil => rfl
  | cons c label ih =>
      rw [List.mem_cons, not_or] at unclosed
      rw [List.cons_append, endsLabel, if_neg (Ne.symm unclosed.1), ih unclosed.2]

theorem ends_target_behind (front : Text) {first second : Text} (same : endsTarget first = endsTarget second) :
    endsTarget (front ++ first) = endsTarget (front ++ second) := by
  induction front with
  | nil => exact same
  | cons c front ih => rw [List.cons_append, List.cons_append, endsTarget, endsTarget, ih]

theorem ends_target_iff {text : Text} : endsTarget text = true ↔
    ∃ target rest, ')' ∉ target ∧ '\n' ∉ target ∧ text = target ++ ')' :: rest := by
  constructor
  · intro ends
    induction text with
    | nil => simp [endsTarget] at ends
    | cons c text ih =>
        by_cases last : c = ')'
        · exact ⟨[], text, by simp, by simp, by rw [last]; rfl⟩
        · simp only [endsTarget, Bool.or_eq_true, beq_iff_eq, last, false_or, Bool.and_eq_true, bne_iff_ne] at ends
          obtain ⟨target, rest, unended, whole, rfl⟩ := ih ends.2
          exact ⟨c :: target, rest, by simp [unended, Ne.symm last], by simp [whole, Ne.symm ends.1], rfl⟩
  · rintro ⟨target, rest, unended, whole, rfl⟩
    rw [ends_target_append unended whole]
    rfl

theorem begins_target_of_readable {label target : Text} (readable : Readable label target) (rest : Text) :
    beginsTarget ('(' :: (target ++ ')' :: rest)) = true := by
  obtain ⟨c, more, shape⟩ := List.exists_cons_of_ne_nil readable.nonempty
  have ends := ends_target_iff.mpr ⟨target, rest, readable.unended, readable.whole, rfl⟩
  have first : (target ++ ')' :: rest).head? ≠ some ')' := by
    have unended := readable.unended
    rw [shape, List.mem_cons, not_or] at unended
    simpa [shape] using Ne.symm unended.1
  rw [beginsTarget, ends, Bool.and_true, bne_iff_ne]
  exact first

/-- The texts that go on as a link behind its first bracket. -/
theorem ends_label_iff {text : Text} : endsLabel text = true ↔
    ∃ label target rest, Readable label target ∧ '[' :: text = (Piece.link label target).text ++ rest := by
  constructor
  · intro ends
    induction text with
    | nil => simp [endsLabel] at ends
    | cons c text ih =>
        by_cases last : c = ']'
        · subst last
          rw [endsLabel, if_pos rfl] at ends
          unfold beginsTarget at ends
          split at ends
          · next text =>
              rw [Bool.and_eq_true, bne_iff_ne] at ends
              obtain ⟨target, rest, unended, whole, rfl⟩ := ends_target_iff.mp ends.2
              have nonempty : target ≠ [] := fun none => ends.1 (by rw [none]; rfl)
              exact ⟨[], target, rest, ⟨by simp, nonempty, unended, whole⟩, by rw [link_text_append]; rfl⟩
          · exact absurd ends Bool.false_ne_true
        · rw [endsLabel, if_neg last] at ends
          obtain ⟨label, target, rest, readable, shape⟩ := ih ends
          rw [link_text_append] at shape
          refine ⟨c :: label, target, rest, { readable with unclosed := ?_ }, ?_⟩
          · simp [readable.unclosed, Ne.symm last]
          · rw [link_text_append, (List.cons.inj shape).2]
            rfl
  · rintro ⟨label, target, rest, readable, shape⟩
    rw [link_text_append] at shape
    rw [(List.cons.inj shape).2, ends_label_append readable.unclosed, endsLabel, if_pos rfl]
    exact begins_target_of_readable readable rest

theorem read_link_iff {c : Char} {text : Text} :
    (∃ found, readLink? (c :: text) = some found) ↔ c = '[' ∧ endsLabel text = true := by
  rw [ends_label_iff]
  constructor
  · rintro ⟨⟨label, target, rest⟩, found⟩
    have shape := read_link_text found
    obtain rfl : '[' = c := by
      rw [link_text_append] at shape
      exact (List.cons.inj shape).1
    exact ⟨rfl, label, target, rest, readable_of_read found, shape.symm⟩
  · rintro ⟨rfl, label, target, rest, readable, shape⟩
    exact ⟨_, shape ▸ readable.read rest⟩

section Redirect

variable (linkable : ∀ target file, resolve? target = some file → Linkable file)
include linkable

theorem redirected_readable {label target : Text} (readable : Readable label target) :
    Readable label ((resolve? target).getD target) := by
  cases found : resolve? target with
  | none => exact readable
  | some file => exact (linkable target file found).readable readable

theorem ends_target_redirected (readBack : ReadBack pieces) :
    endsTarget (redirectedPieces resolve? pieces) = endsTarget (plainText pieces) := by
  induction pieces with
  | nil => rfl
  | cons piece pieces ih =>
      cases piece with
      | char c => rw [redirected_char, plain_text_char, endsTarget, endsTarget, ih readBack.tail]
      | link label target =>
          have readable := readBack label target List.mem_cons_self
          have again := redirected_readable linkable readable
          have split (other rest : Text) : (Piece.link label other).text ++ rest =
              '[' :: label ++ "](".toList ++ (other ++ ')' :: rest) := by
            rw [link_text_append]
            simp
          -- the label may end it, and the end of the link does at the latest
          rw [redirected_link, plain_text_link, split, split]
          refine ends_target_behind _ ?_
          rw [ends_target_append again.unended again.whole, ends_target_append readable.unended readable.whole]
          rfl

theorem begins_target_redirected (readBack : ReadBack pieces) :
    beginsTarget (redirectedPieces resolve? pieces) = beginsTarget (plainText pieces) := by
  rcases pieces with _ | ⟨c | _, pieces⟩
  · rfl
  · by_cases opens : c = '('
    · subst opens
      rw [redirected_char, plain_text_char, beginsTarget, beginsTarget, redirected_head,
        ends_target_redirected linkable readBack.tail]
    · have other (text : Text) : beginsTarget (c :: text) = false := by
        unfold beginsTarget
        split
        · next same => exact absurd (List.cons.inj same).1 opens
        · rfl
      exact (other _).trans (other _).symm
  · rfl

theorem ends_label_redirected (readBack : ReadBack pieces) :
    endsLabel (redirectedPieces resolve? pieces) = endsLabel (plainText pieces) := by
  induction pieces with
  | nil => rfl
  | cons piece pieces ih =>
      cases piece with
      | char c =>
          rw [redirected_char, plain_text_char, endsLabel, endsLabel, ih readBack.tail,
            begins_target_redirected linkable readBack.tail]
      | link label target =>
          have readable := readBack label target List.mem_cons_self
          have own (other rest : Text) (readable : Readable label other) :
              endsLabel ((Piece.link label other).text ++ rest) = true := by
            rw [link_text_append, endsLabel, if_neg (by decide)]
            exact ends_label_iff.mpr ⟨label, other, rest, readable, (link_text_append label other rest).symm⟩
          rw [redirected_link, plain_text_link, own _ _ readable, own _ _ (redirected_readable linkable readable)]

/-- A redirected text has the links that it had, with their new targets. -/
theorem pieces_redirected (previous : Option Char) (text : Text) :
    piecesAfter previous (redirectedPieces resolve? (piecesAfter previous text)) =
      (piecesAfter previous text).map (Piece.redirect resolve?) := by
  fun_induction piecesAfter previous text with
  | case1 previous =>
      rw [redirectedPieces, List.flatMap_nil, piecesAfter]
      rfl
  | case2 previous c text label target rest found ih =>
      split at found
      · simp at found
      · next free =>
          have readable := redirected_readable linkable (readable_of_read found)
          rw [redirected_link, readable.pieces free, ih]
          rfl
  | case3 previous c text nothing ih =>
      have readBack : ReadBack (piecesAfter (some c) text) := fun _ _ => readable_of_mem_pieces
      have same := ends_label_redirected linkable readBack
      rw [plainText, pieces_after_text] at same
      rw [redirected_char, piecesAfter]
      split
      · next label target rest found =>
          split at found
          · simp at found
          · next free =>
              rw [dif_neg free] at nothing
              have begins := read_link_iff.mp ⟨_, found⟩
              obtain ⟨other, here⟩ := read_link_iff.mpr ⟨begins.1, same ▸ begins.2⟩
              rw [here] at nothing
              exact absurd nothing (by simp)
      · rw [ih]
        rfl

end Redirect

/-! ## Stretches -/

/-- Lines of text that is no code stand below no code and hold no fence. -/
theorem classify_prose {inCode : Bool} {content : List Text} (nonempty : content ≠ []) :
    classify inCode content = content.map (false, ·) ↔ inCode = false ∧ ∀ line ∈ content, isFence line = false := by
  induction content generalizing inCode with
  | nil => contradiction
  | cons line content ih =>
      rw [classify, List.map_cons, List.cons_eq_cons, Prod.mk.injEq, Bool.or_eq_false_iff, List.forall_mem_cons]
      by_cases single : content = []
      · subst single
        simp [classify]
      · rw [ih single]
        cases inCode <;> cases isFence line <;> simp

namespace Run

/-- The lines of a run after its links have been redirected. -/
def redirect (resolve? : Text → Option Text) (run : Run) : Run :=
  ⟨run.isCode,
    if run.isCode then run.content else wholeLines (redirectedPieces resolve? run.stretch.pieces)⟩

variable {run : Run}

theorem redirect_code (code : run.isCode = true) : run.redirect resolve? = run := by
  rw [redirect, if_pos code]

theorem redirect_prose (prose : run.isCode = false) :
    (run.redirect resolve?).content = wholeLines (redirectedPieces resolve? run.stretch.pieces) := by
  rw [redirect, prose]
  rfl

theorem redirect_flatten (resolve? : Text → Option Text) (run : Run) :
    (run.redirect resolve?).content.flatten = redirectedPieces resolve? run.stretch.pieces := by
  cases shade : run.isCode with
  | true =>
      have pieces : run.stretch.pieces = run.stretch.text.map .char := if_pos shade
      rw [redirect_code shade, pieces, redirectedPieces, List.flatMap_map]
      exact (List.flatMap_singleton' run.stretch.text).symm
  | false => rw [redirect_prose shade, whole_lines_flatten]

theorem redirect_ends (resolve? : Text → Option Text) (run : Run) :
    (run.redirect resolve?).content.flatten.head? = run.content.flatten.head? ∧
      (run.redirect resolve?).content.flatten.getLast? = run.content.flatten.getLast? := by
  rw [redirect_flatten, redirected_head, redirected_last, plainText, stretch_pieces_text]
  exact ⟨rfl, rfl⟩

theorem redirect_nonempty (nonempty : run.content.flatten ≠ []) : (run.redirect resolve?).content.flatten ≠ [] := by
  have first := (run.redirect_ends resolve?).1
  intro none
  rw [none] at first
  exact nonempty (List.head?_eq_none_iff.mp first.symm)

theorem redirect_pieces (linkable : ∀ target file, resolve? target = some file → Linkable file) (run : Run) :
    (run.redirect resolve?).stretch.pieces = run.stretch.pieces.map (Piece.redirect resolve?) := by
  cases shade : run.isCode with
  | true =>
      have pieces : run.stretch.pieces = run.stretch.text.map .char := if_pos shade
      rw [redirect_code shade, pieces, List.map_map]
      rfl
  | false =>
      have pieces : run.stretch.pieces = linkPieces run.stretch.text := if_neg (by simp [Run.stretch, shade])
      have again : (run.redirect resolve?).stretch.pieces =
          linkPieces (run.redirect resolve?).content.flatten := if_neg (by simp [Run.stretch, Run.redirect, shade])
      rw [again, redirect_flatten, pieces]
      exact pieces_redirected linkable none run.stretch.text

/-- A run whose lines hold no fence holds none after its links have been redirected. -/
theorem redirect_unfenced (linkable : ∀ target file, resolve? target = some file → Linkable file)
    (prose : run.isCode = false) (lines : wholeLines run.content.flatten = run.content)
    (unfenced : ∀ line ∈ run.content, isFence line = false) :
    ∀ line ∈ (run.redirect resolve?).content, isFence line = false := by
  have none : hasFence none (plainText run.stretch.pieces) = false := by
    rw [plainText, stretch_pieces_text, (has_fence_iff _).1]
    exact List.any_eq_false.mpr fun line member => by simp [unfenced line (lines ▸ member)]
  have again := has_fence_redirected linkable none
  rw [(has_fence_iff _).1, List.any_eq_false] at again
  intro line member
  simpa using again line (redirect_prose prose ▸ member)

end Run

theorem leaves_open_unfenced {content : List Text} (unfenced : ∀ line ∈ content, isFence line = false) :
    leavesOpen content = false := by
  have none : content.countP isFence = 0 :=
    List.countP_eq_zero.mpr fun line member => by simp [unfenced line member]
  rw [leavesOpen, none]
  decide

/-- What redirecting does to one run of lines: it is still one of its class, and code is as open below it as it
was. -/
theorem run_redirected (linkable : ∀ target file, resolve? target = some file → Linkable file) {run : Run}
    {inCode : Bool} (nonempty : run.content.flatten ≠ []) (cut : Cut inCode [run]) :
    Cut inCode [run.redirect resolve?] ∧ leavesOpen (run.redirect resolve?).content = leavesOpen run.content := by
  cases shade : run.isCode with
  | true =>
      rw [Run.redirect_code shade]
      exact ⟨cut, rfl⟩
  | false =>
      obtain ⟨lines, classes⟩ := cut_singleton_iff.mp cut
      have some : run.content ≠ [] := fun none => nonempty (by rw [none]; rfl)
      rw [Run.marked, shade, classify_prose some] at classes
      have unfenced := @Run.redirect_unfenced resolve? run linkable shade lines classes.2
      have someAgain : (run.redirect resolve?).content ≠ [] := fun none =>
        Run.redirect_nonempty nonempty (by rw [none]; rfl)
      have prose : (run.redirect resolve?).isCode = false := shade
      refine ⟨cut_singleton_iff.mpr ⟨?_, ?_⟩, ?_⟩
      · rw [Run.redirect_flatten, Run.redirect_prose shade]
      · rw [Run.marked, prose, classify_prose someAgain]
        exact ⟨classes.1, unfenced⟩
      · rw [leaves_open_unfenced unfenced, leaves_open_unfenced classes.2]

/-- The first character of runs is that of the first one. -/
theorem runs_head {run : Run} (nonempty : run.content.flatten ≠ []) (runs : List Run) :
    ((run :: runs).flatMap Run.content).flatten.head? = run.content.flatten.head? := by
  rw [List.flatMap_cons, List.flatten_append, List.head?_append_of_ne_nil _ nonempty]

theorem runs_visible {run : Run} (nonempty : run.content.flatten ≠ []) (runs : List Run) :
    (run :: runs).flatMap Run.content ≠ [] := by
  intro none
  rw [List.flatMap_cons, List.append_eq_nil_iff] at none
  exact nonempty (by rw [none.1]; rfl)

/-- Runs of lines stay such when their links are redirected, since what ends the lines stays at their ends. -/
theorem Cut.redirect (linkable : ∀ target file, resolve? target = some file → Linkable file) {runs : List Run}
    {inCode : Bool} (nonempty : ∀ run ∈ runs, run.content.flatten ≠ []) (cut : Cut inCode runs) :
    Cut inCode (runs.map (Run.redirect resolve?)) := by
  induction runs generalizing inCode with
  | nil => exact cut
  | cons run runs ih =>
      rw [List.forall_mem_cons] at nonempty
      cases runs with
      | nil => exact (run_redirected linkable nonempty.1 cut).1
      | cons next runs =>
          have someNext := nonempty.2 next List.mem_cons_self
          obtain ⟨own, behind, broken⟩ := (cut_cons_iff (runs_visible someNext runs)).mp cut
          obtain ⟨again, opens⟩ := run_redirected linkable nonempty.1 own
          have nextAgain := @Run.redirect_nonempty resolve? next someNext
          refine (cut_cons_iff (runs_visible nextAgain _)).mpr ⟨again, opens ▸ ih nonempty.2 behind, ?_⟩
          rw [Broken, runs_head someNext] at broken
          rw [Broken, (run.redirect_ends resolve?).2, ← List.map_cons, List.map_cons, runs_head nextAgain,
            (next.redirect_ends resolve?).1]
          exact broken

theorem Longest.redirect {runs : List Run} (longest : Longest runs)
    (nonempty : ∀ run ∈ runs, run.content.flatten ≠ []) : Longest (runs.map (Run.redirect resolve?)) where
  nonempty := by
    rw [List.forall_mem_map]
    intro run member none
    exact Run.redirect_nonempty (nonempty run member) (by rw [none]; rfl)
  alternating := List.isChain_map (Run.redirect resolve?) |>.mpr longest.alternating

/-- A redirected page is read back with the pieces that it had, the links with their new targets. -/
theorem page_pieces_redirected (linkable : ∀ target file, resolve? target = some file → Linkable file)
    (content : Text) :
    pagePieces (redirect resolve? content) = (pagePieces content).map (Piece.redirect resolve?) := by
  obtain ⟨runs, longest, cut, rfl⟩ := exists_cut content
  have nonempty : ∀ run ∈ runs, run.content.flatten ≠ [] := fun run member =>
    cut.visible member (longest.nonempty run member)
  have again : redirect resolve? (runs.flatMap Run.content).flatten =
      ((runs.map (Run.redirect resolve?)).flatMap Run.content).flatten := by
    rw [redirect_eq, cut.stretches longest, redirectedText, List.flatMap_map, runs_flatten, List.flatMap_map]
    exact List.flatMap_congr fun run _ => (run.redirect_flatten resolve?).symm
  rw [again, pagePieces, (cut.redirect linkable nonempty).stretches (longest.redirect nonempty), pagePieces,
    cut.stretches longest, List.flatMap_map, List.flatMap_map, List.flatMap_map, List.map_flatMap]
  exact List.flatMap_congr fun run _ => run.redirect_pieces linkable

/-! ## Pages redirected once more -/

/-- The file that a link is pointed at when it is redirected twice. -/
def twice (resolve? : Text → Option Text) (target : Text) : Option Text :=
  (resolve? target).map fun file => (resolve? file).getD file

/-- The links that are redirected once more are those to files that name a page themselves. -/
theorem redirected_again (linkable : ∀ target file, resolve? target = some file → Linkable file) (content : Text) :
    redirected resolve? (redirect resolve? content) =
      redirected (fun target => (resolve? target).bind resolve?) content := by
  rw [redirected, page_pieces_redirected linkable, List.countP_map, redirected]
  refine List.countP_congr fun piece _ => ?_
  cases piece with
  | char c => rfl
  | link label target => cases found : resolve? target <;> simp [Piece.redirect, Piece.isRedirected, found]

theorem redirect_again (linkable : ∀ target file, resolve? target = some file → Linkable file) (content : Text) :
    redirect resolve? (redirect resolve? content) = redirect (twice resolve?) content := by
  rw [redirect, page_pieces_redirected linkable, List.flatMap_map, redirect]
  refine List.flatMap_congr fun piece _ => ?_
  cases piece with
  | char c => rfl
  | link label target => cases found : resolve? target <;> simp [Piece.redirect, twice, found]

end Wikidown.Page
