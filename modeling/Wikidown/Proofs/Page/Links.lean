import Mathlib.Data.List.TakeWhile
import Wikidown.Page.Link
import Wikidown.Proofs.Text.Rewrite

/-!
# Links of pages

A page is its pieces one after another. Redirecting changes the targets of links and nothing else, and only
to the files of pages that are in the index. A link is read back as it is written where nothing in its label
or its target is taken for their end.
-/

namespace Wikidown.Page

set_option autoImplicit false

variable {resolve? : Text → Option Text} {content : Text}

theorem stretch_pieces_text (stretch : Stretch) : stretch.pieces.flatMap Piece.text = stretch.text := by
  unfold Stretch.pieces
  split
  · simp [List.flatMap_map, Piece.text]
  · exact pieces_after_text none stretch.text

/-- The pieces of a page lose nothing of it. -/
theorem page_pieces_text (content : Text) : (pagePieces content).flatMap Piece.text = content := by
  rw [pagePieces, List.flatMap_assoc]
  simp only [stretch_pieces_text]
  exact stretches_text content

theorem redirect_of_unredirected {piece : Piece} (kept : ¬ piece.isRedirected resolve? = true) :
    piece.redirect resolve? = piece := by
  cases piece with
  | char c => rfl
  | link label target =>
      have none : resolve? target = none := by simpa [Piece.isRedirected] using kept
      rw [Piece.redirect, none]
      rfl

/-- A page without links to redirect stays as it is. -/
theorem redirect_of_none (none : redirected resolve? content = 0) : redirect resolve? content = content := by
  rw [redirected, List.countP_eq_zero] at none
  have same : redirect resolve? content = (pagePieces content).flatMap Piece.text :=
    List.flatMap_congr fun piece member => by rw [redirect_of_unredirected (none piece member)]
  rw [same, page_pieces_text]

/-- A target is resolved to the file of a page of the index. -/
theorem resolve_in_index {slugOf : Text → Text} {index : Index} {target file : Text}
    (resolved : resolve slugOf index target = some file) : ∃ entry ∈ index, file = pageFile entry.slug := by
  rw [resolve] at resolved
  dsimp only at resolved
  split at resolved
  · simp at resolved
  · obtain ⟨entry, found, rfl⟩ := Option.map_eq_some_iff.mp resolved
    refine ⟨entry, ?_, rfl⟩
    rcases Option.or_eq_some_iff.mp found with titled | ⟨_, keyed⟩
    · exact List.mem_of_find?_eq_some titled
    · exact List.mem_of_find?_eq_some keyed

/-! ## Reading what is written -/

section Reading

variable {previous : Option Char} {label target text rest : Text}

/-- A label and a target of which no part is taken for the end of the link. -/
structure Readable (label target : Text) : Prop where
  unclosed : ']' ∉ label
  nonempty : target ≠ []
  unended : ')' ∉ target
  whole : '\n' ∉ target

theorem readable_of_read (found : readLink? text = some (label, target, rest)) : Readable label target := by
  simp only [readLink?, Option.bind_eq_bind, Option.bind_eq_some_iff] at found
  obtain ⟨labelled, _, afterLabel, _, found⟩ := found
  split at found
  · simp at found
  · next visible =>
      obtain ⟨_, _, shape⟩ := Option.bind_eq_some_iff.mp found
      simp only [Option.some.injEq, Prod.mk.injEq] at shape
      obtain ⟨rfl, rfl, _⟩ := shape
      exact {
        unclosed := fun member => by simpa using List.mem_takeWhile_imp member
        nonempty := by simpa using visible
        unended := fun member => by simpa using List.mem_takeWhile_imp member
        whole := fun member => by simpa using List.mem_takeWhile_imp member }

theorem Readable.read (readable : Readable label target) (rest : Text) :
    readLink? ((Piece.link label target).text ++ rest) = some (label, target, rest) := by
  have inLabel : ∀ c ∈ label, (c != ']') = true := fun c member => by
    simpa using ne_of_mem_of_not_mem member readable.unclosed
  have inTarget : ∀ c ∈ target, (c != ')' && c != '\n') = true := fun c member => by
    simpa using ⟨ne_of_mem_of_not_mem member readable.unended, ne_of_mem_of_not_mem member readable.whole⟩
  have split : (Piece.link label target).text ++ rest =
      "[".toList ++ (label ++ ']' :: '(' :: (target ++ ')' :: rest)) := by simp [Piece.text]
  have opens : after? "](".toList (']' :: '(' :: (target ++ ')' :: rest)) = some (target ++ ')' :: rest) :=
    after_eq_some.mpr rfl
  have ends : after? ")".toList (')' :: rest) = some rest := after_eq_some.mpr rfl
  have visible : target.isEmpty = false := by simpa using readable.nonempty
  rw [readLink?, split, after_eq_some.mpr rfl]
  simp only [Option.bind_eq_bind, Option.bind_some]
  rw [drop_while_append_stop (by decide), take_while_append_stop (by decide),
    List.dropWhile_eq_nil_iff.mpr inLabel, List.takeWhile_eq_self_iff.mpr inLabel, List.nil_append, opens]
  simp only [Option.bind_some]
  rw [drop_while_append_stop (by decide), take_while_append_stop (by decide),
    List.dropWhile_eq_nil_iff.mpr inTarget, List.takeWhile_eq_self_iff.mpr inTarget, List.nil_append, ends]
  simp [visible]

/-- A link is read where it stands, whatever stands behind it. -/
theorem Readable.pieces (readable : Readable label target) (free : previous ≠ some '!') (rest : Text) :
    piecesAfter previous ((Piece.link label target).text ++ rest) =
      .link label target :: piecesAfter (some ')') rest := by
  have found := readable.read rest
  rw [Piece.text, List.cons_append] at found ⊢
  rw [piecesAfter]
  split
  · next read =>
      rw [if_neg free, found] at read
      obtain ⟨rfl, rfl, rfl⟩ := by simpa using read
      rfl
  · next nothing =>
      rw [if_neg free, found] at nothing
      simp at nothing

theorem readable_of_mem_pieces (member : .link label target ∈ piecesAfter previous text) :
    Readable label target := by
  fun_induction piecesAfter previous text with
  | case1 => exact absurd member List.not_mem_nil
  | case2 previous c text first second rest found ih =>
      rcases List.mem_cons.mp member with same | later
      · obtain ⟨rfl, rfl⟩ := Piece.link.inj same
        split at found
        · simp at found
        · exact readable_of_read found
      · exact ih later
  | case3 previous c text nothing ih =>
      rcases List.mem_cons.mp member with same | later
      · exact absurd same (by simp)
      · exact ih later

/-- The links that are read back as they are written. -/
theorem pieces_link_iff (free : previous ≠ some '!') :
    piecesAfter previous (Piece.link label target).text = [.link label target] ↔ Readable label target := by
  constructor
  · intro read
    exact readable_of_mem_pieces (read ▸ List.mem_singleton_self _)
  · intro readable
    have read := readable.pieces free []
    rwa [List.append_nil, piecesAfter] at read

theorem pieces_of_unopened (unopened : '[' ∉ text) : piecesAfter previous text = text.map .char := by
  induction text generalizing previous with
  | nil => rw [piecesAfter, List.map_nil]
  | cons c text ih =>
      rw [List.mem_cons, not_or] at unopened
      have nothing : readLink? (c :: text) = none := by
        have closed : after? "[".toList (c :: text) = none :=
          after_cons_eq_none (by decide) (by simpa using Ne.symm unopened.1)
        rw [readLink?, closed]
        rfl
      rw [piecesAfter]
      split
      · next read =>
          rw [nothing] at read
          simp at read
      · rw [ih unopened.2, List.map_cons]

end Reading

end Wikidown.Page
