import Wikidown.Proofs.Batch.Links
import Wikidown.Proofs.Page.Fences

/-!
# What updating the links of a page changes

The links of a text are those that a reader meets from left to right: each link is taken where it begins, and
reading goes on behind it. Updating a page replaces the targets of the links outside code that name a page,
counts them, and leaves all else where it is; a page without such links is not written.
-/

namespace Wikidown

set_option autoImplicit false

namespace Page

variable {resolve? : Text → Option Text}

/-- A link begins here that is not the rest of an image. -/
def LinkAhead (previous : Option Char) (text : Text) : Prop :=
  previous ≠ some '!' ∧
    ∃ label target rest, Readable label target ∧ text = (Piece.link label target).text ++ rest

/-- The pieces that a text after the character `previous` has when it is read from left to right. -/
inductive Scanned : Option Char → Text → List Piece → Prop where
  | done (previous : Option Char) : Scanned previous [] []
  | link {previous : Option Char} {label target rest : Text} {pieces : List Piece}
      (free : previous ≠ some '!') (readable : Readable label target) (behind : Scanned (some ')') rest pieces) :
      Scanned previous ((Piece.link label target).text ++ rest) (.link label target :: pieces)
  | char {previous : Option Char} {c : Char} {text : Text} {pieces : List Piece}
      (other : ¬ LinkAhead previous (c :: text)) (behind : Scanned (some c) text pieces) :
      Scanned previous (c :: text) (.char c :: pieces)

theorem link_ahead_iff {previous : Option Char} {text : Text} :
    LinkAhead previous text ↔ previous ≠ some '!' ∧ ∃ found, readLink? text = some found := by
  refine and_congr_right fun _ => ⟨?_, ?_⟩
  · rintro ⟨label, target, rest, readable, rfl⟩
    exact ⟨_, readable.read rest⟩
  · rintro ⟨⟨label, target, rest⟩, found⟩
    exact ⟨label, target, rest, readable_of_read found, (read_link_text found).symm⟩

/-- There is one way to read a text, which is the one that the links are updated by. -/
theorem scanned_iff {previous : Option Char} {text : Text} {pieces : List Piece} :
    Scanned previous text pieces ↔ pieces = piecesAfter previous text := by
  constructor
  · intro scanned
    induction scanned with
    | done previous => rw [piecesAfter]
    | link free readable behind ih => rw [readable.pieces free, ih]
    | @char previous c text pieces other behind ih =>
        rw [link_ahead_iff] at other
        rw [piecesAfter]
        split
        · next found =>
            split at found
            · simp at found
            · next free => exact absurd ⟨free, _, found⟩ other
        · rw [ih]
  · rintro rfl
    fun_induction piecesAfter previous text with
    | case1 previous => exact .done previous
    | case2 previous c text label target rest found ih =>
        split at found
        · simp at found
        · next free =>
            rw [← read_link_text found]
            exact .link free (readable_of_read found) ih
    | case3 previous c text nothing ih =>
        refine .char (fun ahead => ?_) ih
        obtain ⟨free, _, found⟩ := link_ahead_iff.mp ahead
        rw [dif_neg free, found] at nothing
        simp at nothing

/-- What stretches of a page become, and the number of links that change: code stays, and in other text the
links that resolve get other targets. -/
inductive Relinked (resolve? : Text → Option Text) : List Stretch → Text → Nat → Prop where
  | done : Relinked resolve? [] [] 0
  | code {text updated : Text} {rest : List Stretch} {changed : Nat}
      (behind : Relinked resolve? rest updated changed) :
      Relinked resolve? (⟨true, text⟩ :: rest) (text ++ updated) changed
  | prose {text updated : Text} {pieces : List Piece} {rest : List Stretch} {changed : Nat}
      (scanned : Scanned none text pieces) (behind : Relinked resolve? rest updated changed) :
      Relinked resolve? (⟨false, text⟩ :: rest)
        (pieces.flatMap (fun piece => (piece.redirect resolve?).text) ++ updated)
        (pieces.countP (Piece.isRedirected resolve?) + changed)

/-- No character of code is part of a link. -/
theorem code_kept (text : Text) :
    (Stretch.mk true text).pieces.flatMap (fun piece => (piece.redirect resolve?).text) = text ∧
      (Stretch.mk true text).pieces.countP (Piece.isRedirected resolve?) = 0 := by
  have pieces : (Stretch.mk true text).pieces = text.map .char := rfl
  constructor
  · simp [pieces, List.flatMap_map, Piece.redirect, Piece.text]
  · simp [pieces, List.countP_map, Function.comp_def, Piece.isRedirected]

theorem relinked_pieces_iff {content : List Stretch} {updated : Text} {changed : Nat} :
    Relinked resolve? content updated changed ↔ updated = redirectedText resolve? content ∧
      changed = (content.flatMap Stretch.pieces).countP (Piece.isRedirected resolve?) := by
  have cut (stretch : Stretch) (rest : List Stretch) : redirectedText resolve? (stretch :: rest) =
      stretch.pieces.flatMap (fun piece => (piece.redirect resolve?).text) ++ redirectedText resolve? rest :=
    List.flatMap_cons
  constructor
  · intro relinked
    induction relinked with
    | done => exact ⟨rfl, rfl⟩
    | @code text _ rest _ behind ih =>
        rw [cut, List.flatMap_cons, List.countP_append, (code_kept text).1, (code_kept text).2, ← ih.1,
          ← ih.2]
        exact ⟨rfl, (Nat.zero_add _).symm⟩
    | prose scanned behind ih =>
        rw [cut, List.flatMap_cons, List.countP_append, ← ih.1, ← ih.2, scanned_iff.mp scanned]
        exact ⟨rfl, rfl⟩
  · rintro ⟨rfl, rfl⟩
    induction content with
    | nil => exact .done
    | cons stretch rest ih =>
        obtain ⟨isCode, text⟩ := stretch
        rw [cut, List.flatMap_cons, List.countP_append]
        cases isCode with
        | true =>
            rw [(code_kept text).1, (code_kept text).2, Nat.zero_add]
            exact .code ih
        | false => exact .prose (scanned_iff.mpr rfl) ih

theorem relinked_iff {content updated : Text} {changed : Nat} :
    Relinked resolve? (stretches content) updated changed ↔
      updated = redirect resolve? content ∧ changed = redirected resolve? content := by
  rw [relinked_pieces_iff, redirect_eq]
  rfl

end Page

namespace Batch

/-- What updating the links of a page at `path` does in a session, for a page with `changed` links to other
pages and the text `updated` with these links pointed at the files of the pages. -/
structure LinksUpdated (slugOf : Text → Text) (index : Page.Index) (session : Session)
    (path content updated : Text) (changed : Nat) : Prop where
  whole : (Page.stretches content).flatMap Page.Stretch.text = content
  relinked : ∀ other count, Page.Relinked (Page.resolve slugOf index) (Page.stretches content) other count ↔
    other = updated ∧ count = changed
  unwritten : changed = 0 → (updateLinks slugOf index path).perform session = (.ok 0, session)
  written : changed ≠ 0 → ∃ tree, session.tree.write path updated = .ok tree ∧
    tree.read path = .ok (.text updated) ∧
      (updateLinks slugOf index path).perform session = (.ok changed, { session with tree := tree })

end Batch

open Batch in
/-- Whatever a page holds and whatever pages there are, updating its links changes exactly the targets outside
code that name a page, and gives their number. -/
theorem links_updated (slugOf : Text → Text) (index : Page.Index) {session : Session} {path content : Text}
    (found : session.tree.read path = .ok (.text content)) :
    ∃ updated changed, LinksUpdated slugOf index session path content updated changed := by
  refine ⟨Page.redirect (Page.resolve slugOf index) content, Page.redirected (Page.resolve slugOf index) content,
    Page.stretches_text content, fun _ _ => Page.relinked_iff, fun none => ?_, fun some => ?_⟩
  · rcases @update_links_of_text slugOf index session path content found with ⟨_, done⟩ | ⟨some, _⟩
    · exact done
    · exact absurd none some
  · rcases @update_links_of_text slugOf index session path content found with
      ⟨none, _⟩ | ⟨_, tree, written, done⟩
    · exact absurd none some
    · exact ⟨tree, written, FileTree.read_of_write written, done⟩

/-- A page with carriage returns, an image, code and a link to nowhere beside two links to a page. -/
def linkedPage : Text :=
  ("[a](Home) ![b](Home)\r\n\x60\x60\x60\r\n[c](Home)\r\n\x60\x60\x60\r\n" ++
    "[d](Away)\r\n[e\r\nf]( home )").toList

def linkedSession : Session where
  tree := { entries := [(["page.md".toList], .file (.text linkedPage))] }

def homePages : Page.Index := [⟨"home".toList, "home".toList, "Home".toList⟩]

theorem links_updated_beside_code :
    linkedSession.tree.read "page.md".toList = .ok (.text linkedPage) ∧
      (∃ updated changed,
        Batch.LinksUpdated id homePages linkedSession "page.md".toList linkedPage updated changed) ∧
      ((Batch.updateLinks id homePages "page.md".toList).perform linkedSession).1 = .ok 2 ∧
      ((Batch.updateLinks id homePages "page.md".toList).perform linkedSession).2.tree.read "page.md".toList =
        .ok (.text ("[a](home.md) ![b](Home)\r\n\x60\x60\x60\r\n[c](Home)\r\n\x60\x60\x60\r\n" ++
          "[d](Away)\r\n[e\r\nf](home.md)").toList) :=
  ⟨by decide +kernel, links_updated id homePages (by decide +kernel), by decide +kernel, by decide +kernel⟩

end Wikidown
