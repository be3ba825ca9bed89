import Wikidown.Batch
import Wikidown.Proofs.Files.Tree
import Wikidown.Proofs.Page.Links
import Wikidown.Proofs.Session

/-!
# Updating the links of a page

What a session is after the links of the page at a path have been updated: the same, or one in which the page
has been written once.
-/

namespace Wikidown

set_option autoImplicit false

namespace Batch

variable {slugOf : Text → Text} {index : Page.Index} {session finished : Session} {path text : Text}
  {changed : Nat}

/-- A page with links to other pages is written with these links redirected; one without is not written. -/
theorem update_links_of_text (found : session.tree.read path = .ok (.text text)) :
    Page.redirected (Page.resolve slugOf index) text = 0 ∧
        (updateLinks slugOf index path).perform session = (.ok 0, session) ∨
      Page.redirected (Page.resolve slugOf index) text ≠ 0 ∧ ∃ tree,
        session.tree.write path (Page.redirect (Page.resolve slugOf index) text) = .ok tree ∧
          (updateLinks slugOf index path).perform session =
            (.ok (Page.redirected (Page.resolve slugOf index) text), { session with tree := tree }) := by
  rw [updateLinks, Job.perform_bind, Job.perform_tree]
  dsimp only
  rw [found]
  dsimp only
  by_cases none : Page.redirected (Page.resolve slugOf index) text = 0
  · rw [if_pos none]
    exact .inl ⟨none, rfl⟩
  · obtain ⟨tree, written⟩ := FileTree.write_of_read found (Page.redirect (Page.resolve slugOf index) text)
    refine .inr ⟨none, tree, written, ?_⟩
    rw [if_neg none, Job.perform_bind, Job.perform_tree]
    dsimp only
    rw [written]
    rfl

theorem update_links_of_no_text (unread : ∀ text, session.tree.read path ≠ .ok (.text text))
    (done : (updateLinks slugOf index path).perform session = (.ok changed, finished)) :
    finished.tree = session.tree := by
  rw [updateLinks, Job.perform_bind, Job.perform_tree] at done
  dsimp only at done
  split at done
  · split at done
    · rw [Job.perform_bind, Job.perform_throw] at done
      simp at done
    · rw [← (Prod.mk.inj done).2]
  · rw [Job.perform_throw] at done
    simp at done
  · next text found => exact absurd found (unread text)

/-- Updating the links of a page touches no file but its own. -/
theorem update_links_tree (done : (updateLinks slugOf index path).perform session = (.ok changed, finished)) :
    finished.tree = session.tree ∨ ∃ content, session.tree.write path content = .ok finished.tree := by
  by_cases read : ∃ text, session.tree.read path = .ok (.text text)
  · obtain ⟨text, found⟩ := read
    rcases @update_links_of_text slugOf index session path text found with
      ⟨_, run⟩ | ⟨_, tree, written, run⟩
    · obtain rfl := (Prod.mk.inj (run.symm.trans done)).2
      exact .inl rfl
    · obtain rfl := (Prod.mk.inj (run.symm.trans done)).2
      exact .inr ⟨_, written⟩
  · exact .inl (update_links_of_no_text (not_exists.mp read) done)

end Batch

end Wikidown
