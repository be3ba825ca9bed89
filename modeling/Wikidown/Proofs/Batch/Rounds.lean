import Mathlib.Algebra.GroupWithZero.Nat
import Wikidown.Proofs.BatchPages

/-!
# Rounds of updating links

Updating the links of pages goes through the files of the pages, one after another. A round gets over a page
that is a text or that the system does not read; it writes the pages with links to other pages, and each of
them once.
-/

namespace Wikidown

set_option autoImplicit false

namespace Batch

open FileTree

variable {slugOf : Text → Text} {index pages : Page.Index} {directory path : Text} {paths : List Text}
  {session between finished : Session} {here rest changed : Nat} {resolve? : Text → Option Text}

/-- Updating links gets over what is read of a page. -/
def Updatable : Except FileError Content → Prop
  | .ok (.text _) => True
  | .ok (.raw _) => False
  | .error error => error.isSystemError = true

/-- The number of links that are redirected in what is read of a page. -/
def redirectedIn (resolve? : Text → Option Text) : Except FileError Content → Nat
  | .ok (.text text) => Page.redirected resolve? text
  | _ => 0

/-- What is read of a page after its links have been redirected. -/
def redirectIn (resolve? : Text → Option Text) : Except FileError Content → Except FileError Content
  | .ok (.text text) => .ok (.text (Page.redirect resolve? text))
  | other => other

theorem updatable_redirect {found : Except FileError Content} (updatable : Updatable found) :
    Updatable (redirectIn resolve? found) := by
  rcases found with error | _ | _
  · exact updatable
  · trivial
  · exact updatable

/-- What a round through the files at `paths` does to a session: the links of each file are redirected, nothing
else is touched, and nothing at all if there are no links to redirect. -/
structure Round (resolve? : Text → Option Text) (session finished : Session) (paths : List Text)
    (changed : Nat) : Prop where
  count : changed = (paths.map fun path => redirectedIn resolve? (session.tree.read path)).sum
  pages : ∀ path ∈ paths, finished.tree.read path = redirectIn resolve? (session.tree.read path)
  elsewhere : ∀ path, placeNamed session.tree.current path ∉ paths.map (placeNamed session.tree.current) →
    finished.tree.read path = session.tree.read path
  current : finished.tree.current = session.tree.current
  unwritten : changed = 0 → finished.tree = session.tree

theorem Round.nil (resolve? : Text → Option Text) (session : Session) : Round resolve? session session [] 0 where
  count := rfl
  pages _ member := absurd member List.not_mem_nil
  elsewhere _ _ := rfl
  current := rfl
  unwritten _ := rfl

/-- Writing the first file leaves the others as they were. -/
theorem Round.behind (first : Round resolve? session between [path] here)
    (apart : ((path :: paths).map (placeNamed session.tree.current)).Nodup) :
    ∀ other ∈ paths, between.tree.read other = session.tree.read other := by
  intro other member
  rw [List.map_cons, List.nodup_cons] at apart
  refine first.elsewhere other fun same => apart.1 ?_
  rw [← List.mem_singleton.mp same]
  exact List.mem_map_of_mem member

/-- A round goes through the first file and then through the others. -/
theorem Round.cons (first : Round resolve? session between [path] here)
    (others : Round resolve? between finished paths rest)
    (apart : ((path :: paths).map (placeNamed session.tree.current)).Nodup) :
    Round resolve? session finished (path :: paths) (here + rest) := by
  have behind := first.behind apart
  rw [List.map_cons, List.nodup_cons] at apart
  constructor
  · have counts : (paths.map fun path => redirectedIn resolve? (between.tree.read path)) =
        paths.map fun path => redirectedIn resolve? (session.tree.read path) :=
      List.map_congr_left fun other member => by rw [behind other member]
    rw [first.count, others.count, counts]
    simp
  · rw [List.forall_mem_cons]
    refine ⟨?_, fun other member => by rw [others.pages other member, behind other member]⟩
    rw [others.elsewhere path (first.current ▸ apart.1)]
    exact first.pages path List.mem_cons_self
  · intro other away
    rw [List.map_cons, List.mem_cons, not_or] at away
    rw [others.elsewhere other (first.current ▸ away.2)]
    exact first.elsewhere other (by simpa using away.1)
  · exact others.current.trans first.current
  · intro none
    rw [Nat.add_eq_zero_iff] at none
    rw [others.unwritten none.2, first.unwritten none.1]

/-- Updating the links of one page is a round through its file. -/
theorem update_links_round (slugOf : Text → Text) (index : Page.Index)
    (updatable : Updatable (session.tree.read path)) :
    ∃ changed finished, (updateLinks slugOf index path).perform session = (.ok changed, finished) ∧
      Round (Page.resolve slugOf index) session finished [path] changed := by
  cases found : session.tree.read path with
  | error error =>
      rw [found] at updatable
      refine ⟨0, { session with records := session.records ++ [⟨.warning,
        "Error reading file ".toList ++ path ++ ": ".toList ++ error.message⟩] }, ?_, ?_⟩
      · rw [updateLinks, Job.perform_bind, Job.perform_tree]
        dsimp only
        rw [found]
        dsimp only
        rw [updatable]
        rfl
      · exact ⟨by simp [found, redirectedIn], by simp [found, redirectIn], fun _ _ => rfl, rfl, fun _ => rfl⟩
  | ok content =>
      cases content with
      | raw bytes =>
          rw [found] at updatable
          exact updatable.elim
      | text text =>
          rcases @update_links_of_text slugOf index session path text found with
            ⟨none, run⟩ | ⟨some, tree, written, run⟩
          · refine ⟨_, _, run, ⟨by simp [found, redirectedIn, none], ?_, fun _ _ => rfl, rfl, fun _ => rfl⟩⟩
            simp [found, redirectIn, Page.redirect_of_none none]
          · refine ⟨_, _, run, ⟨by simp [found, redirectedIn], ?_, ?_, (write_grows written).current, ?_⟩⟩
            · simp [found, redirectIn, read_of_write written]
            · exact fun other away => read_of_write_again found written (by simpa using away)
            · exact fun none => absurd none some

theorem updatable_of_updated (done : (updateLinks slugOf index path).perform session = (.ok changed, finished)) :
    Updatable (session.tree.read path) := by
  rw [updateLinks, Job.perform_bind, Job.perform_tree] at done
  dsimp only at done
  split at done
  · next error found =>
      rw [found]
      cases system : error.isSystemError with
      | true => exact system
      | false =>
          rw [if_pos (by simp [system]), Job.perform_bind, Job.perform_throw] at done
          simp at done
  · rw [Job.perform_throw] at done
    simp at done
  · next text found =>
      rw [found]
      trivial

/-- The files of pages. -/
def pagePaths (directory : Text) (pages : Page.Index) : List Text :=
  pages.map fun entry => pagePath directory entry.slug

theorem update_all_links_round (slugOf : Text → Text) (index : Page.Index)
    (updatable : ∀ path ∈ pagePaths directory pages, Updatable (session.tree.read path))
    (apart : ((pagePaths directory pages).map (placeNamed session.tree.current)).Nodup) :
    ∃ changed finished, (updateAllLinks slugOf directory index pages).perform session = (.ok changed, finished) ∧
      Round (Page.resolve slugOf index) session finished (pagePaths directory pages) changed := by
  induction pages generalizing session with
  | nil => exact ⟨0, session, rfl, .nil _ session⟩
  | cons entry pages ih =>
      rw [pagePaths, List.map_cons, ← pagePaths] at updatable apart
      rw [List.forall_mem_cons] at updatable
      obtain ⟨here, between, done, round⟩ := update_links_round slugOf index updatable.1
      obtain ⟨rest, finished, others, rounds⟩ := @ih between
        (fun path member => by rw [round.behind apart path member]; exact updatable.2 path member)
        (by rw [round.current]; exact apart.of_cons)
      refine ⟨here + rest, finished, ?_, round.cons rounds apart⟩
      rw [updateAllLinks, Job.perform_bind_ok]
      refine ⟨here, between, done, ?_⟩
      rw [Job.perform_bind_ok]
      exact ⟨rest, finished, others, rfl⟩

/-- A round that has come to its end has got over all pages. -/
theorem updatable_of_all_updated (apart : ((pagePaths directory pages).map (placeNamed session.tree.current)).Nodup)
    (done : (updateAllLinks slugOf directory index pages).perform session = (.ok changed, finished)) :
    ∀ path ∈ pagePaths directory pages, Updatable (session.tree.read path) := by
  induction pages generalizing session changed with
  | nil => exact fun _ member => absurd member List.not_mem_nil
  | cons entry pages ih =>
      obtain ⟨here, between, rest, first, others⟩ := update_all_links_cons done
      rw [pagePaths, List.map_cons, ← pagePaths] at apart ⊢
      have updatable := updatable_of_updated first
      obtain ⟨_, after, run, round⟩ := update_links_round slugOf index updatable
      obtain rfl : after = between := (Prod.mk.inj (run.symm.trans first)).2
      refine List.forall_mem_cons.mpr ⟨updatable, fun path member => ?_⟩
      have kept := @ih after rest (by rw [round.current]; exact apart.of_cons) others path member
      rwa [round.behind apart path member] at kept

end Batch

end Wikidown
