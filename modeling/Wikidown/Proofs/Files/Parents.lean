import Wikidown.Proofs.Files.Standing

/-!
# Directories with their parents

Where the directory of a normal path has been made, any other form of the path leads to it, unless the form is
too long. A failure to make it is one of the system, unless the path has a NUL character.
-/

namespace Wikidown

set_option autoImplicit false

namespace FileTree

variable {tree : FileTree} {place here : Place} {path : Text} {names : List Text}

/-! ## Normal paths -/

/-- A name that leads somewhere else. -/
def moves (name : Text) : Bool := !name.isEmpty && name != ".".toList

theorem step_to_here {name : Text} (stays : moves name = false) (here : Place) : stepTo here name = here := by
  rw [stepTo, if_pos]
  simpa [moves, or_iff_not_imp_left] using stays

theorem walk_starts_in_directory (found : tree.walk here names = .ok place)
    (directory : tree.entry? place = some .directory) : tree.entry? here = some .directory := by
  cases names with
  | nil =>
      rw [walk] at found
      rwa [Except.ok.inj found]
  | cons name names => exact (walk_cons_iff.mp found).1

/-- On the way to a directory the names that lead nowhere else make no difference. -/
theorem walk_of_moves (found : tree.walk here (names.filter moves) = .ok place)
    (directory : tree.entry? place = some .directory) : tree.walk here names = .ok place := by
  induction names generalizing here with
  | nil => exact found
  | cons name names ih =>
      cases leads : moves name with
      | true =>
          rw [List.filter_cons_of_pos leads] at found
          obtain ⟨inside, short, rest⟩ := walk_cons_iff.mp found
          exact walk_cons_iff.mpr ⟨inside, short, ih rest⟩
      | false =>
          rw [List.filter_cons_of_neg (by simp [leads])] at found
          have small : byteLength name ≤ nameLimit := by
            have known : name = [] ∨ name = ".".toList := by
              simpa [moves, or_iff_not_imp_left] using leads
            rcases known with rfl | rfl <;> decide
          refine walk_cons_iff.mpr ⟨walk_starts_in_directory found directory, small, ?_⟩
          rw [step_to_here leads]
          exact ih found

theorem mem_normal_text (path : Path.Normal) {c : Char} (slash : c ≠ '/') (dot : c ≠ '.') :
    c ∈ path.text ↔ c ∈ path.root ∨ ∃ part ∈ path.parts, c ∈ part := by
  have whole : c ∈ path.text ↔ c ∈ path.root ++ joined '/' path.parts := by
    rw [Path.Normal.text]
    split
    · next empty => simp [empty, dot]
    · rfl
  rw [whole, List.mem_append]
  refine or_congr_right ⟨fun member => (mem_joined member).resolve_left slash, ?_⟩
  rintro ⟨part, inside, member⟩
  exact mem_joined_of_mem inside member

/-- The slashes at the start of a normal path, and where its way starts. -/
theorem normal_root (current : Place) (path : Text) :
    (Path.normal path).root = [] ∧ start current path = current ∨
      ∃ count, (Path.normal path).root = List.replicate (count + 1) '/' ∧ start current path = [] := by
  rw [Path.normal]
  dsimp only
  cases path with
  | nil => exact .inl ⟨rfl, rfl⟩
  | cons c rest =>
      rw [start_cons]
      by_cases slash : c = '/'
      · subst slash
        rw [if_pos rfl]
        refine .inr ?_
        split
        · exact ⟨1, rfl, rfl⟩
        · next none => simp at none
        · exact ⟨0, rfl, rfl⟩
      · rw [if_neg slash, List.takeWhile_cons_of_neg (by simpa using slash)]
        exact .inl ⟨rfl, rfl⟩

theorem nul_mem_normal_iff (path : Text) : '\x00' ∈ (Path.normal path).text ↔ '\x00' ∈ path := by
  have clean : '\x00' ∉ (Path.normal path).root := by
    rcases normal_root [] path with ⟨root, _⟩ | ⟨count, root, _⟩
    · rw [root]
      exact List.not_mem_nil
    · rw [root]
      exact fun slash => absurd (List.eq_of_mem_replicate slash) (by decide)
  rw [mem_normal_text _ (by decide) (by decide), or_iff_right clean]
  constructor
  · rintro ⟨part, inside, member⟩
    exact mem_of_mem_piece (List.mem_filter.mp inside).1 member
  · intro member
    obtain ⟨piece, inside, here⟩ := exists_mem_piece member (show '\x00' ≠ '/' by decide)
    refine ⟨piece, List.mem_filter.mpr ⟨inside, ?_⟩, here⟩
    have named : piece ≠ [] := List.ne_nil_of_mem here
    have other : piece ≠ ".".toList := by
      rintro rfl
      exact absurd here (by decide)
    simpa [named] using other

theorem walk_joined {parts : List Text} (whole : ∀ part ∈ parts, '/' ∉ part)
    (found : tree.walk here (pieces '/' (joined '/' parts)) = .ok place) : tree.walk here parts = .ok place := by
  by_cases none : parts = []
  · subst none
    exact (walk_cons_iff.mp found).2.2
  · rwa [pieces_joined none whole] at found

theorem pieces_front_slashes (count : Nat) (text : Text) :
    pieces '/' (List.replicate count '/' ++ text) = List.replicate count [] ++ pieces '/' text := by
  induction count with
  | zero => rfl
  | succ count ih =>
      rw [List.replicate_succ, List.replicate_succ, List.cons_append, List.cons_append, ← ih]
      rfl

/-- What a path leads to by its normal form it leads to itself, however long it is. -/
theorem stands_of_normal (stands : Standing tree (Path.normal path).text) (named : path ≠ []) :
    Standing tree path := by
  have clean := (nul_mem_normal_iff path).not.mp stands.clean
  have names : ∀ part ∈ (Path.normal path).parts, '/' ∉ part ∧ part ≠ [] := by
    intro part member
    obtain ⟨inside, proper⟩ := List.mem_filter.mp member
    refine ⟨separator_not_mem_piece inside, ?_⟩
    rintro rfl
    simp at proper
  obtain ⟨-, -, place, way, directory⟩ := stands
  refine ⟨clean, named, place, walk_of_moves ?_ directory, directory⟩
  change tree.walk (start tree.current path) (Path.normal path).parts = .ok place
  rw [Path.Normal.text] at way
  rcases normal_root tree.current path with ⟨root, relative⟩ | ⟨count, root, absolute⟩
  · rw [relative]
    rw [root, List.nil_append] at way
    cases parts : (Path.normal path).parts with
    | nil =>
        rw [parts] at way
        exact (walk_cons_iff.mp way).2.2
    | cons first more =>
        rw [parts] at names way
        obtain ⟨whole, visible⟩ := names first List.mem_cons_self
        obtain ⟨c, rest, rfl⟩ := List.exists_cons_of_ne_nil visible
        have other : c ≠ '/' := fun same => whole (same ▸ List.mem_cons_self)
        rw [joined_cons_char] at way
        dsimp only at way
        rw [start_cons, if_neg other, ← joined_cons_char] at way
        exact walk_joined (fun part member => (names part member).1) way
  · rw [absolute]
    rw [root, List.replicate_succ, List.cons_append] at way
    dsimp only at way
    rw [start_cons, if_pos rfl, ← List.cons_append, ← List.replicate_succ, pieces_front_slashes,
      walk_append_iff] at way
    obtain ⟨between, slashes, rest⟩ := way
    have still : between = [] := (walk_place slashes).trans (fold_empty_names _ [])
    rw [still] at rest
    exact walk_joined (fun part member => (names part member).1) rest

end FileTree

namespace FileJob

open FileTree

variable {tree made : FileTree} {path : Path.Normal} {error : FileError}

theorem run_make_with_parents (path : Path.Normal) (tree : FileTree) :
    ((makeWithParents path).run tree).run =
      match tree.makeDirectory path.text with
      | .ok made => (.ok (), made)
      | .error error =>
          if error.cause = .noEntry then
            if path.parts = [] then (.error error, tree)
            else
              match ((makeWithParents { path with parts := path.parts.dropLast }).run tree).run with
              | (.error fault, between) => (.error fault, between)
              | (.ok (), between) =>
                  match between.makeDirectory path.text with
                  | .ok made => (.ok (), made)
                  | .error again =>
                      if again.cause = .noEntry then (.error again, between)
                      else (if between.isDirectory path.text then .ok () else .error again, between)
          else (if tree.isDirectory path.text then .ok () else .error error, tree) := by
  have unlessThere (error : FileError) (tree : FileTree) :
      ((unlessDirectory path.text (throw error)).run tree).run =
        (if tree.isDirectory path.text then .ok () else .error error, tree) := by
    rw [unlessDirectory, run_try_catch]
    change ((if tree.isDirectory path.text = true then (pure () : FileJob Unit) else throw error).run tree).run = _
    cases tree.isDirectory path.text <;> rfl
  rw [makeWithParents, run_try_catch, run_change]
  cases tree.makeDirectory path.text with
  | ok made => rfl
  | error error =>
      dsimp only
      split
      · split
        · rfl
        · rw [run_bind]
          rcases ((makeWithParents { path with parts := path.parts.dropLast }).run tree).run with ⟨fault | _, between⟩
          · rfl
          · dsimp only
            rw [run_try_catch, run_change]
            cases between.makeDirectory path.text with
            | ok made => rfl
            | error again =>
                dsimp only
                split
                · rfl
                · exact unlessThere again between
      · exact unlessThere error tree

/-- What making a directory with its parents comes to: it only adds directories, the directory is there where it
succeeds, and where it fails the error is one of the system. -/
structure MadeWithParents (path : Path.Normal) (tree : FileTree) (result : Except FileError Unit)
    (made : FileTree) : Prop where
  extended : Extends tree made
  there : result = .ok () → made.isDirectory path.text = true
  failed : ∀ error, result = .error error → error.isSystemError = true

theorem MadeWithParents.completed {between : FileTree} (extended : Extends tree between)
    (done : between.makeDirectory path.text = .ok made) : MadeWithParents path tree (.ok ()) made where
  extended := by
    obtain ⟨place, _, fresh, rfl⟩ := make_directory_extends done
    exact extended.trans (extends_set_directory fresh)
  there _ := make_directory_there done
  failed _ same := by simp at same

theorem MadeWithParents.stopped (extended : Extends tree made) (system : error.isSystemError = true) :
    MadeWithParents path tree (.error error) made where
  extended := extended
  there same := by simp at same
  failed other same := by rwa [← Except.error.inj same]

theorem MadeWithParents.unlessThere (extended : Extends tree made) (system : error.isSystemError = true) :
    MadeWithParents path tree (if made.isDirectory path.text then .ok () else .error error) made := by
  by_cases there : made.isDirectory path.text = true
  · rw [if_pos there]
    exact ⟨extended, fun _ => there, fun _ same => by simp at same⟩
  · rw [if_neg there]
    exact .stopped extended system

theorem nul_not_mem_parent (clean : '\x00' ∉ path.text) :
    '\x00' ∉ Path.Normal.text { path with parts := path.parts.dropLast } := by
  rw [mem_normal_text _ (by decide) (by decide)] at clean ⊢
  rintro (root | ⟨part, member, nul⟩)
  · exact clean (.inl root)
  · exact clean (.inr ⟨part, List.mem_of_mem_dropLast member, nul⟩)

theorem make_with_parents (path : Path.Normal) (clean : '\x00' ∉ path.text) (tree : FileTree) :
    MadeWithParents path tree ((makeWithParents path).run tree).run.1 ((makeWithParents path).run tree).run.2 := by
  induction size : path.parts.length using Nat.strong_induction_on generalizing path tree with
  | _ count ih =>
      rw [run_make_with_parents]
      cases first : tree.makeDirectory path.text with
      | ok made => exact .completed (.refl tree) first
      | error error =>
          have system := make_directory_error first clean
          dsimp only
          by_cases lacking : error.cause = .noEntry
          · rw [if_pos lacking]
            by_cases inner : path.parts = []
            · rw [if_pos inner]
              exact .stopped (.refl tree) system
            · rw [if_neg inner]
              have shorter : path.parts.dropLast.length < count := by
                have positive := List.length_pos_iff.mpr inner
                rw [List.length_dropLast]
                omega
              have parent := ih _ shorter { path with parts := path.parts.dropLast }
                (nul_not_mem_parent clean) tree rfl
              generalize ((makeWithParents { path with parts := path.parts.dropLast }).run tree).run = run
                at parent ⊢
              obtain ⟨fault | _, between⟩ := run
              · exact .stopped parent.extended (parent.failed fault rfl)
              · dsimp only
                cases second : between.makeDirectory path.text with
                | ok made => exact .completed parent.extended second
                | error again =>
                    have systemToo := make_directory_error second clean
                    dsimp only
                    split
                    · exact .stopped parent.extended systemToo
                    · exact .unlessThere parent.extended systemToo
          · rw [if_neg lacking]
            exact .unlessThere (.refl tree) system

theorem make_with_parents_nul (nul : '\x00' ∈ path.text) (tree : FileTree) :
    ((makeWithParents path).run tree).run = (.error ⟨.nulInPath, path.text⟩, tree) := by
  have unfound (text : Text) (inside : '\x00' ∈ text) : tree.locate text = .error .nulInPath := by
    rw [locate, if_pos (by simpa using inside)]
  have failed : tree.makeDirectory path.text = .error ⟨.nulInPath, path.text⟩ := by
    rw [FileTree.makeDirectory, newPlace, unfound _ nul]
    dsimp only
    rw [unfound _ (nul_without_end_slashes nul)]
  have gone : tree.isDirectory path.text = false := by
    rw [FileTree.isDirectory, lookup, unfound _ nul]
  rw [run_make_with_parents, failed]
  dsimp only
  rw [if_neg (by decide), gone]
  rfl

end FileJob

end Wikidown
