import Wikidown.Files.Tree

/-!
Directories with all the directories that they stand in. What was made before a failure stays.
-/

namespace Wikidown

set_option autoImplicit false

/-- An operation on a tree of files that may fail; what it did to the tree before stays. -/
abbrev FileJob := ExceptT FileError (StateM FileTree)

namespace FileJob

/-- Carry out an operation that leaves the tree alone where it fails. -/
def change (operation : FileTree → Except FileError FileTree) : FileJob Unit := do
  match operation (← get) with
  | .ok tree => set tree
  | .error error => throw error

/-- Carry on where the directory at `path` is there already, whatever made the operation fail. -/
def unlessDirectory (path : Text) (operation : FileJob Unit) : FileJob Unit :=
  tryCatch operation fun error => do
    if (← get).isDirectory path then return
    throw error

/-- The directory and the name of a path; slashes at its end are passed over. -/
def parentAndName (path : Text) : Text × Text :=
  if (Path.name path).isEmpty then
    (Path.directory (Path.directory path), Path.name (Path.directory path))
  else (Path.directory path, Path.name path)

/-- Make the directory at a path and those on the way to it. A way that ends with the name for the
same directory needs nothing but its own start. -/
def makeDirectories (path : Text) : FileJob Unit := do
  let (parent, name) := parentAndName path
  if shorter : parent.length < path.length then
    if !parent.isEmpty && !name.isEmpty && !(← get).hasEntry parent then
      tryCatch (makeDirectories parent) fun error =>
        if error.cause = .entryExists then pure () else throw error
      if name = ".".toList then return
  unlessDirectory path (change (·.makeDirectory path))
termination_by path.length

/-- Make the directory at a normal path, and where its parent is missing, the parent first. -/
def makeWithParents (path : Path.Normal) : FileJob Unit := do
  let text := path.text
  tryCatch (change (·.makeDirectory text)) fun error => do
    if error.cause = .noEntry then
      if inner : path.parts = [] then throw error
      else
        makeWithParents { path with parts := path.parts.dropLast }
        tryCatch (change (·.makeDirectory text)) fun again =>
          if again.cause = .noEntry then throw again else unlessDirectory text (throw again)
    else unlessDirectory text (throw error)
termination_by path.parts.length
decreasing_by
  have positive := List.length_pos_iff.mpr inner
  simp only [List.length_dropLast]
  omega

end FileJob

end Wikidown
