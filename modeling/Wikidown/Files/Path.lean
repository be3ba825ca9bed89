import Wikidown.Text.Lines

/-!
Paths as texts: their parts, the name at their end and its extension.
-/

namespace Wikidown

set_option autoImplicit false

namespace Path

/-- The path of `name` in the directory `directory`. -/
def join (directory name : Text) : Text :=
  if startsWith "/".toList name then name
  else if directory.isEmpty || endsWith "/".toList directory then directory ++ name
  else directory ++ '/' :: name

/-- What follows the last slash. -/
def name (path : Text) : Text := (path.reverse.takeWhile (· != '/')).reverse

/-- What precedes the name at the end of a path, without the slashes before the name unless there is
nothing else. -/
def directory (path : Text) : Text :=
  let start := (path.reverse.dropWhile (· != '/')).reverse
  if start.all (· == '/') then start else (start.reverse.dropWhile (· == '/')).reverse

/-- A file name as its stem and its extension, which begins with the last dot. Dots at the start of
a name begin no extension. -/
def stemAndExtension (fileName : Text) : Text × Text :=
  let extension := (fileName.reverse.takeWhile (· != '.')).reverse
  let stem := (fileName.reverse.dropWhile (· != '.')).tail.reverse
  if stem.all (· == '.') then (fileName, []) else (stem, '.' :: extension)

/-- A path as the parts between its slashes, without empty ones and those for the same directory,
and the slashes of a path that starts at the root. -/
structure Normal where
  root : Text
  parts : List Text

def normal (path : Text) : Normal where
  root :=
    match path.takeWhile (· == '/') with
    | ['/', '/'] => "//".toList
    | [] => []
    | _ => "/".toList
  parts := (pieces '/' path).filter fun part => !part.isEmpty && part != ".".toList

def Normal.text (path : Normal) : Text :=
  match path.root ++ joined '/' path.parts with
  | [] => ".".toList
  | text => text

end Path

end Wikidown
