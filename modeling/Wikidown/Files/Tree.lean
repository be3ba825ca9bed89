import Wikidown.Files.Error
import Wikidown.Files.Path

/-!
A tree of directories and files, and the operations on it that take a path. A place is the list of
names on the way from the root; the root is always a directory.
-/

namespace Wikidown

set_option autoImplicit false

/-- The content of a file: a text, or bytes that encode none. -/
inductive Content where
  | text (content : Text)
  | raw (bytes : List UInt8)
deriving DecidableEq

/-- The text that the bytes of a file encode in UTF-8, if they do. -/
def Content.ofBytes (bytes : ByteArray) : Content :=
  match String.fromUTF8? bytes with
  | some content => .text content.toList
  | none => .raw bytes.toList

inductive FileEntry where
  | file (content : Content)
  | directory
deriving DecidableEq

abbrev Place := List Text

/-- The entries of a tree by their places, and the place that relative paths start from. -/
structure FileTree where
  entries : List (Place × FileEntry) := []
  current : Place := []
deriving DecidableEq

namespace FileTree

/-- What stands at a place. -/
def entry? (tree : FileTree) (place : Place) : Option FileEntry :=
  if place.isEmpty then some .directory else tree.entries.lookup place

/-- Put an entry at a place, for the one that stands there or as a new one. -/
def setEntry (place : Place) (entry : FileEntry) :
    List (Place × FileEntry) → List (Place × FileEntry)
  | [] => [(place, entry)]
  | (other, known) :: rest =>
      if other = place then (place, entry) :: rest else (other, known) :: setEntry place entry rest

def set (tree : FileTree) (place : Place) (entry : FileEntry) : FileTree :=
  { tree with entries := setEntry place entry tree.entries }

/-- The number of bytes of a text in UTF-8. -/
def byteLength (text : Text) : Nat := (String.ofList text).utf8ByteSize

/-- The most bytes that a name may have. -/
def nameLimit : Nat := 255

/-- The most bytes that a path may have. -/
def pathLimit : Nat := 4095

/-- The place that a name leads to. -/
def stepTo (here : Place) (name : Text) : Place :=
  if name.isEmpty || name = ".".toList then here
  else if name = "..".toList then here.dropLast
  else here ++ [name]

/-- The place at the end of a way of names. Every place before it is a directory; at the end itself
nothing needs to stand. -/
def walk (tree : FileTree) (here : Place) : List Text → Except FileCause Place
  | [] => .ok here
  | name :: rest =>
      match tree.entry? here with
      | none => .error .noEntry
      | some (.file _) => .error .notDirectory
      | some .directory =>
          if nameLimit < byteLength name then .error .nameTooLong
          else tree.walk (stepTo here name) rest

/-- The place that a path leads to. -/
def locate (tree : FileTree) (path : Text) : Except FileCause Place :=
  if path.contains '\x00' then .error .nulInPath
  else if path.isEmpty then .error .noEntry
  else if pathLimit < byteLength path then .error .nameTooLong
  else tree.walk (if startsWith "/".toList path then [] else tree.current) (pieces '/' path)

/-- What stands at the end of a path. -/
def lookup (tree : FileTree) (path : Text) : Except FileCause FileEntry :=
  match tree.locate path with
  | .error cause => .error cause
  | .ok place =>
      match tree.entry? place with
      | none => .error .noEntry
      | some entry => .ok entry

def isDirectory (tree : FileTree) (path : Text) : Bool :=
  match tree.lookup path with
  | .ok .directory => true
  | _ => false

def isFile (tree : FileTree) (path : Text) : Bool :=
  match tree.lookup path with
  | .ok (.file _) => true
  | _ => false

def hasEntry (tree : FileTree) (path : Text) : Bool := (tree.lookup path).isOk

/-- The content of the file at a path. -/
def read (tree : FileTree) (path : Text) : Except FileError Content :=
  match tree.lookup path with
  | .ok (.file content) => .ok content
  | .ok .directory => .error ⟨.isDirectory, path⟩
  | .error cause => .error ⟨cause, path⟩

/-- The path without the slashes at its end, unless it is the root. -/
def withoutEndSlashes (path : Text) : Text :=
  match (path.reverse.dropWhile (· == '/')).reverse with
  | [] => path.take 1
  | rest => rest

/-- The place of a new entry. Slashes at the end of its path are passed over, but they count where the
path is too long with them. -/
def newPlace (tree : FileTree) (path : Text) : Except FileCause Place :=
  match tree.locate path with
  | .error .nameTooLong => .error .nameTooLong
  | _ => tree.locate (withoutEndSlashes path)

/-- The place where a file can be written: its directory is there, and no directory stands in its
place. -/
def filePlace (tree : FileTree) (path : Text) : Except FileCause Place :=
  match tree.newPlace path with
  | .error cause => .error cause
  | .ok place =>
      match tree.entry? place with
      | some .directory => .error .isDirectory
      | some (.file _) => if endsWith "/".toList path then .error .notDirectory else .ok place
      | none => if endsWith "/".toList path then .error .isDirectory else .ok place

/-- Write a text to the file at a path, a new one or the one that is there. -/
def write (tree : FileTree) (path content : Text) : Except FileError FileTree :=
  match tree.filePlace path with
  | .error cause => .error ⟨cause, path⟩
  | .ok place => .ok (tree.set place (.file (.text content)))

/-- Make the directory at a path; the one that it stands in must be there. -/
def makeDirectory (tree : FileTree) (path : Text) : Except FileError FileTree :=
  match tree.newPlace path with
  | .error cause => .error ⟨cause, path⟩
  | .ok place =>
      match tree.entry? place with
      | some _ => .error ⟨.entryExists, path⟩
      | none => .ok (tree.set place .directory)

/-- The name of an entry that stands directly in a directory. -/
def childName? (directory place : Place) : Option Text :=
  match place.getLast? with
  | some name => if place = directory ++ [name] then some name else none
  | none => none

/-- The order of texts by code points. -/
def precedes (first second : Text) : Bool := !decide (second < first)

/-- The names in the directory at a path, in the order of code points. -/
def names (tree : FileTree) (path : Text) : List Text :=
  match tree.locate path with
  | .error _ => []
  | .ok place =>
      (tree.entries.filterMap fun (other, _) => childName? place other).mergeSort precedes

end FileTree

end Wikidown
