import Wikidown.Text.Quoted

/-!
Why an operation on files can fail. Most causes are errors of the system, which have a number; a
path with a NUL character does not even reach the system.
-/

namespace Wikidown

set_option autoImplicit false

inductive FileCause where
  | noEntry
  | entryExists
  | notDirectory
  | isDirectory
  | nameTooLong
  | nulInPath
deriving DecidableEq, Repr

namespace FileCause

/-- The number of an error of the system, and what it says. -/
def systemError? : FileCause → Option (Nat × String)
  | .noEntry => some (2, "No such file or directory")
  | .entryExists => some (17, "File exists")
  | .notDirectory => some (20, "Not a directory")
  | .isDirectory => some (21, "Is a directory")
  | .nameTooLong => some (36, "File name too long")
  | .nulInPath => none

end FileCause

/-- A failed operation, with the path as it was given. -/
structure FileError where
  cause : FileCause
  path : Text
deriving DecidableEq, Repr

namespace FileError

/-- Whether the system has met the error. -/
def isSystemError (error : FileError) : Bool := error.cause.systemError?.isSome

def message (error : FileError) : Text :=
  match error.cause.systemError? with
  | some (number, reason) =>
      "[Errno ".toList ++ decimalText number ++ "] ".toList ++ reason.toList ++ ": ".toList ++
        quoted error.path
  | none => "embedded null byte".toList

end FileError

end Wikidown
