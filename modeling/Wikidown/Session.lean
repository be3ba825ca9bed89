import Wikidown.Console.Markup
import Wikidown.Fault
import Wikidown.Files.Directory

/-!
A run of the program: the files it works on, and what it has said so far. A step that fails leaves
behind what it had done before.
-/

namespace Wikidown

set_option autoImplicit false

inductive Level where
  | debug
  | warning
deriving DecidableEq, Repr

def Level.label : Level → Text
  | .debug => "DEBUG".toList
  | .warning => "WARNING".toList

/-- An entry of the log. -/
structure Record where
  level : Level
  text : Text
deriving DecidableEq, Repr

/-- Details are shown on request only. -/
def Record.isShown (verbose : Bool) (record : Record) : Bool :=
  verbose || record.level = .warning

/-- The files, the slugs of the pages that the current batch has written, the log, the messages to
the user, and the text that was printed. -/
structure Session where
  tree : FileTree
  taken : List Text := []
  records : List Record := []
  messages : List Text := []
  printed : Text := []

abbrev Job := ExceptT Fault (StateM Session)

namespace Job

def log (level : Level) (text : Text) : Job Unit :=
  modify fun session => { session with records := session.records ++ [⟨level, text⟩] }

/-- Say a message in markup to the user. -/
def say (message : Text) : Job Unit :=
  modify fun session => { session with messages := session.messages ++ [Markup.shown message] }

/-- Print a text and end the line. -/
def print (text : Text) : Job Unit :=
  modify fun session => { session with printed := session.printed ++ text ++ ['\n'] }

def tree : Job FileTree := do return (← get).tree

def taken : Job (List Text) := do return (← get).taken

def setTaken (slugs : List Text) : Job Unit :=
  modify fun session => { session with taken := slugs }

/-- A result that depends on nothing but what it was given. -/
def ofExcept {Value : Type} (result : Except Fault Value) : Job Value :=
  match result with
  | .ok value => pure value
  | .error fault => throw fault

/-- Carry out an operation on the files; `toFault` says what an error of the system means. -/
def files (toFault : FileError → Fault) (operation : FileJob Unit) : Job Unit := do
  let (result, tree) := (operation.run (← get).tree).run
  modify fun session => { session with tree := tree }
  match result with
  | .ok () => return
  | .error error => throw (Fault.ofFileError toFault error)

/-- The result of a job, and the session that it leaves. -/
def perform {Value : Type} (job : Job Value) (session : Session) :
    Except Fault Value × Session :=
  (job.run session).run

end Job

end Wikidown
