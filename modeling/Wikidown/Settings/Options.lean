import Wikidown.Document
import Wikidown.Fault
import Wikidown.Files.Tree
import Wikidown.Settings.Json
import Wikidown.Text.LowerCase

/-!
The settings of a run. A setting comes from the first of three sources that has it: the arguments,
the environment, the configuration file.
-/

namespace Wikidown

set_option autoImplicit false

/-- The variables of the environment. -/
abbrev Environment := List (Text × Text)

namespace Settings

def crlfVariable : Text := "BACKLOG2MD_USE_CRLF".toList

def promoteVariable : Text := "BACKLOG2MD_PROMOTE_FIRST_ROW".toList

def outputVariable : Text := "BACKLOG2MD_OUTPUT_DIR".toList

/-- The configuration file of a run that names none. -/
def defaultFile : Text := "backlog2md.json".toList

/-- The output directory of a run that names none. -/
def defaultOutput : Text := "markdown_output".toList

def trueWords : List Text := ["true".toList, "1".toList, "yes".toList]

def falseWords : List Text := ["false".toList, "0".toList, "no".toList]

/-- A flag of the environment; a blank variable counts as unset. -/
def environmentFlag (environment : Environment) (name : Text) :
    Except SettingsFault (Option Bool) :=
  match environment.lookup name with
  | none => .ok none
  | some value =>
      let word := lowerText (trim value)
      if word.isEmpty then .ok none
      else if trueWords.contains word then .ok (some true)
      else if falseWords.contains word then .ok (some false)
      else .error (.flagInEnvironment name word)

/-- A text with a line feed at each end of a line. -/
def unifyLineEnds : Text → Text
  | [] => []
  | '\r' :: '\n' :: text => '\n' :: unifyLineEnds text
  | c :: text => (if c = '\r' then '\n' else c) :: unifyLineEnds text

/-- The path of the configuration file; an empty name stands for the default. -/
def filePath (file : Option Text) : Text :=
  let chosen := match file with
    | some (c :: rest) => c :: rest
    | _ => defaultFile
  (Path.normal chosen).text

/-- The members of the object in a configuration file; there are none if the file is not there. -/
def fileMembers (tree : FileTree) (file : Option Text) :
    Except Fault (List (Text × JsonValue)) :=
  let path := filePath file
  match tree.lookup path with
  | .error .noEntry => .ok []
  | .error .notDirectory => .ok []
  | .error .nulInPath => .ok []
  | .error cause => .error (.file ⟨cause, path⟩)
  | .ok .directory => .error (.settings (.unopened ⟨.isDirectory, path⟩))
  | .ok (.file (.raw _)) => .error .notUtf8
  | .ok (.file (.text content)) =>
      match JsonValue.parse (unifyLineEnds content) with
      | .ok (.object members) => .ok members
      | .ok _ => .error (.settings (.notObject path))
      | .error .malformed => .error (.settings .notJson)
      | .error (.numberTooLong fault) => .error (.numberTooLong fault)
      | .error (.nestedTooDeep kind) => .error (.nestedTooDeep kind)

/-- A flag of the configuration file; null counts as unset. -/
def fileFlag (members : List (Text × JsonValue)) (key : Text) :
    Except SettingsFault (Option Bool) :=
  match JsonValue.member? members key with
  | none => .ok none
  | some .null => .ok none
  | some (.bool value) => .ok (some value)
  | some _ => .error (.flagInFile key)

/-- A flag from the first source that has it; sources after that one are not looked at. -/
def flag (environment : Environment) (members : List (Text × JsonValue)) (given : Option Bool)
    (name key : Text) : Except SettingsFault Bool := do
  match given with
  | some value => return value
  | none =>
      match ← environmentFlag environment name with
      | some value => return value
      | none => return (← fileFlag members key).getD false

/-- The options of a conversion. The configuration file is read in any case. -/
def options (environment : Environment) (tree : FileTree) (crlf promoteFirstRow : Option Bool)
    (file : Option Text) : Except Fault Options := do
  let members ← fileMembers tree file
  let crlf ← (flag environment members crlf crlfVariable "use_crlf".toList).mapError .settings
  let promoteFirstRow ←
    (flag environment members promoteFirstRow promoteVariable
      "promote_first_row".toList).mapError .settings
  return { crlf, promoteFirstRow }

/-- The output directory. A value of the file is taken as it is, whatever its kind; the file is only
read if neither the arguments nor the environment name a directory. -/
def outputDirectory (environment : Environment) (tree : FileTree) (given : Option Text)
    (file : Option Text) : Except Fault JsonValue :=
  match given, environment.lookup outputVariable with
  | some (c :: rest), _ => .ok (.string (c :: rest))
  | _, some (c :: rest) => .ok (.string (c :: rest))
  | _, _ =>
      (fileMembers tree file).map fun members =>
        match JsonValue.member? members "output_dir".toList with
        | some value => if value.isGiven then value else .string defaultOutput
        | none => .string defaultOutput

end Settings

end Wikidown
