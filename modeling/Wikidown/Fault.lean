import Wikidown.Files.Error
import Wikidown.Settings.Json

/-!
Everything that can go wrong around a conversion, by cause.
-/

namespace Wikidown

set_option autoImplicit false

/-- What can be wrong with the settings. -/
inductive SettingsFault where
  /-- a variable of the environment that is neither true nor false -/
  | flagInEnvironment (name value : Text)
  /-- a configuration file that is not JSON -/
  | notJson
  /-- a configuration file that cannot be opened -/
  | unopened (error : FileError)
  /-- a configuration file that holds something other than an object -/
  | notObject (path : Text)
  /-- a setting of the file that is neither true nor false -/
  | flagInFile (key : Text)
  /-- an output directory that cannot be made -/
  | noDirectory (error : FileError)
deriving DecidableEq, Repr

/-- Why a source cannot be read. -/
inductive ReadFault where
  | file (error : FileError)
  | notUtf8
deriving DecidableEq, Repr

inductive Fault where
  | settings (fault : SettingsFault)
  /-- a source that cannot be read -/
  | source (path : Text) (fault : ReadFault)
  /-- a page that cannot be written -/
  | page (path : Text) (error : FileError)
  /-- any other operation on files -/
  | file (error : FileError)
  /-- bytes that are not UTF-8 where a text is needed -/
  | notUtf8
  | numberTooLong (fault : NumberTooLong)
  /-- collections in JSON inside too many others -/
  | nestedTooDeep (kind : CollectionKind)
  /-- a setting of a kind that names no path -/
  | notPath (kind : String)
deriving DecidableEq, Repr

/-- An error of the system is a fault of the operation that met it; another one stays as it is. -/
def Fault.ofFileError (toFault : FileError → Fault) (error : FileError) : Fault :=
  if error.isSystemError then toFault error else .file error

/-- Why the source at a path cannot be read. -/
def Fault.ofReadFault (path : Text) : ReadFault → Fault
  | .file error => ofFileError (fun met => .source path (.file met)) error
  | .notUtf8 => .source path .notUtf8

def notUtf8Message : Text := "'utf-8' codec can't decode".toList

def SettingsFault.message : SettingsFault → Text
  | .flagInEnvironment name value =>
      "Environment variable ".toList ++ name ++ " is not a boolean: ".toList ++ quoted value
  | .notJson => "Error parsing JSON file".toList
  | .unopened error => "Error loading configuration: ".toList ++ error.message
  | .notObject path =>
      "Configuration file '".toList ++ path ++ "' must contain a JSON object.".toList
  | .flagInFile key => '\x27' :: key ++ "' in configuration file must be true or false.".toList
  | .noDirectory error => "Unable to create directories: ".toList ++ error.message

def ReadFault.message : ReadFault → Text
  | .file error => error.message
  | .notUtf8 => notUtf8Message

def Fault.message : Fault → Text
  | .settings fault => fault.message
  | .source path fault => "Error reading ".toList ++ path ++ ": ".toList ++ fault.message
  | .page path error =>
      "Error writing Markdown for ".toList ++ path ++ ": ".toList ++ error.message
  | .file error => error.message
  | .notUtf8 => notUtf8Message
  | .numberTooLong fault => fault.message.toList
  | .nestedTooDeep kind =>
      "maximum recursion depth exceeded while decoding a JSON ".toList ++ kind.label.toList ++
        " from a unicode string".toList
  | .notPath kind => "expected str, bytes or os.PathLike object, not ".toList ++ kind.toList

end Wikidown
