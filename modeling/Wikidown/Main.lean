import Wikidown.Command.Run
import Wikidown.Slug

/-!
The command line program. The files that the arguments name are read first; then the run is carried
out on what was read, and what it has changed is written back.
-/

namespace Wikidown.Main

set_option autoImplicit false

def usage : String :=
  "usage: wikidown [-h] [-o OUTPUT] [--stdout] [--crlf] [--promote-header]\n" ++
  "                [--config CONFIG] [-v] [sources ...]\n"

def help : String :=
  usage ++ "\nConvert wiki documents to Markdown.\n\n" ++
  "  sources            files, directories, or - for the standard input\n" ++
  "  -h, --help         show this text\n" ++
  "  -o, --output       output directory\n" ++
  "  --stdout           print Markdown instead of writing files\n" ++
  "  --crlf             end lines with a carriage return and a line feed\n" ++
  "  --promote-header   use the first row of a table without header as its header\n" ++
  "  --config           JSON configuration file\n" ++
  "  -v, --verbose      show what is done in detail\n"

/-- The variable that names the configuration file of runs that are given none. -/
def configVariable : String := "BACKLOG2MD_CONFIG_FILE"

def textOfPlace (place : Place) : String := "/" ++ String.ofList (joined '/' place)

/-- The place that a path names, by its text alone. -/
def placeOf (current : Place) (path : Text) : Place :=
  (pieces '/' path).foldl FileTree.stepTo (if startsWith "/".toList path then [] else current)

/-- Take over what stands at a place. Of a file that is no source, only that it is there. -/
def loadEntry (tree : FileTree) (place : Place) (isSource : Bool) : IO FileTree := do
  let path := System.mkFilePath [textOfPlace place]
  if ← path.isDir then return tree.set place .directory
  if !(← path.pathExists) then return tree
  if !isSource then return tree.set place (.file (.raw []))
  return tree.set place (.file (.ofBytes (← IO.FS.readBinFile path)))

/-- Take over what stands on the way to a place, at the place itself, and directly in it. -/
def loadPlace (tree : FileTree) (place : Place) : IO FileTree := do
  let mut loaded := tree
  for count in List.range place.length do
    loaded ← loadEntry loaded (place.take count) false
  loaded ← loadEntry loaded place true
  let path := System.mkFilePath [textOfPlace place]
  if ← path.isDir then
    for child in ← path.readDir do
      let name := child.fileName.toList
      loaded ← loadEntry loaded (place ++ [name]) (Batch.isSourceName name)
  return loaded

/-- Write back what a run has changed. -/
def store (before after : FileTree) : IO Unit := do
  for (place, entry) in after.entries do
    if before.entry? place ≠ some entry then
      match entry with
      | .directory => IO.FS.createDirAll (textOfPlace place)
      | .file (.text content) => IO.FS.writeFile (textOfPlace place) (String.ofList content)
      | .file (.raw _) => pure ()

partial def readAll (stream : IO.FS.Stream) (seen : ByteArray) : IO ByteArray := do
  let block ← stream.read 65536
  if block.isEmpty then return seen
  readAll stream (seen ++ block)

def readEnvironment : IO Environment := do
  let names := [Settings.crlfVariable, Settings.promoteVariable, Settings.outputVariable]
  names.filterMapM fun name => do
    return (← IO.getEnv (String.ofList name)).map fun value => (name, value.toList)

/-- The text of a setting that is one. -/
def settingText : Except Fault JsonValue → Option Text
  | .ok (.string text) => some text
  | _ => none

/-- The files that a run may look at. -/
def load (environment : Environment) (arguments : Command.Arguments) : IO FileTree := do
  let current := placeOf [] (← IO.currentDir).toString.toList
  let config := arguments.config.getD Settings.defaultFile
  let mut tree ← loadPlace { current := current } (placeOf current config)
  for source in arguments.sources do
    tree ← loadPlace tree (placeOf current source)
  let output := Settings.outputDirectory environment tree arguments.output arguments.config
  if let some directory := settingText output then
    tree ← loadPlace tree (placeOf current directory)
  return tree

def run (given : Command.Arguments) : IO UInt32 := do
  let environment ← readEnvironment
  let configured := (← IO.getEnv configVariable).map String.toList
  let arguments := { given with config := given.config.or configured }
  let tree ← load environment arguments
  let input ←
    if arguments.sources.contains Command.standardInput then readAll (← IO.getStdin) .empty
    else pure .empty
  if arguments.sources.isEmpty then IO.eprint help
  let (result, session) :=
    (Command.execute slugify environment (.ofBytes input) arguments).perform { tree := tree }
  store tree session.tree
  IO.print (String.ofList session.printed)
  for record in session.records do
    if record.isShown arguments.verbose then
      IO.eprintln (String.ofList (record.level.label ++ ' ' :: record.text))
  for message in session.messages do
    IO.eprintln (String.ofList message)
  match result with
  | .ok status => return status.toUInt32
  | .error fault =>
      IO.eprintln (String.ofList fault.message)
      return 1

end Wikidown.Main

def main (arguments : List String) : IO UInt32 :=
  match Wikidown.Command.read (arguments.map String.toList) with
  | .help => do
      IO.print Wikidown.Main.help
      return 0
  | .invalid => do
      IO.eprint Wikidown.Main.usage
      return 2
  | .run given => Wikidown.Main.run given
