import Wikidown.Document
import Wikidown.Page.Link
import Wikidown.Session
import Wikidown.Settings.Options
import Wikidown.Slug.Unique

/-!
Batches: sources are converted to pages of one directory, each under a slug of its own, and after
that the links between the pages are pointed at their files. How slugs are made of titles is a
parameter throughout.
-/

namespace Wikidown

set_option autoImplicit false

namespace Batch

/-- The extensions of the sources that are taken from a directory. -/
def sourceExtensions : List Text := [".txt".toList, ".backlog".toList]

/-- Whether a file of a directory is taken as a source; its extension is read in either case. -/
def isSourceName (name : Text) : Bool :=
  sourceExtensions.contains (Path.stemAndExtension (lowerText name)).2

/-- The sources in a directory, in the order of their names. -/
def sourcesIn (tree : FileTree) (directory : Text) : List Text :=
  ((tree.names directory).map fun name => (name, Path.join directory name)).filterMap
    fun (name, path) => if tree.isFile path && isSourceName name then some path else none

/-- The files that the given sources stand for, and the sources that are not there. -/
def collect (tree : FileTree) (sources : List Text) : List Text × List Text :=
  (sources.flatMap fun source =>
      if tree.isDirectory source then sourcesIn tree source
      else if tree.isFile source then [source] else [],
    sources.filter fun source => !tree.isDirectory source && !tree.isFile source)

/-- The text of a source, with a line feed at each end of a line. -/
def readSource (tree : FileTree) (path : Text) : Except ReadFault Text :=
  match tree.read path with
  | .error error => .error (.file error)
  | .ok (.raw _) => .error .notUtf8
  | .ok (.text content) => .ok (Settings.unifyLineEnds content)

/-- What the log says about a masked document. -/
def maskedSummary (store : Store) : Text :=
  "Masked ".toList ++ decimalText (store.count .code) ++ " code, ".toList ++
    decimalText (store.count .quote) ++ " quote and ".toList ++
    decimalText (store.count .paragraph) ++ " paragraph blocks".toList

/-- Convert a document and note in the log what it holds. -/
def convertText (options : Options) (source : Text) : Job Text := do
  Job.log .debug (maskedSummary (Document.masked source).store)
  Job.ofExcept ((convert options source).mapError .numberTooLong)

/-- The title of the page of a source: the name of its file without the extension. -/
def titleOf (path : Text) : Text :=
  match (Path.stemAndExtension (Path.name path)).1 with
  | [] => "Untitled".toList
  | title => title

/-- The end of the last line of a page. -/
def lastLineEnd (options : Options) : Text :=
  if options.crlf then "\r\n".toList else "\n".toList

/-- Convert the source at `path` to a page of `directory` under a slug that no other page of the
batch has. The slug is taken once the page is written. -/
def convertFile (slugOf : Text → Text) (options : Options) (directory path : Text) :
    Job Page.Entry := do
  let title := titleOf path
  let source ← Job.ofExcept ((readSource (← Job.tree) path).mapError (Fault.ofReadFault path))
  let markdown ← convertText options source
  let taken ← Job.taken
  let slug := uniqueSlug slugOf title taken
  if slug ≠ baseSlug slugOf title then
    Job.log .warning
      ("Output name of ".toList ++ path ++ " already used, writing ".toList ++ pageFile slug)
  Job.files .file (FileJob.makeDirectories directory)
  let page := Path.join directory (pageFile slug)
  Job.files (.page path) (FileJob.change (·.write page (markdown ++ lastLineEnd options)))
  Job.setTaken (slug :: taken)
  Job.log .debug ("Converted ".toList ++ path ++ " to ".toList ++ page)
  return { key := slug, slug := slug, title := title }

/-- Convert the sources at `paths`, one after another, and put their pages into an index. A source
that cannot be read and a page that cannot be written are reported; the number of them comes with
the index. -/
def convertEach (slugOf : Text → Text) (options : Options) (directory : Text) :
    (paths : List Text) → (index : Page.Index) → Job (Page.Index × Nat)
  | [], index => return (index, 0)
  | path :: rest, index => do
      let entry ← tryCatch (some <$> convertFile slugOf options directory path) fun fault =>
        match fault with
        | .source .. | .page .. => do
            Job.say (Markup.alarm "Conversion Error" ++ Markup.escape fault.message)
            return none
        | other => throw other
      match entry with
      | none =>
          let (final, failures) ← convertEach slugOf options directory rest index
          return (final, failures + 1)
      | some entry =>
          Job.say
            ("Converted: ".toList ++ Markup.styled "bold blue" (Markup.escape path) ++
              " → ".toList ++ pageFile (Markup.escape entry.slug))
          convertEach slugOf options directory rest (index.insert entry)

/-- Convert the sources at `paths` as a batch of their own, in which no slug is taken yet. -/
def convertAll (slugOf : Text → Text) (options : Options) (directory : Text)
    (paths : List Text) : Job (Page.Index × Nat) := do
  Job.setTaken []
  convertEach slugOf options directory paths []

/-- Print the conversion of each of the sources at `paths`. A source that cannot be read is
reported; the result is the number of them. -/
def printFiles (options : Options) : (paths : List Text) → Job Nat
  | [] => return 0
  | path :: rest => do
      match readSource (← Job.tree) path with
      | .ok source =>
          Job.print (← convertText options source)
          printFiles options rest
      | .error fault =>
          Job.say
            (Markup.alarm "Error" ++ Markup.escape path ++ ": ".toList ++
              Markup.escape fault.message)
          return (← printFiles options rest) + 1

/-- Point the links of the page at `path` at the files of the pages they name. The result is the
number of links that were changed; a page without such links is not written. -/
def updateLinks (slugOf : Text → Text) (index : Page.Index) (path : Text) : Job Nat := do
  match (← Job.tree).read path with
  | .error error =>
      if !error.isSystemError then throw (.file error)
      Job.log .warning
        ("Error reading file ".toList ++ path ++ ": ".toList ++ error.message)
      return 0
  | .ok (.raw _) => throw .notUtf8
  | .ok (.text content) =>
      let resolve? := Page.resolve slugOf index
      let changed := Page.redirected resolve? content
      if changed = 0 then return 0
      match (← Job.tree).write path (Page.redirect resolve? content) with
      | .ok tree =>
          modify fun session => { session with tree := tree }
          return changed
      | .error error =>
          Job.log .warning
            ("Error writing updated file ".toList ++ path ++ ": ".toList ++ error.message)
          return 0

/-- Point the links of all pages of an index at the files in `directory`. -/
def updateAllLinks (slugOf : Text → Text) (directory : Text) (index : Page.Index) :
    (pages : List Page.Entry) → Job Nat
  | [] => return 0
  | entry :: rest => do
      let changed ← updateLinks slugOf index (Path.join directory (pageFile entry.slug))
      return changed + (← updateAllLinks slugOf directory index rest)

end Batch

end Wikidown
