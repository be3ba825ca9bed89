import Wikidown.Batch
import Wikidown.Command.Arguments

/-!
A run of the command line: the sources are converted to pages of the output directory, or printed.
-/

namespace Wikidown.Command

set_option autoImplicit false

/-- The source that stands for the standard input. -/
def standardInput : Text := "-".toList

/-- Print the conversion of the standard input. -/
def printInput (options : Options) : (input : Content) → Job Unit
  | .raw _ => throw .notUtf8
  | .text content => do
      Job.print (← Batch.convertText options (Settings.unifyLineEnds content))

/-- The path of a directory that a setting names. -/
def pathOf : JsonValue → Except Fault Text
  | .string path => .ok path
  | other => .error (.notPath other.kindName)

/-- Make the output directory and those on the way to it. -/
def makeOutput (directory : Text) : Job Unit :=
  Job.files (fun error => .settings (.noDirectory error))
    (FileJob.makeWithParents (Path.normal directory))

/-- Convert files to pages of the output directory; the result is the number of failures. -/
def writePages (slugOf : Text → Text) (environment : Environment) (arguments : Arguments)
    (options : Options) (files : List Text) : Job Nat := do
  let setting ← Job.ofExcept
    (Settings.outputDirectory environment (← Job.tree) arguments.output arguments.config)
  let directory ← Job.ofExcept (pathOf setting)
  makeOutput directory
  let (index, failures) ← Batch.convertAll slugOf options directory files
  let changed ← Batch.updateAllLinks slugOf directory index index
  if changed ≠ 0 then
    Job.say
      (Markup.styled "yellow"
        ("Updated ".toList ++ decimalText changed ++ " links between pages".toList))
  Job.say
    (Markup.styled "bold green"
      ("Converted ".toList ++ decimalText index.length ++ " files. Files saved in '".toList ++
        Markup.escape directory ++ "'".toList))
  return failures

/-- Convert what the arguments name; the result is the number of failures. -/
def convertSources (slugOf : Text → Text) (environment : Environment) (input : Content)
    (arguments : Arguments) : Job Nat := do
  let crlf := if arguments.crlf then some true else none
  let promoteFirstRow := if arguments.promoteHeader then some true else none
  let options ← Job.ofExcept
    (Settings.options environment (← Job.tree) crlf promoteFirstRow arguments.config)
  if arguments.sources.contains standardInput then printInput options input
  let (files, missing) :=
    Batch.collect (← Job.tree) (arguments.sources.filter (· != standardInput))
  missing.forM fun source =>
    Job.say (Markup.alarm "Error" ++ "Cannot find source: ".toList ++ Markup.escape source)
  let failures ←
    if arguments.stdout then Batch.printFiles options files
    else if files.isEmpty then pure 0
    else writePages slugOf environment arguments options files
  return missing.length + failures

/-- Carry out a run; the result is the exit status. Wrong settings are reported and end the run. -/
def execute (slugOf : Text → Text) (environment : Environment) (input : Content)
    (arguments : Arguments) : Job Nat := do
  if arguments.sources.isEmpty then
    Job.say ('\n' :: Markup.alarm "Error" ++ "No sources provided.".toList)
    return 1
  tryCatch
    (do
      let failures ← convertSources slugOf environment input arguments
      return if failures = 0 then 0 else 1)
    fun fault =>
      match fault with
      | .settings _ => do
          Job.say (Markup.alarm "Configuration Error" ++ Markup.escape fault.message)
          return 1
      | .source .. | .page .. => do
          Job.say (Markup.alarm "Error" ++ Markup.escape fault.message)
          return 1
      | other => throw other

end Wikidown.Command
