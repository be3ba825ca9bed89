import Wikidown.Text.Digit
import Wikidown.Text.Lines

/-!
The arguments of the command line. Each argument is first classified: an option, a word, or the mark
after which there are only words. Then the options take their values, and the sources are one
unbroken run of words.
-/

namespace Wikidown.Command

set_option autoImplicit false

inductive Switch where
  | help
  | output
  | stdout
  | crlf
  | promoteHeader
  | config
  | verbose
deriving DecidableEq, Repr

def Switch.takesValue : Switch → Bool
  | .output => true
  | .config => true
  | _ => false

def spellings : List (Text × Switch) :=
  [ ("-h".toList, .help), ("--help".toList, .help),
    ("-o".toList, .output), ("--output".toList, .output),
    ("--stdout".toList, .stdout),
    ("--crlf".toList, .crlf),
    ("--promote-header".toList, .promoteHeader),
    ("--config".toList, .config),
    ("-v".toList, .verbose), ("--verbose".toList, .verbose) ]

/-- The mark after which all arguments are words. -/
def endMark : Text := "--".toList

/-- An argument by its form. The value that is attached to an option follows an equals sign or,
after an option of one letter, the letter. -/
inductive Argument where
  | word (text : Text)
  | marker
  | option (switch : Switch) (long : Bool) (attached : Option Text)
  | unknown
deriving DecidableEq, Repr

/-- What stands before and after the first equals sign. -/
def splitValue (text : Text) : Text × Option Text :=
  match text.dropWhile (· != '=') with
  | [] => (text, none)
  | _ :: value => (text.takeWhile (· != '='), some value)

/-- Whether an argument is a number below zero; a line feed may stand at its end. -/
def isNegativeNumber (argument : Text) : Bool :=
  let body := (before? "\n".toList argument).getD argument
  match body with
  | '-' :: digits =>
      let rest := digits.dropWhile isDigit
      match rest with
      | [] => !digits.isEmpty
      | '.' :: fraction => !fraction.isEmpty && fraction.all isDigit
      | _ => false
  | _ => false

def isLong (spelling : Text) : Bool := startsWith endMark spelling

/-- The options that an argument may mean: a long option by any start of its spelling, an option of
one letter by its letter, with the rest of the argument as the value. -/
def candidates (argument : Text) : List Argument :=
  if isLong argument then
    let (start, value) := splitValue argument
    (spellings.filter fun (spelling, _) => startsWith start spelling).map fun (_, switch) =>
      .option switch true value
  else
    (spellings.filter fun (spelling, _) => spelling = argument.take 2).map fun (_, switch) =>
      .option switch false (some (argument.drop 2))

/-- The form of an argument before the end mark; none, if several options are meant by it. -/
def classifyOne? (argument : Text) : Option Argument :=
  if !startsWith "-".toList argument || argument.length = 1 then some (.word argument)
  else
    let (start, value) := splitValue argument
    match spellings.lookup argument, spellings.lookup start with
    | some switch, _ => some (.option switch (isLong argument) none)
    | none, some switch => some (.option switch (isLong start) value)
    | none, none =>
        match candidates argument with
        | [only] => some only
        | _ :: _ => none
        | [] =>
            if isNegativeNumber argument || argument.contains ' ' then some (.word argument)
            else some .unknown

def classify? : List Text → Option (List Argument)
  | [] => some []
  | argument :: rest =>
      if argument = endMark then some (.marker :: rest.map .word)
      else do
        let first ← classifyOne? argument
        let others ← classify? rest
        return first :: others

/-- An option with its value, if it takes one. -/
abbrev Setting := Switch × Option Text

/-- The value that is attached to an option; the end mark in its place leaves the option unset. -/
def attachedValue (value : Text) : Option Text := if value = endMark then none else some value

/-- The settings that an argument makes by its value, and the option that still needs one: after an
option of one letter without a value, the next letter is an option too. -/
def attach? (switch : Switch) (value : Text) : Option (List Setting × Option Switch) :=
  if switch.takesValue then some ([(switch, attachedValue value)], none)
  else
    match value with
    | [] => none
    | letter :: rest =>
        match spellings.lookup ['-', letter] with
        | none => none
        | some next =>
            if rest.isEmpty then
              if next.takesValue then some ([(switch, none)], some next)
              else some ([(switch, none), (next, none)], none)
            else
              (attach? next rest).map fun (settings, unset) => ((switch, none) :: settings, unset)

/-- The settings that an option makes by itself, and the option that still needs a value. -/
def own? (switch : Switch) (long : Bool) :
    (attached : Option Text) → Option (List Setting × Option Switch)
  | none => some (if switch.takesValue then ([], some switch) else ([(switch, none)], none))
  | some value => if long && !switch.takesValue then none else attach? switch value

/-- The settings that an option makes before the arguments `rest`, and the arguments after it. -/
def settings? (switch : Switch) (long : Bool) (attached : Option Text) (rest : List Argument) :
    Option (List Setting × List Argument) :=
  match own? switch long attached, rest with
  | some (settings, none), _ => some (settings, rest)
  | some (settings, some last), .word value :: more =>
      some (settings ++ [(last, some value)], more)
  | some (_, some _), _ => none
  | none, _ => none

theorem settings_length {switch : Switch} {long : Bool} {attached : Option Text}
    {rest remaining : List Argument} {settings : List Setting}
    (found : settings? switch long attached rest = some (settings, remaining)) :
    remaining.length ≤ rest.length := by
  simp only [settings?] at found
  split at found <;> simp_all

/-- What the command line asks for. -/
structure Arguments where
  sources : List Text := []
  output : Option Text := none
  config : Option Text := none
  stdout : Bool := false
  crlf : Bool := false
  promoteHeader : Bool := false
  verbose : Bool := false
deriving DecidableEq, Repr

def Arguments.set (arguments : Arguments) : Setting → Arguments
  | (.help, _) => arguments
  | (.output, value) => { arguments with output := value }
  | (.stdout, _) => { arguments with stdout := true }
  | (.crlf, _) => { arguments with crlf := true }
  | (.promoteHeader, _) => { arguments with promoteHeader := true }
  | (.config, value) => { arguments with config := value }
  | (.verbose, _) => { arguments with verbose := true }

inductive Request where
  | help
  | invalid
  | run (arguments : Arguments)
deriving DecidableEq, Repr

def Argument.isWord : Argument → Bool
  | .word _ => true
  | .marker => true
  | _ => false

def Argument.text : Argument → Text
  | .word text => text
  | _ => endMark

/-- Read classified arguments. `sourcesRead` tells that the run of sources is over, and `left` that
an argument was met which belongs to nothing; help that is asked for after it is still given. -/
def readFrom (arguments : Arguments) (sourcesRead left : Bool) : List Argument → Request
  | [] => if left then .invalid else .run arguments
  | .unknown :: rest => readFrom arguments sourcesRead true rest
  | .option switch long attached :: rest =>
      match _ : settings? switch long attached rest with
      | none => .invalid
      | some (settings, remaining) =>
          if settings.any fun setting => setting.1 = .help then .help
          else readFrom (settings.foldl Arguments.set arguments) sourcesRead left remaining
  | first :: rest =>
      let remaining := rest.dropWhile Argument.isWord
      if sourcesRead then readFrom arguments true true remaining
      else
        let run := first :: rest.takeWhile Argument.isWord
        let words := (run.erase .marker).map Argument.text
        readFrom { arguments with sources := words } true left remaining
termination_by classified => classified.length
decreasing_by
  · simp
  · exact Nat.lt_succ_of_le
      (settings_length ‹settings? switch long attached rest = some (settings, remaining)›)
  · exact Nat.lt_succ_of_le (List.dropWhile_suffix Argument.isWord).length_le
  · exact Nat.lt_succ_of_le (List.dropWhile_suffix Argument.isWord).length_le

/-- Read the arguments of the command line. -/
def read (arguments : List Text) : Request :=
  match classify? arguments with
  | none => .invalid
  | some classified => readFrom {} false false classified

end Wikidown.Command
