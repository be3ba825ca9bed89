import Wikidown.Text.Number

/-!
Values in JSON. Beyond the standard, the names of the three values that are no numbers are read,
and half of a pair of code units may stand alone. Only whole numbers keep their value.
-/

namespace Wikidown

set_option autoImplicit false

/-- A value in JSON. Of a number with a fraction or an exponent it is kept whether it is too small
to differ from zero. The members of an object stand as they are written, also repeated ones. -/
inductive JsonValue where
  | null
  | bool (value : Bool)
  | integer (value : Int)
  | real (vanishes : Bool)
  | string (value : Text)
  | array (elements : List JsonValue)
  | object (members : List (Text × JsonValue))

/-- The kinds of collections. -/
inductive CollectionKind where
  | array
  | object
deriving DecidableEq, Repr

def CollectionKind.label : CollectionKind → String
  | .array => "array"
  | .object => "object"

inductive JsonError where
  | malformed
  | numberTooLong (fault : NumberTooLong)
  /-- a collection inside too many others -/
  | nestedTooDeep (kind : CollectionKind)
deriving DecidableEq, Repr

namespace JsonValue

def skipSpace (text : Text) : Text :=
  text.dropWhile fun c => c == ' ' || c == '\t' || c == '\n' || c == '\r'

/-- The code unit that an escape of one character writes. -/
def escaped? : Char → Option Nat
  | '"' => some 0x22
  | '\\' => some 0x5C
  | '/' => some 0x2F
  | 'b' => some 0x08
  | 'f' => some 0x0C
  | 'n' => some 0x0A
  | 'r' => some 0x0D
  | 't' => some 0x09
  | _ => none

/-- The code units of a string up to its closing mark. -/
def readUnits : Text → Except JsonError (List Nat × Text)
  | [] => .error .malformed
  | '"' :: rest => .ok ([], rest)
  | '\\' :: 'u' :: first :: second :: third :: fourth :: rest => do
      if [first, second, third, fourth].all isHexDigit then
        let (units, after) ← readUnits rest
        return (hexNumber [first, second, third, fourth] :: units, after)
      else throw .malformed
  | '\\' :: c :: rest => do
      match escaped? c with
      | some unit =>
          let (units, after) ← readUnits rest
          return (unit :: units, after)
      | none => throw .malformed
  | c :: rest => do
      if c.toNat < 0x20 then throw .malformed
      let (units, after) ← readUnits rest
      return (c.toNat :: units, after)

def isHighHalf (unit : Nat) : Bool := 0xD800 ≤ unit && unit < 0xDC00

def isLowHalf (unit : Nat) : Bool := 0xDC00 ≤ unit && unit < 0xE000

/-- The character of one code unit; half of a pair has none of its own. -/
def unitChar (unit : Nat) : Char :=
  if isHighHalf unit || isLowHalf unit then Char.ofNat 0xFFFD else Char.ofNat unit

/-- The text that code units write; the two halves of a pair write one character. -/
def ofUnits : List Nat → Text
  | high :: low :: rest =>
      if isHighHalf high && isLowHalf low then
        Char.ofNat (0x10000 + (high - 0xD800) * 0x400 + (low - 0xDC00)) :: ofUnits rest
      else unitChar high :: ofUnits (low :: rest)
  | [unit] => [unitChar unit]
  | [] => []

/-- A string after its opening mark. -/
def readString (text : Text) : Except JsonError (Text × Text) := do
  let (units, rest) ← readUnits text
  return (ofUnits units, rest)

def isAsciiDigit (c : Char) : Bool := '0' ≤ c && c ≤ '9'

/-- Whether `mantissa` times ten to the `exponent` is at most half of the least positive double.
With `exponent` plus the number of digits at most -324 it is, with more than -323 it is not. -/
def vanishes (mantissa : Nat) (exponent : Int) : Bool :=
  if mantissa = 0 then true
  else
    let magnitude := exponent + (decimalText mantissa).length
    if magnitude ≤ -324 then true
    else if -323 < magnitude then false
    else mantissa * Nat.pow 2 1075 ≤ Nat.pow 10 (-exponent).toNat

/-- The digits of a fraction, if `text` begins with one. -/
def readFraction (text : Text) : Text × Text :=
  match text with
  | '.' :: rest =>
      if (rest.takeWhile isAsciiDigit).isEmpty then ([], text)
      else (rest.takeWhile isAsciiDigit, rest.dropWhile isAsciiDigit)
  | _ => ([], text)

/-- The value of an exponent, if `text` begins with one. -/
def readExponent (text : Text) : Option Int × Text :=
  match text with
  | c :: rest =>
      if c = 'e' || c = 'E' then
        let negative := startsWith "-".toList rest
        let unsigned := if negative || startsWith "+".toList rest then rest.drop 1 else rest
        let digits := unsigned.takeWhile isAsciiDigit
        if digits.isEmpty then (none, text)
        else
          let size : Int := decimalValue digits
          (some (if negative then -size else size), unsigned.dropWhile isAsciiDigit)
      else (none, text)
  | [] => (none, text)

/-- A number: a whole one is kept, of another whether it vanishes. -/
def readNumber (text : Text) : Except JsonError (JsonValue × Text) := do
  let negative := startsWith "-".toList text
  let unsigned := if negative then text.drop 1 else text
  let (digits, rest) :=
    match unsigned with
    | '0' :: rest => (['0'], rest)
    | _ => (unsigned.takeWhile isAsciiDigit, unsigned.dropWhile isAsciiDigit)
  if digits.isEmpty then throw .malformed
  let (fraction, afterFraction) := readFraction rest
  let (exponent, after) := readExponent afterFraction
  if fraction.isEmpty && exponent.isNone then
    match boundedNumber digits with
    | .ok size => return (.integer (if negative then -(size : Int) else size), after)
    | .error fault => throw (.numberTooLong fault)
  else
    let power := exponent.getD 0 - fraction.length
    return (.real (vanishes (decimalValue (digits ++ fraction)) power), after)

/-- The values that have a name. -/
def named : List (Text × JsonValue) :=
  [ ("null".toList, .null), ("true".toList, .bool true), ("false".toList, .bool false),
    ("NaN".toList, .real false), ("Infinity".toList, .real false),
    ("-Infinity".toList, .real false) ]

/-- A value that is neither a string nor a collection. -/
def readScalar (text : Text) : Except JsonError (JsonValue × Text) :=
  match named.findSome? fun (name, value) => (after? name text).map fun rest => (value, rest) with
  | some reading => .ok reading
  | none => readNumber text

mutual

/-- A value. Each step into a collection and each of its elements takes one of `steps`; `room` is the
number of collections that may still be opened inside one another. -/
def readValue (steps room : Nat) (text : Text) : Except JsonError (JsonValue × Text) :=
  match steps with
  | 0 => .error .malformed
  | steps + 1 =>
      match text with
      | '"' :: rest => (readString rest).map fun (value, after) => (.string value, after)
      | '[' :: rest =>
          match room with
          | 0 => .error (.nestedTooDeep .array)
          | room + 1 =>
              match skipSpace rest with
              | ']' :: after => .ok (.array [], after)
              | body =>
                  (readElements steps room body).map fun (elements, after) =>
                    (.array elements, after)
      | '\x7b' :: rest =>
          match room with
          | 0 => .error (.nestedTooDeep .object)
          | room + 1 =>
              match skipSpace rest with
              | '\x7d' :: after => .ok (.object [], after)
              | body =>
                  (readMembers steps room body).map fun (members, after) =>
                    (.object members, after)
      | _ => readScalar text

/-- The elements of an array up to its closing bracket. -/
def readElements (steps room : Nat) (text : Text) :
    Except JsonError (List JsonValue × Text) :=
  match steps with
  | 0 => .error .malformed
  | steps + 1 => do
      let (element, rest) ← readValue steps room text
      match skipSpace rest with
      | ']' :: after => return ([element], after)
      | ',' :: more =>
          let (elements, after) ← readElements steps room (skipSpace more)
          return (element :: elements, after)
      | _ => throw .malformed

/-- The members of an object up to its closing brace. -/
def readMembers (steps room : Nat) (text : Text) :
    Except JsonError (List (Text × JsonValue) × Text) :=
  match steps with
  | 0 => .error .malformed
  | steps + 1 =>
      match text with
      | '"' :: rest => do
          let (key, afterKey) ← readString rest
          match skipSpace afterKey with
          | ':' :: afterColon =>
              let (value, afterValue) ← readValue steps room (skipSpace afterColon)
              match skipSpace afterValue with
              | '\x7d' :: after => return ([(key, value)], after)
              | ',' :: more =>
                  let (members, after) ← readMembers steps room (skipSpace more)
                  return ((key, value) :: members, after)
              | _ => throw .malformed
          | _ => throw .malformed
      | _ => .error .malformed

end

/-- The most collections that may stand inside one another. -/
def depthLimit : Nat := 985

/-- The value that a whole text writes. Every step takes a character, save the step into a
collection, which takes two at one. -/
def parse (text : Text) : Except JsonError JsonValue := do
  let (value, rest) ← readValue (2 * text.length + 2) depthLimit (skipSpace text)
  if (skipSpace rest).isEmpty then return value else throw .malformed

/-- The last member with a given key. -/
def member? (members : List (Text × JsonValue)) (key : Text) : Option JsonValue :=
  members.reverse.lookup key

/-- Whether a value counts as given: null, false, zero and what is empty do not. -/
def isGiven : JsonValue → Bool
  | .null => false
  | .bool value => value
  | .integer value => value != 0
  | .real vanishes => !vanishes
  | .string value => !value.isEmpty
  | .array elements => !elements.isEmpty
  | .object members => !members.isEmpty

/-- The word for the kind of a value in messages. -/
def kindName : JsonValue → String
  | .null => "NoneType"
  | .bool _ => "bool"
  | .integer _ => "int"
  | .real _ => "float"
  | .string _ => "str"
  | .array _ => "list"
  | .object _ => "dict"

end JsonValue

end Wikidown
