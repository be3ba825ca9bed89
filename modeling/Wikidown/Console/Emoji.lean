import Wikidown.Console.EmojiNames
import Wikidown.Text.Blank
import Wikidown.Text.Digit
import Wikidown.Text.Lines
import Wikidown.Text.LowerCase
import Wikidown.Text.Substitution

/-!
Emoji in messages. A name between two colons stands for its emoji; a name that no emoji has stays as
it is, with its colons.
-/

namespace Wikidown.Emoji

set_option autoImplicit false

/-- What a name stands for in a table. -/
def meaning? (table : List String) (name : Text) : Option Text :=
  table.findSome? fun row => (pieces ' ' row.toList).findSome? (after? (name ++ ['=']))

/-- The characters of code points with hyphens between them. -/
def ofCodePoints (codes : Text) : Text :=
  (pieces '-' codes).map fun code => Char.ofNat (hexNumber code)

/-- A flag is the code of its region in letters of their own. -/
def ofRegion (letters : Text) : Text := letters.map fun letter => Char.ofNat (letter.toNat + 0x1F1A5)

/-- The flag of a region; its name may say that it is a flag. -/
def flag? (name : Text) : Option Text :=
  (meaning? regions ((after? "flag_for_".toList name).getD name)).map ofRegion

/-- The endings of names with a skin tone, and the characters of the tones. -/
def skinTones : List (String × Nat) :=
  [("_light_skin_tone", 0x1F3FB), ("_medium-light_skin_tone", 0x1F3FC),
    ("_medium_skin_tone", 0x1F3FD), ("_medium-dark_skin_tone", 0x1F3FE),
    ("_dark_skin_tone", 0x1F3FF)]

/-- The character that asks for an emoji in colour. -/
def colorSelector : Char := Char.ofNat 0xFE0F

/-- The character that asks for an emoji in plain print. -/
def printSelector : Char := Char.ofNat 0xFE0E

/-- A tone follows the first character of an emoji, in the place of its selector. -/
def withTone (tone : Nat) : Text → Text
  | [] => []
  | first :: rest => first :: Char.ofNat tone :: (after? [colorSelector] rest).getD rest

/-- The emoji of a person in a skin tone. -/
def tonedPerson? (name : Text) : Option Text :=
  skinTones.findSome? fun (ending, tone) =>
    ((before? ending.toList name).bind (meaning? people)).map fun codes =>
      withTone tone (ofCodePoints codes)

/-- The emoji of a name in lower case. -/
def named? (name : Text) : Option Text :=
  let listed := (meaning? symbols name).or (meaning? people name)
  (listed.map ofCodePoints).or ((flag? name).or (tonedPerson? name))

/-- The ways to end a name, with the selector that each asks for. -/
def endings : List (Text × Text) :=
  [("-emoji:".toList, [colorSelector]), ("-text:".toList, [printSelector]), (":".toList, [])]

/-- The ending that `text` begins with, its selector, and what follows it. -/
def ending? (text : Text) : Option (Text × Text × Text) :=
  endings.findSome? fun (ending, selector) =>
    (after? ending text).map fun rest => (ending, selector, rest)

theorem ending_length {text ending selector rest : Text}
    (found : ending? text = some (ending, selector, rest)) : rest.length ≤ text.length := by
  obtain ⟨_, _, step⟩ := List.exists_of_findSome?_eq_some found
  obtain ⟨_, closed, shape⟩ := Option.map_eq_some_iff.mp step
  simp only [Prod.mk.injEq] at shape
  obtain ⟨rfl, rfl, rfl⟩ := shape
  have size := after_length closed
  omega

/-- The emoji of the name that `text` begins with, after its first colon, or what is written there.
A name ends as soon as it can, and holds no blank. -/
def finish? (text : Text) : Option (Text × Text) :=
  (upTo? ending? text).bind fun (name, ending, selector, rest) =>
    if name.any isBlank then none
    else
      match named? (lowerText name) with
      | some emoji => some (emoji ++ selector, rest)
      | none => some (':' :: (name ++ ending), rest)

theorem finish_length {text written rest : Text} (found : finish? text = some (written, rest)) :
    rest.length ≤ text.length := by
  obtain ⟨⟨name, ending, selector, tail⟩, read, shape⟩ := Option.bind_eq_some_iff.mp found
  obtain ⟨middle, rfl, closed⟩ := up_to_found read
  have size := ending_length closed
  have same : tail = rest := by
    simp only at shape
    split at shape
    · simp at shape
    · split at shape <;> simp_all
  simp only [List.length_append, ← same]
  omega

/-- Write emoji for their names. -/
def rule : Substitution := .opened ":".toList finish? (by decide) finish_length

end Wikidown.Emoji
