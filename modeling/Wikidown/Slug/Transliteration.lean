import Wikidown.Slug.Decomposition

/-!
Titles of every script in the characters of ASCII.
-/

namespace Wikidown.Slug

set_option autoImplicit false

/-- The Cyrillic letters from U+0430 on; the capital letters stand thirty-two places before them. -/
def cyrillicLetters : List String :=
  ["a", "b", "v", "g", "d", "e", "zh", "z", "i", "i", "k", "l", "m", "n", "o", "p", "r", "s",
    "t", "u", "f", "kh", "ts", "ch", "sh", "shch", "'", "y", "'", "e", "iu", "ia"]

/-- The hiragana from U+3041 on; the katakana stand ninety-six places after them. A sound mark does
not change the syllable. -/
def kanaSyllables : List String :=
  ["a", "a", "i", "i", "u", "u", "e", "e", "o", "o", "ka", "ka", "ki", "ki", "ku", "ku", "ke",
    "ke", "ko", "ko", "sa", "sa", "si", "si", "su", "su", "se", "se", "so", "so", "ta", "ta",
    "ti", "ti", "tu", "tu", "tu", "te", "te", "to", "to", "na", "ni", "nu", "ne", "no", "ha",
    "ha", "ha", "hi", "hi", "hi", "hu", "hu", "hu", "he", "he", "he", "ho", "ho", "ho", "ma",
    "mi", "mu", "me", "mo", "ya", "ya", "yu", "yu", "yo", "yo", "ra", "ri", "ru", "re", "ro",
    "wa", "wa", "wi", "we", "wo", "n", "u", "ka", "ke"]

/-- Other characters that are written in ASCII. -/
def otherCharacters : List (Nat × String) :=
  [(0x00A0, " "), (0x00A1, "!"), (0x00A2, "C/"), (0x00A3, "PS"), (0x00A4, "$?"), (0x00A5, "Y="),
    (0x00A6, "|"), (0x00A7, "SS"), (0x00A8, " "), (0x00A9, "(c)"), (0x00AB, "<<"), (0x00AC, "!"),
    (0x00AE, "(r)"), (0x00AF, " "), (0x00B0, "deg"), (0x00B1, "+-"), (0x00B4, " "), (0x00B5, "m"),
    (0x00B6, "P"), (0x00B7, "*"), (0x00B8, " "), (0x00BB, ">>"), (0x00BF, "?"), (0x00C6, "AE"),
    (0x00D0, "D"), (0x00D7, "x"), (0x00D8, "O"), (0x00DE, "Th"), (0x00DF, "ss"), (0x00E6, "ae"),
    (0x00F0, "d"), (0x00F7, "/"), (0x00F8, "o"), (0x00FE, "th"), (0x200B, " "), (0x2013, "-"),
    (0x2014, "--"), (0x2018, "'"), (0x2019, "'"), (0x201C, "\x22"), (0x201D, "\x22"),
    (0x2026, "..."), (0x2028, "\n"), (0x20AC, "EUR"), (0x2122, "TM"), (0x2460, "1"),
    (0x3000, " "), (0x4E8B, "Shi "), (0x65E5, "Ri "), (0x672C, "Ben "), (0x8A9E, "Yu "),
    (0x8B70, "Yi "), (0x9332, "Lu ")]

/-- The syllable or letter of a table that begins at a code point. -/
def entryFrom? (start : Nat) (table : List String) (c : Char) : Option String :=
  if start ≤ c.toNat then table[c.toNat - start]? else none

/-- A character in ASCII. What has no counterpart there is left out. -/
def transliterate (c : Char) : Text :=
  if c.toNat < 0x80 then [c]
  else
    let known :=
      (otherCharacters.lookup c.toNat).or
        ((entryFrom? 0x0430 cyrillicLetters c).or
          ((entryFrom? 0x0410 cyrillicLetters c).or
            ((entryFrom? 0x3041 kanaSyllables c).or (entryFrom? 0x30A1 kanaSyllables c))))
    match known with
    | some letters => letters.toList
    | none => (decompose c).filter fun part => part.toNat < 0x80

end Wikidown.Slug
