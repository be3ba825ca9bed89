import Wikidown.Text.Lines

/-!
Characters that are made of characters of ASCII: letters with accents, digits and letters in other
forms, ligatures, fractions, units. Decomposed, a letter with accents is the letter followed by a
mark.
-/

namespace Wikidown.Slug

set_option autoImplicit false

/-- A mark that stands for the accents of a letter. -/
def accent : Char := Char.ofNat 0x0301

/-- What the characters of a row of code points are made of, by the first code point, with a space
between each two. An acute accent stands for any accent, a raised dot for any other character
beyond ASCII and for the space. -/
def decompositions : List (Nat × String) :=
  [(0x00A0, "·"), (0x00A8, "·´"), (0x00AA, "a"), (0x00AF, "·´"), (0x00B2, "2 3 ·´"),
    (0x00B8, "·´ 1 o"), (0x00BC, "1·4 1·2 3·4"), (0x00C0, "A´ A´ A´ A´ A´ A´"),
    (0x00C7, "C´ E´ E´ E´ E´ I´ I´ I´ I´"), (0x00D1, "N´ O´ O´ O´ O´ O´"),
    (0x00D9, "U´ U´ U´ U´ Y´"), (0x00E0, "a´ a´ a´ a´ a´ a´"),
    (0x00E7, "c´ e´ e´ e´ e´ i´ i´ i´ i´"), (0x00F1, "n´ o´ o´ o´ o´ o´"),
    (0x00F9, "u´ u´ u´ u´ y´"), (0x00FF, "y´ A´ a´ A´ a´ A´ a´ C´ c´ C´ c´ C´ c´ C´ c´ D´ d´"),
    (0x0112, "E´ e´ E´ e´ E´ e´ E´ e´ E´ e´ G´ g´ G´ g´ G´ g´ G´ g´ H´ h´"),
    (0x0128, "I´ i´ I´ i´ I´ i´ I´ i´ I´"), (0x0132, "IJ ij J´ j´ K´ k´"),
    (0x0139, "L´ l´ L´ l´ L´ l´ L· l·"), (0x0143, "N´ n´ N´ n´ N´ n´ ·n"),
    (0x014C, "O´ o´ O´ o´ O´ o´"),
    (0x0154, "R´ r´ R´ r´ R´ r´ S´ s´ S´ s´ S´ s´ S´ s´ T´ t´ T´ t´"),
    (0x0168, "U´ u´ U´ u´ U´ u´ U´ u´ U´ u´ U´ u´ W´ w´ Y´ y´ Y´ Z´ z´ Z´ z´ Z´ z´ s"),
    (0x01A0, "O´ o´"), (0x01AF, "U´ u´"),
    (0x01C4, "DZ´ Dz´ dz´ LJ Lj lj NJ Nj nj A´ a´ I´ i´ O´ o´ U´ u´ U´ u´ U´ u´ U´ u´ U´"),
    (0x01DC, "u´"), (0x01DE, "A´ a´ A´ a´"), (0x01E6, "G´ g´ K´ k´ O´ o´ O´ o´"),
    (0x01F0, "j´ DZ Dz dz G´ g´"), (0x01F8, "N´ n´ A´ a´"),
    (0x0200, "A´ a´ A´ a´ E´ e´ E´ e´ I´ i´ I´ i´ O´ o´ O´ o´ R´ r´ R´ r´ U´ u´ U´ u´ S´"),
    (0x0219, "s´ T´ t´"), (0x021E, "H´ h´"), (0x0226, "A´ a´ E´ e´ O´ o´ O´ o´ O´ o´ O´ o´ Y´ y´"),
    (0x02B0, "h"), (0x02B2, "j r"), (0x02B7, "w y"), (0x02D8, "·´ ·´ ·´ ·´ ·´ ·´"),
    (0x02E1, "l s x"), (0x037A, "·´"), (0x037E, ";"), (0x0384, "·´ ·´"), (0x1D2C, "A"),
    (0x1D2E, "B"), (0x1D30, "D E"), (0x1D33, "G H I J K L M N"), (0x1D3C, "O"),
    (0x1D3E, "P R T U W a"), (0x1D47, "b d e"), (0x1D4D, "g"), (0x1D4F, "k m"), (0x1D52, "o"),
    (0x1D56, "p t u"), (0x1D5B, "v"), (0x1D62, "i r u v"), (0x1D9C, "c"), (0x1DA0, "f"),
    (0x1DBB, "z"),
    (0x1E00, "A´ a´ B´ b´ B´ b´ B´ b´ C´ c´ D´ d´ D´ d´ D´ d´ D´ d´ D´ d´ E´ e´ E´ e´ E´"),
    (0x1E19, "e´ E´ e´ E´ e´ F´ f´ G´ g´ H´ h´ H´ h´ H´ h´ H´ h´ H´ h´ I´ i´ I´ i´ K´ k´"),
    (0x1E32, "K´ k´ K´ k´ L´ l´ L´ l´ L´ l´ L´ l´ M´ m´ M´ m´ M´ m´ N´ n´ N´ n´ N´ n´ N´"),
    (0x1E4B, "n´ O´ o´ O´ o´ O´ o´ O´ o´ P´ p´ P´ p´ R´ r´ R´ r´ R´ r´ R´ r´ S´ s´ S´ s´"),
    (0x1E64, "S´ s´ S´ s´ S´ s´ T´ t´ T´ t´ T´ t´ T´ t´ U´ u´ U´ u´ U´ u´ U´ u´ U´ u´ V´"),
    (0x1E7D, "v´ V´ v´ W´ w´ W´ w´ W´ w´ W´ w´ W´ w´ X´ x´ X´ x´ Y´ y´ Z´ z´ Z´ z´ Z´ z´"),
    (0x1E96, "h´ t´ w´ y´ a· s´"),
    (0x1EA0, "A´ a´ A´ a´ A´ a´ A´ a´ A´ a´ A´ a´ A´ a´ A´ a´ A´ a´ A´ a´ A´ a´ A´ a´ E´"),
    (0x1EB9, "e´ E´ e´ E´ e´ E´ e´ E´ e´ E´ e´ E´ e´ E´ e´ I´ i´ I´ i´ O´ o´ O´ o´ O´ o´"),
    (0x1ED2, "O´ o´ O´ o´ O´ o´ O´ o´ O´ o´ O´ o´ O´ o´ O´ o´ O´ o´ U´ u´ U´ u´ U´ u´ U´"),
    (0x1EEB, "u´ U´ u´ U´ u´ U´ u´ Y´ y´ Y´ y´ Y´ y´ Y´ y´"), (0x1FBD, "·´"), (0x1FBF, "·´ ·´ ·´"),
    (0x1FCD, "·´ ·´ ·´"), (0x1FDD, "·´ ·´ ·´"), (0x1FED, "·´ ·´ `"), (0x1FFD, "·´ ·´"),
    (0x2000, "· · · · · · · · · · ·"), (0x2017, "·´"), (0x2024, ". .. ..."), (0x202F, "·"),
    (0x203C, "!!"), (0x203E, "·´"), (0x2047, "?? ?! !?"), (0x205F, "·"), (0x2070, "0 i"),
    (0x2074, "4 5 6 7 8 9 +"), (0x207C, "= ( ) n 0 1 2 3 4 5 6 7 8 9 +"), (0x208C, "= ( )"),
    (0x2090, "a e o x"), (0x2095, "h k l m n p s t"), (0x20A8, "Rs"), (0x2100, "a/c a/s C ·C"),
    (0x2105, "c/o c/u"), (0x2109, "·F g H H H h"), (0x2110, "I I L l"), (0x2115, "N No"),
    (0x2119, "P Q R R R"), (0x2120, "SM TEL TM"), (0x2124, "Z"), (0x2128, "Z"),
    (0x212A, "K A´ B C"), (0x212F, "e E F"), (0x2133, "M o"), (0x2139, "i"), (0x213B, "FAX"),
    (0x2145, "D d e i j"),
    (0x2150, "1·7 1·9 1·10 1·3 2·3 1·5 2·5 3·5 4·5 1·6 5·6 1·8 3·8 5·8 7·8 1· I II III IV"),
    (0x2164, "V VI VII VIII IX X XI XII L C D M i ii iii iv v vi vii viii ix x xi xii l c"),
    (0x217E, "d m"), (0x2189, "0·3"), (0x2260, "=´"), (0x226E, "<´ >´"),
    (0x2460, "1 2 3 4 5 6 7 8 9 10 11 12 13 14 15 16 17 18 19 20 (1) (2) (3) (4) (5) (6)"),
    (0x247A, "(7) (8) (9) (10) (11) (12) (13) (14) (15) (16) (17) (18) (19) (20) 1. 2. 3."),
    (0x248B, "4. 5. 6. 7. 8. 9. 10. 11. 12. 13. 14. 15. 16. 17. 18. 19. 20. (a) (b) (c)"),
    (0x249F, "(d) (e) (f) (g) (h) (i) (j) (k) (l) (m) (n) (o) (p) (q) (r) (s) (t) (u) (v)"),
    (0x24B2, "(w) (x) (y) (z) A B C D E F G H I J K L M N O P Q R S T U V W X Y Z a b c d"),
    (0x24D4, "e f g h i j k l m n o p q r s t u v w x y z 0"), (0x2A74, "::= == ==="),
    (0x2C7C, "j V"), (0x3000, "·"), (0x309B, "·´ ·´"),
    (0x3200, "(·) (·) (·) (·) (·) (·) (·) (·) (·) (·) (·) (·) (·) (·) (·) (·) (·) (·) (·)"),
    (0x3213, "(·) (·) (·) (·) (·) (·) (·) (·) (·) (·) (·) (·)"),
    (0x3220, "(·) (·) (·) (·) (·) (·) (·) (·) (·) (·) (·) (·) (·) (·) (·) (·) (·) (·) (·)"),
    (0x3233, "(·) (·) (·) (·) (·) (·) (·) (·) (·) (·) (·) (·) (·) (·) (·) (·) (·)"),
    (0x3250, "PTE 21 22 23 24 25 26 27 28 29 30 31 32 33 34 35"),
    (0x32B1, "36 37 38 39 40 41 42 43 44 45 46 47 48 49 50 1· 2· 3· 4· 5· 6· 7· 8· 9· 10·"),
    (0x32CA, "11· 12· Hg erg eV LTD"),
    (0x3358, "0· 1· 2· 3· 4· 5· 6· 7· 8· 9· 10· 11· 12· 13· 14· 15· 16· 17· 18· 19· 20·"),
    (0x336D, "21· 22· 23· 24· hPa da AU bar oV pc dm dm2 dm3 IU"),
    (0x3380, "pA nA ·A mA kA KB MB GB cal kcal pF nF ·F ·g mg kg Hz kHz MHz GHz THz ·l ml"),
    (0x3397, "dl kl fm nm ·m mm cm km mm2 cm2 m2 km2 mm3 cm3 m3 km3 m·s m·s2 Pa kPa MPa"),
    (0x33AC, "GPa rad rad·s rad·s2 ps ns ·s ms pV nV ·V mV kV MV pW nW ·W mW kW MW k· M·"),
    (0x33C2, "a.m. Bq cc cd C·kg Co. dB Gy ha HP in KK KM kt lm ln log lx mb mil mol PH"),
    (0x33D8, "p.m. PPM PR sr Sv Wb V·m A·m 1· 2· 3· 4· 5· 6· 7· 8· 9· 10· 11· 12· 13· 14·"),
    (0x33EE, "15· 16· 17· 18· 19· 20· 21· 22· 23· 24· 25· 26· 27· 28· 29· 30· 31· gal"),
    (0xA7F2, "C F Q"), (0xFB00, "ff fi fl ffi ffl st st"), (0xFB29, "+"),
    (0xFC5E, "·´ ·´ ·´ ·´ ·´ ·´"), (0xFDFA, "· ·"), (0xFE10, ","), (0xFE13, ": ; ! ?"),
    (0xFE19, "..."), (0xFE30, ".."), (0xFE33, "_ _ ( ) \x7b \x7d"),
    (0xFE47, "[ ] ·´ ·´ ·´ ·´ _ _ _ ,"), (0xFE52, "."), (0xFE54, "; : ? !"),
    (0xFE59, "( ) \x7b \x7d"), (0xFE5F, "# & * + - < > ="), (0xFE68, "\\ $ % @"), (0xFE70, "·´"),
    (0xFE72, "·´"), (0xFE74, "·´"), (0xFE76, "·´"), (0xFE78, "·´"), (0xFE7A, "·´"), (0xFE7C, "·´"),
    (0xFE7E, "·´"), (0xFFE3, "·´"), (0x107A5, "q"),
    (0x1D400, "A B C D E F G H I J K L M N O P Q R S T U V W X Y Z a b c d e f g h i j k l"),
    (0x1D426, "m n o p q r s t u v w x y z A B C D E F G H I J K L M N O P Q R S T U V W X"),
    (0x1D44C, "Y Z a b c d e f g"),
    (0x1D456, "i j k l m n o p q r s t u v w x y z A B C D E F G H I J K L M N O P Q R S T"),
    (0x1D47C, "U V W X Y Z a b c d e f g h i j k l m n o p q r s t u v w x y z A"),
    (0x1D49E, "C D"), (0x1D4A2, "G"), (0x1D4A5, "J K"), (0x1D4A9, "N O P Q"),
    (0x1D4AE, "S T U V W X Y Z a b c d"), (0x1D4BB, "f"), (0x1D4BD, "h i j k l m n"),
    (0x1D4C5, "p q r s t u v w x y z A B C D E F G H I J K L M N O P Q R S T U V W X Y Z a"),
    (0x1D4EB, "b c d e f g h i j k l m n o p q r s t u v w x y z A B"), (0x1D507, "D E F G"),
    (0x1D50D, "J K L M N O P Q"), (0x1D516, "S T U V W X Y"),
    (0x1D51E, "a b c d e f g h i j k l m n o p q r s t u v w x y z A B"), (0x1D53B, "D E F G"),
    (0x1D540, "I J K L M"), (0x1D546, "O"), (0x1D54A, "S T U V W X Y"),
    (0x1D552, "a b c d e f g h i j k l m n o p q r s t u v w x y z A B C D E F G H I J K L"),
    (0x1D578, "M N O P Q R S T U V W X Y Z a b c d e f g h i j k l m n o p q r s t u v w x"),
    (0x1D59E, "y z A B C D E F G H I J K L M N O P Q R S T U V W X Y Z a b c d e f g h i j"),
    (0x1D5C4, "k l m n o p q r s t u v w x y z A B C D E F G H I J K L M N O P Q R S T U V"),
    (0x1D5EA, "W X Y Z a b c d e f g h i j k l m n o p q r s t u v w x y z A B C D E F G H"),
    (0x1D610, "I J K L M N O P Q R S T U V W X Y Z a b c d e f g h i j k l m n o p q r s t"),
    (0x1D636, "u v w x y z A B C D E F G H I J K L M N O P Q R S T U V W X Y Z a b c d e f"),
    (0x1D65C, "g h i j k l m n o p q r s t u v w x y z A B C D E F G H I J K L M N O P Q R"),
    (0x1D682, "S T U V W X Y Z a b c d e f g h i j k l m n o p q r s t u v w x y z"),
    (0x1D7CE, "0 1 2 3 4 5 6 7 8 9 0 1 2 3 4 5 6 7 8 9 0 1 2 3 4 5 6 7 8 9 0 1 2 3 4 5 6 7"),
    (0x1D7F4, "8 9 0 1 2 3 4 5 6 7 8 9"), (0x1F100, "0. 0, 1, 2, 3, 4, 5, 6, 7, 8, 9,"),
    (0x1F110, "(A) (B) (C) (D) (E) (F) (G) (H) (I) (J) (K) (L) (M) (N) (O) (P) (Q) (R) (S)"),
    (0x1F123, "(T) (U) (V) (W) (X) (Y) (Z) ·S· C R CD WZ"),
    (0x1F130, "A B C D E F G H I J K L M N O P Q R S T U V W X Y Z HV MV SD SS PPV WC"),
    (0x1F16A, "MC MD MR"), (0x1F190, "DJ"), (0x1FBF0, "0 1 2 3 4 5 6 7 8 9")]

/-- The part of a decomposition that a character of the table stands for. -/
def decomposedPart (c : Char) : Char :=
  if c = '´' then accent else if c = '·' then ' ' else c

/-- The entry of a character in a row of the table. -/
def entryIn? (c : Char) (row : Nat × String) : Option Text :=
  if row.1 ≤ c.toNat then (pieces ' ' row.2.toList)[c.toNat - row.1]? else none

/-- The characters that a character is made of. The wide forms of the printable characters of ASCII
stand in the same order as those. -/
def decompose (c : Char) : Text :=
  if c.toNat < 0x80 then [c]
  else if 0xFF01 ≤ c.toNat && c.toNat ≤ 0xFF5E then [Char.ofNat (c.toNat - 0xFEE0)]
  else
    match decompositions.findSome? (entryIn? c) with
    | some parts => parts.map decomposedPart
    | none => [c]

end Wikidown.Slug
