import Wikidown.Text.Basic

/-!
Small letters for capital ones, in the Latin, Greek and Cyrillic alphabets.
-/

namespace Wikidown

set_option autoImplicit false

/-- The capital letters that stand at every second place of a range, each before its small one. -/
def pairedRanges : List (Nat × Nat) :=
  [(0x0100, 0x012E), (0x0132, 0x0136), (0x0139, 0x0147), (0x014A, 0x0176), (0x0179, 0x017D),
    (0x0460, 0x0480), (0x048A, 0x04BE), (0x04D0, 0x052E), (0x1E00, 0x1E94), (0x1EA0, 0x1EFE)]

/-- The capital letters of a range, with the distance of the small ones. -/
def shiftedRanges : List (Nat × Nat × Nat) :=
  [(0x0041, 0x005A, 32), (0x00C0, 0x00D6, 32), (0x00D8, 0x00DE, 32), (0x0391, 0x03A1, 32),
    (0x03A3, 0x03AB, 32), (0x0400, 0x040F, 80), (0x0410, 0x042F, 32), (0xFF21, 0xFF3A, 32)]

def lowerChar (c : Char) : Char :=
  let point := c.toNat
  if point = 0x212A then 'k'
  else if pairedRanges.any fun (first, last) =>
      first ≤ point && point ≤ last && (point - first) % 2 == 0 then
    Char.ofNat (point + 1)
  else
    match shiftedRanges.find? fun (first, last, _) => first ≤ point && point ≤ last with
    | some (_, _, distance) => Char.ofNat (point + distance)
    | none => c

def lowerText (text : Text) : Text := text.map lowerChar

end Wikidown
