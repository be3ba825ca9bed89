import Wikidown.Text.Digit

/-!
Decimal numbers in texts. A number of too many digits is not read.
-/

namespace Wikidown

set_option autoImplicit false

/-- The most digits that a decimal number may have, with its leading zeros. -/
def digitLimit : Nat := 4300

/-- A number with more digits than `digitLimit`. -/
structure NumberTooLong where
  digits : Nat
deriving DecidableEq, Repr

/-- The message about a number that is too long to be read. -/
def NumberTooLong.message (fault : NumberTooLong) : String :=
  "Exceeds the limit (" ++ toString digitLimit ++
    " digits) for integer string conversion: value has " ++ toString fault.digits ++
    " digits; use sys.set_int_max_str_digits() to increase the limit"

/-- The number that a run of digits writes. -/
def boundedNumber (digits : Text) : Except NumberTooLong Nat :=
  if digitLimit < digits.length then .error ⟨digits.length⟩ else .ok (decimalValue digits)

end Wikidown
