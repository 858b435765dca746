/-! # Decimal notation

Whole numbers in base ten: written without leading zeros, a minus sign in front of a negative one,
and read from any run of digits, leading zeros included. Reading what was written gives the number
back.
-/

set_option autoImplicit false

namespace ResourceFilter.Text

/-- The decimal digits of a number, without leading zeros. -/
def decimalDigits (n : Nat) : List Char :=
  Nat.toDigits 10 n

/-- The number that a run of decimal digits denotes. -/
def decimalValue (digits : List Char) : Nat :=
  Nat.ofDigitChars 10 digits 0

/-- A whole number in decimal notation. -/
def decimal : Int → String
  | .ofNat n => String.ofList (decimalDigits n)
  | .negSucc n => "-" ++ String.ofList (decimalDigits (n + 1))

/-- Reading the digits of a number gives the number. -/
theorem decimalValue_decimalDigits (n : Nat) : decimalValue (decimalDigits n) = n :=
  Nat.ofDigitChars_toDigits (by decide) (by decide)

/-- Written numbers consist of digits. -/
theorem isDigit_of_mem_decimalDigits {n : Nat} {c : Char} (mem : c ∈ decimalDigits n) :
    c.isDigit = true :=
  Nat.isDigit_of_mem_toDigits (by decide) (by decide) mem

end ResourceFilter.Text
