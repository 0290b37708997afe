/-! # Numbers on the command line

A number is an optional plus sign and decimal digits, and must fit into 64 bits. It is read from
the left, so of two faults the first one is reported. -/

namespace PipeShell.Settings

/-- Why a text is no number. -/
inductive NumberError where
  | empty
  | invalidDigit
  | tooLarge
  deriving DecidableEq, Repr

def NumberError.message : NumberError → String
  | empty => "cannot parse integer from empty string"
  | invalidDigit => "invalid digit found in string"
  | tooLarge => "number too large to fit in target type"

/-- The largest number that fits. -/
def largest : Nat := 18446744073709551615

def digitValue (c : Char) : Nat := c.toNat - '0'.toNat

/-- The number whose decimal digits are those of `value` and then these. -/
def readDigits (value : Nat) : List Char → Except NumberError Nat
  | [] => .ok value
  | c :: cs =>
    if c.isDigit then
      let value := 10 * value + digitValue c
      if largest < value then .error .tooLarge else readDigits value cs
    else .error .invalidDigit

def readNumber (text : String) : Except NumberError Nat :=
  match text.toList with
  | [] => .error .empty
  | ['+'] => .error .invalidDigit
  | '+' :: digits => readDigits 0 digits
  | digits => readDigits 0 digits

end PipeShell.Settings
