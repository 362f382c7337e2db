namespace Provision.Text

/-!
# Decimal numbers

Digits are the ten ASCII digits.  Reading accepts any number of leading zeros; callers that forbid
them say so themselves.
-/

/-- The value of one ASCII digit. -/
def digit? (c : Char) : Option Nat :=
  if c.isDigit then some (c.toNat - '0'.toNat) else none

/-- Read digits onto a value that has been read so far. -/
def decimalFrom : Nat → List Char → Option Nat
  | value, [] => some value
  | value, c :: rest =>
      match digit? c with
      | some d => decimalFrom (10 * value + d) rest
      | none => none

/-- The value of a non-empty text of ASCII digits. -/
def decimal? : List Char → Option Nat
  | [] => none
  | digits => decimalFrom 0 digits

/-- The value of a non-empty text of ASCII digits that fits in 64 bits. -/
def word64? (digits : List Char) : Option UInt64 :=
  match decimal? digits with
  | some value => if value < UInt64.size then some (UInt64.ofNat value) else none
  | none => none

end Provision.Text
