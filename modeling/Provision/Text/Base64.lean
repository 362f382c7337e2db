import Provision.Text.Utf8

namespace Provision.Text.Base64

/-!
# Bytes as text of sixty-four letters

Three bytes are written as four letters of six bits each.  One or two bytes at the end are written
as two or three letters, filled up to four with `=`.  Reading what was written gives the bytes back.
-/

/-- The letters, by value. -/
def alphabet : List Char :=
  "ABCDEFGHIJKLMNOPQRSTUVWXYZabcdefghijklmnopqrstuvwxyz0123456789+/".toList

/-- The letter of six bits. -/
def letter (value : Nat) : Char :=
  (alphabet[value % 64]?).getD 'A'

/-- The six bits of a letter. -/
def value? (c : Char) : Option Nat :=
  if 'A' ≤ c ∧ c ≤ 'Z' then
    some (c.toNat - 65)
  else if 'a' ≤ c ∧ c ≤ 'z' then
    some (c.toNat - 71)
  else if '0' ≤ c ∧ c ≤ '9' then
    some (c.toNat + 4)
  else if c = '+' then
    some 62
  else if c = '/' then
    some 63
  else
    none

/-- The text of a byte sequence. -/
def encode : Bytes → List Char
  | a :: b :: c :: rest =>
      letter (a.toNat / 4) :: letter (a.toNat % 4 * 16 + b.toNat / 16) ::
        letter (b.toNat % 16 * 4 + c.toNat / 64) :: letter (c.toNat % 64) :: encode rest
  | [a, b] =>
      [letter (a.toNat / 4), letter (a.toNat % 4 * 16 + b.toNat / 16),
        letter (b.toNat % 16 * 4), '=']
  | [a] => [letter (a.toNat / 4), letter (a.toNat % 4 * 16), '=', '=']
  | [] => []

/-- The byte that begins with all bits of one value and goes on with two bits of the next. -/
def first (a b : Nat) : UInt8 :=
  .ofNat (a * 4 + b / 16)

/-- The byte that begins with four bits of one value and goes on with four bits of the next. -/
def second (b c : Nat) : UInt8 :=
  .ofNat (b * 16 + c / 4)

/-- The byte that begins with two bits of one value and goes on with all bits of the next. -/
def third (c d : Nat) : UInt8 :=
  .ofNat (c * 64 + d)

/-- The byte sequence of a text; nothing if a letter or the filling is wrong. -/
def decode? : List Char → Option Bytes
  | [] => some []
  | a :: b :: c :: d :: rest =>
      match value? a, value? b, value? c, value? d with
      | some a, some b, some c, some d =>
          (decode? rest).map fun others => first a b :: second b c :: third c d :: others
      | some a, some b, some c, none =>
          if d = '=' ∧ rest = [] then some [first a b, second b c] else none
      | some a, some b, none, none =>
          if c = '=' ∧ d = '=' ∧ rest = [] then some [first a b] else none
      | _, _, _, _ => none
  | _ => none

/-- Every letter stands for the value it is written for. -/
theorem value?_letter (value : Nat) : value? (letter value) = some (value % 64) := by
  have small : value % 64 < 64 := Nat.mod_lt _ (by decide)
  simp only [letter]
  generalize value % 64 = bits at small
  have all : ∀ bits < 64, value? ((alphabet[bits]?).getD 'A') = some bits := by decide +kernel
  exact all bits small

/-- The filling is no letter. -/
theorem value?_filling : value? '=' = none := by
  decide

/-- The first of three bytes is read back. -/
theorem first_of_parts
    (a : UInt8)
    (rest : Nat)
    (small : rest < 16) :
    first (a.toNat / 4 % 64) ((a.toNat % 4 * 16 + rest) % 64) = a := by
  have bound := a.toNat_lt
  apply UInt8.toNat_inj.mp
  simp only [first, UInt8.toNat_ofNat']
  omega

/-- The second of three bytes is read back. -/
theorem second_of_parts
    (a b : UInt8)
    (rest : Nat)
    (small : rest < 4) :
    second ((a.toNat % 4 * 16 + b.toNat / 16) % 64) ((b.toNat % 16 * 4 + rest) % 64) = b := by
  have bound := b.toNat_lt
  apply UInt8.toNat_inj.mp
  simp only [second, UInt8.toNat_ofNat']
  omega

/-- The third of three bytes is read back. -/
theorem third_of_parts (b c : UInt8) :
    third ((b.toNat % 16 * 4 + c.toNat / 64) % 64) (c.toNat % 64) = c := by
  have bound := c.toNat_lt
  apply UInt8.toNat_inj.mp
  simp only [third, UInt8.toNat_ofNat']
  omega

/-- Reading what was written gives the bytes back. -/
theorem decode?_encode (bytes : Bytes) : decode? (encode bytes) = some bytes := by
  fun_induction encode bytes with
  | case1 a b c rest inductionHypothesis =>
      have boundB := b.toNat_lt
      have boundC := c.toNat_lt
      simp [decode?, value?_letter, inductionHypothesis,
        first_of_parts a (b.toNat / 16) (by omega),
        second_of_parts a b (c.toNat / 64) (by omega), third_of_parts]
  | case2 a b =>
      have boundB := b.toNat_lt
      have whole := second_of_parts a b 0 (by omega)
      simp [decode?, value?_letter, value?_filling,
        first_of_parts a (b.toNat / 16) (by omega)] at whole ⊢
      exact whole
  | case3 a =>
      have whole := first_of_parts a 0 (by omega)
      simp [decode?, value?_letter, value?_filling] at whole ⊢
      exact whole
  | case4 => rfl

end Provision.Text.Base64
