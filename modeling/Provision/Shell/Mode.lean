import Provision.Shell.ByteText

namespace Provision.Shell

/-!
# Changes of permission bits

A mode is a number in octal digits, or a list of changes: for whom, an operator, and the bits.
Where nobody is named, a change is for all but what the mask takes away.
-/

/-- What the bits of a change are taken from. -/
inductive ModeSource where
  | bits (value : Nat)
  | bitsWithSearch (value : Nat)
  | copyOf (value : Nat)
  deriving Repr, DecidableEq

/-- A change: an operator, whom it is for (nobody in particular is zero), and its bits. -/
structure ModeChange where
  operator : Char
  affected : Nat
  source : ModeSource
  mentioned : Nat
  deriving Repr, DecidableEq

namespace ModeChange

/-- All permission bits. -/
def allBits : Nat := 0o7777

/-- The bits of one kind of user, with the special bit that goes with it. -/
def usersOf? (letter : Char) : Option Nat :=
  match letter with
  | 'u' => some 0o4700
  | 'g' => some 0o2070
  | 'o' => some 0o1007
  | 'a' => some allBits
  | _ => none

/-- The permissions of one kind of user. -/
def permissionsOf? (letter : Char) : Option Nat :=
  match letter with
  | 'u' => some 0o700
  | 'g' => some 0o070
  | 'o' => some 0o007
  | _ => none

/-- The bits that a letter stands for, for all kinds of users. -/
def bitsOf? (letter : Char) : Option Nat :=
  match letter with
  | 'r' => some 0o444
  | 'w' => some 0o222
  | 'x' => some 0o111
  | 's' => some 0o6000
  | 't' => some 0o1000
  | 'X' => some 0
  | _ => none

/-- Whether a character is an octal digit. -/
def isOctal (c : Char) : Bool :=
  '0' ≤ c && c ≤ '7'

/-- The value of octal digits. -/
def octalValue (digits : ByteText) : Nat :=
  digits.foldl (fun value c => 8 * value + (c.toNat - '0'.toNat)) 0

/-- Whether a character is an operator. -/
def isOperator (c : Char) : Bool :=
  c ∈ ['+', '-', '=']

/-- A change after its operator, and the text after it. -/
def readChange? (affected : Nat) (operator : Char) (text : ByteText) :
    Option (ModeChange × ByteText) :=
  match text with
  | [] => some (⟨operator, affected, .bits 0, affected &&& 0⟩, [])
  | c :: rest =>
      if isOctal c then
        let digits := text.takeWhile isOctal
        let value := octalValue digits
        let after := text.drop digits.length
        if affected ≠ 0 || allBits < value || !(after.isEmpty || after.head? = some ',') then
          none
        else
          some (⟨operator, allBits, .bits value, allBits⟩, after)
      else
        match permissionsOf? c with
        | some value =>
            let mentioned := if affected = 0 then value else affected &&& value
            some (⟨operator, affected, .copyOf value, mentioned⟩, rest)
        | none =>
            let letters := text.takeWhile fun c => (bitsOf? c).isSome
            let value := letters.foldl (fun bits c => bits ||| (bitsOf? c).getD 0) 0
            let source : ModeSource :=
              if letters.contains 'X' then .bitsWithSearch value else .bits value
            let mentioned := if affected = 0 then value else affected &&& value
            some (⟨operator, affected, source, mentioned⟩, text.drop letters.length)

/-- The changes of a list; the first argument bounds their number. -/
def readList? : Nat → Nat → ByteText → Option (List ModeChange)
  | 0, _, _ => none
  | _ + 1, _, [] => none
  | steps + 1, affected, c :: rest =>
      if isOperator c then
        match readChange? affected c rest with
        | none => none
        | some (change, []) => some [change]
        | some (change, ',' :: after) => (readList? steps 0 after).map (change :: ·)
        | some (change, next :: after) =>
            if isOperator next then
              (readList? steps affected (next :: after)).map (change :: ·)
            else
              none
      else
        match usersOf? c with
        | some users => readList? steps (affected ||| users) rest
        | none => none

/-- The changes that a mode stands for. -/
def read? (mode : ByteText) : Option (List ModeChange) :=
  if !mode.isEmpty && mode.all isOctal then
    let value := octalValue mode
    let mentioned := if mode.length < 5 then (value &&& 0o6000) ||| 0o1777 else allBits
    if allBits < value then none else some [⟨'=', allBits, .bits value, mentioned⟩]
  else
    readList? (mode.length + 1) 0 mode

/-- Bits without some of them. -/
def without (bits taken : Nat) : Nat :=
  bits - (bits &&& taken)

/-- Give everybody the permissions that somebody has. -/
def forEverybody (bits : Nat) : Nat :=
  let has := fun mask => bits &&& mask ≠ 0
  (if has 0o444 then 0o444 else 0) ||| (if has 0o222 then 0o222 else 0) |||
    (if has 0o111 then 0o111 else 0)

/-- Apply a change to bits. -/
def apply (isDirectory : Bool) (mask bits : Nat) (change : ModeChange) : Nat :=
  let kept := if isDirectory then without 0o6000 change.mentioned else 0
  let value :=
    match change.source with
    | .bits value => value
    | .bitsWithSearch value =>
        if isDirectory || bits &&& 0o111 ≠ 0 then value ||| 0o111 else value
    | .copyOf value => forEverybody (bits &&& value)
  let allowed := if change.affected = 0 then without allBits mask else change.affected
  let value := without (value &&& allowed) kept
  match change.operator with
  | '+' => bits ||| value
  | '-' => without bits value
  | _ =>
      let preserved := (if change.affected = 0 then 0 else without allBits change.affected) ||| kept
      (bits &&& preserved) ||| value

/-- Apply changes in order. -/
def applyAll (changes : List ModeChange) (isDirectory : Bool) (mask bits : Nat) : Nat :=
  changes.foldl (apply isDirectory mask) bits

/-- Three permissions as letters, with the letter of a special bit in place of the last one. -/
def letters (bits : Nat) (isSpecial : Bool) (special : Char) : ByteText :=
  let last :=
    match bits.testBit 0, isSpecial with
    | true, true => special
    | false, true => special.toUpper
    | true, false => 'x'
    | false, false => '-'
  [if bits.testBit 2 then 'r' else '-', if bits.testBit 1 then 'w' else '-', last]

/-- Permission bits as nine letters. -/
def display (bits : Nat) : ByteText :=
  letters (bits / 64) (bits.testBit 11) 's' ++ letters (bits / 8) (bits.testBit 10) 's' ++
    letters bits (bits.testBit 9) 't'

/-- Bits in four octal digits. -/
def octal (bits : Nat) : ByteText :=
  let digits := Nat.toDigits 8 bits
  List.replicate (4 - digits.length) '0' ++ digits

end ModeChange

end Provision.Shell
