namespace Provision

/-- A finite sequence of bytes: the content of a file, a response body, an archive. -/
abbrev Bytes := List UInt8

namespace Text.Utf8

/-!
# UTF-8

Bytes are read as a sequence of symbols: a character, or a run of bytes that is no character.  Such
a run is as long as it still begins some character, and otherwise one byte.  The strict, the
dropping and the replacing reading all come from this one sequence.
-/

/-- The bytes of one character. -/
def encodeChar (c : Char) : Bytes :=
  String.utf8EncodeChar c

/-- The bytes of a text. -/
def encode (text : List Char) : Bytes :=
  text.flatMap encodeChar

/-- The bytes of a string. -/
def ofString (text : String) : Bytes :=
  encode text.toList

/-- What a byte that opens a longer character says about the bytes that follow it. -/
structure Lead where
  value : Nat
  low : UInt8
  high : UInt8
  more : Nat

/-- The bytes that open a character of two, three or four bytes. -/
def lead? (byte : UInt8) : Option Lead :=
  if 0xc2 ≤ byte && byte ≤ 0xdf then some ⟨byte.toNat - 0xc0, 0x80, 0xbf, 0⟩
  else if byte = 0xe0 then some ⟨0, 0xa0, 0xbf, 1⟩
  else if byte = 0xed then some ⟨0xd, 0x80, 0x9f, 1⟩
  else if 0xe1 ≤ byte && byte ≤ 0xef then some ⟨byte.toNat - 0xe0, 0x80, 0xbf, 1⟩
  else if byte = 0xf0 then some ⟨0, 0x90, 0xbf, 2⟩
  else if byte = 0xf4 then some ⟨4, 0x80, 0x8f, 2⟩
  else if 0xf1 ≤ byte && byte ≤ 0xf3 then some ⟨byte.toNat - 0xf0, 0x80, 0xbf, 2⟩
  else none

/-- Whether a byte continues a character. -/
def isContinuation (byte : UInt8) : Bool :=
  0x80 ≤ byte && byte ≤ 0xbf

/--
Read the given number of continuation bytes onto a value.  The second part of the answer counts the
bytes that belong to the symbol after its first one.
-/
def continueFrom (taken value : Nat) : Nat → Bytes → Option Char × Nat
  | 0, _ => (some (Char.ofNat value), taken)
  | _ + 1, [] => (none, taken)
  | more + 1, byte :: rest =>
      if isContinuation byte then
        continueFrom (taken + 1) (64 * value + (byte.toNat - 0x80)) more rest
      else
        (none, taken)

/-- The symbol that a byte opens, and how many of the following bytes belong to it. -/
def symbolAt (byte : UInt8) (rest : Bytes) : Option Char × Nat :=
  if byte < 0x80 then
    (some (Char.ofNat byte.toNat), 0)
  else
    match lead? byte, rest with
    | some lead, second :: others =>
        if lead.low ≤ second && second ≤ lead.high then
          continueFrom 1 (64 * lead.value + (second.toNat - 0x80)) lead.more others
        else
          (none, 0)
    | _, _ => (none, 0)

/-- The symbols of a byte sequence after some bytes that belong to the symbol before. -/
def symbolsAfter : Nat → Bytes → List (Option Char)
  | _, [] => []
  | 0, byte :: rest =>
      let (symbol, following) := symbolAt byte rest
      symbol :: symbolsAfter following rest
  | skip + 1, _ :: rest => symbolsAfter skip rest

/-- The symbols of a byte sequence; a run of bytes that is no character is `none`. -/
def symbols (bytes : Bytes) : List (Option Char) :=
  symbolsAfter 0 bytes

/-- The characters of a byte sequence that is a text as a whole. -/
def decode? (bytes : Bytes) : Option (List Char) :=
  (symbols bytes).mapM id

/-- The characters of a byte sequence; what is no character is dropped. -/
def decodeDropping (bytes : Bytes) : List Char :=
  (symbols bytes).filterMap id

/-- The characters of a byte sequence; what is no character becomes a replacement character. -/
def decodeReplacing (bytes : Bytes) : List Char :=
  (symbols bytes).map fun symbol => symbol.getD '\ufffd'

/-- The string of a byte sequence that is a text as a whole. -/
def toString? (bytes : Bytes) : Option String :=
  (decode? bytes).map String.ofList

end Text.Utf8

end Provision
