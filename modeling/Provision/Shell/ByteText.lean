import Provision.Path.Basic

namespace Provision.Shell

/-!
# Texts of the shell

The shell handles bytes and asks for no encoding.  A byte text is a list of characters that stand
for one byte each, so that the shell can be written with character literals.
-/

/-- A text of which every character stands for one byte. -/
abbrev ByteText := List Char

/-- Equality of byte texts is decided by comparing them character by character. -/
instance : LawfulBEq ByteText :=
  inferInstance

namespace ByteText

/-- The byte text of bytes. -/
def ofBytes (bytes : Bytes) : ByteText :=
  bytes.map fun byte => Char.ofNat byte.toNat

/-- The bytes of a byte text. -/
def toBytes (text : ByteText) : Bytes :=
  text.map fun c => UInt8.ofNat c.toNat

/-- The byte text of a string. -/
def ofString (text : String) : ByteText :=
  ofBytes (Text.Utf8.ofString text)

/-- The byte text of a number. -/
def ofNat (number : Nat) : ByteText :=
  Nat.toDigits 10 number

/-- The byte text of an integer. -/
def ofInt (number : Int) : ByteText :=
  if number < 0 then '-' :: ofNat number.natAbs else ofNat number.natAbs

/-- The path with the given text. -/
def toPath (text : ByteText) : Path :=
  Path.ofBytes (toBytes text)

/-- The text of a path. -/
def ofPath (path : Path) : ByteText :=
  ofBytes (Text.join 0x2f (path.segments.map Name.toBytes))

/-- The text of a name. -/
def ofName (name : Name) : ByteText :=
  ofBytes name.toBytes

/-- The lines of a text; a last line need not be ended. -/
def lines (text : ByteText) : List ByteText :=
  match (Text.fields '\n' text).reverse with
  | [] :: ended => ended.reverse
  | all => all.reverse

/-- A text of lines, each of them ended. -/
def unlines (lines : List ByteText) : ByteText :=
  lines.flatMap fun line => line ++ ['\n']

/-- Whether a character is a blank. -/
def isBlank (c : Char) : Bool :=
  c = ' ' || ('\t' ≤ c && c ≤ '\r')

/-- A text without blanks at its ends. -/
def trim (text : ByteText) : ByteText :=
  ((text.dropWhile isBlank).reverse.dropWhile isBlank).reverse

/-- The parts of a text between blanks. -/
def words (text : ByteText) : List ByteText :=
  (Text.fields ' ' (text.map fun c => if isBlank c then ' ' else c)).filter (!·.isEmpty)

/-- Whether a character may open a name. -/
def opensName (c : Char) : Bool :=
  c.isAlpha || c = '_'

/-- Whether a character may stand in a name. -/
def isNameChar (c : Char) : Bool :=
  c.isAlphanum || c = '_'

/-- Whether a text is a name of a variable. -/
def isName (text : ByteText) : Bool :=
  match text with
  | [] => false
  | first :: rest => opensName first && rest.all isNameChar

end ByteText

end Provision.Shell
