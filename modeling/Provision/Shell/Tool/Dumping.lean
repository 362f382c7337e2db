import Provision.Shell.Tool.Amounts
import Provision.Shell.Tool.Contents

namespace Provision.Shell.Tool

/-!
# Dumping bytes

Bytes are shown in rows as characters or as numbers of one or more bytes, the lowest byte first.  In
front of each row stands how many bytes are before it.  Rows that repeat the one before are left
out.
-/

open Work

/-- How a unit of bytes is shown. -/
inductive DumpKind where
  | named
  | character
  | signed
  | unsigned
  | octal
  | hexadecimal
  deriving Repr, DecidableEq

/-- A kind with the size of its units, and whether the characters are shown beside it. -/
structure DumpFormat where
  kind : DumpKind
  size : Nat
  hasText : Bool := false
  deriving Repr, DecidableEq

/-- How dumping is done. -/
structure Dumping where
  base : Option Nat
  formats : List DumpFormat
  width : Nat
  showsAll : Bool

namespace DumpFormat

/-- How many characters a unit takes at most. -/
def digits (format : DumpFormat) : Nat :=
  let perSize := fun (a b c d : Nat) =>
    match format.size with
    | 1 => a
    | 2 => b
    | 4 => c
    | _ => d
  match format.kind with
  | .named | .character => 3
  | .signed => perSize 4 6 11 20
  | .unsigned => perSize 3 5 10 20
  | .octal => perSize 3 6 11 22
  | .hexadecimal => perSize 2 4 8 16

/-- The names of the lowest characters. -/
def lowNames : List String :=
  ["nul", "soh", "stx", "etx", "eot", "enq", "ack", "bel", "bs", "ht", "nl", "vt", "ff", "cr",
    "so", "si", "dle", "dc1", "dc2", "dc3", "dc4", "nak", "syn", "etb", "can", "em", "sub", "esc",
    "fs", "gs", "rs", "us", "sp"]

/-- The name of a character. -/
def nameOf (code : Nat) : ByteText :=
  let code := code % 128
  match lowNames[code]? with
  | some name => name.toList
  | none => if code = 127 then "del".toList else [Char.ofNat code]

/-- A character as it is shown. -/
def characterOf (code : Nat) : ByteText :=
  let c := Char.ofNat code
  if code = 0 then ['\\', '0']
  else
    match controlLetter? c with
    | some letter => ['\\', letter]
    | none =>
        if isPrintable c then [c]
        else
          let digits := Nat.toDigits 8 code
          List.replicate (3 - digits.length) '0' ++ digits

/-- A number with zeros in front of it. -/
def filled (base width number : Nat) : ByteText :=
  let digits := Nat.toDigits base number
  List.replicate (width - digits.length) '0' ++ digits

/-- A unit as it is shown. -/
def unit (format : DumpFormat) (bytes : ByteText) : ByteText :=
  let value := bytes.reverse.foldl (fun value c => 256 * value + c.toNat) 0
  match format.kind with
  | .named => nameOf value
  | .character => characterOf value
  | .octal => filled 8 format.digits value
  | .hexadecimal => filled 16 format.digits value
  | .unsigned => ByteText.ofNat value
  | .signed =>
      let bound := power 256 format.size
      if bound ≤ 2 * value then ByteText.ofInt ((value : Int) - bound) else ByteText.ofNat value

/-- The width of a row without the blanks that make rows alike. -/
def rowWidth (format : DumpFormat) (width : Nat) : Nat :=
  (format.digits + 1) * (width / format.size)

/-- The units of a row; what is missing of the last one is filled with zeros. -/
def units (size : Nat) : Nat → ByteText → List ByteText
  | 0, _ => []
  | _ + 1, [] => []
  | steps + 1, bytes =>
      let unit := bytes.take size
      (unit ++ List.replicate (size - unit.length) '\x00') :: units size steps (bytes.drop size)

/-- A row of units; the width of all rows is shared out among the units. -/
def row (format : DumpFormat) (width total : Nat) (bytes : ByteText) : ByteText :=
  let count := width / format.size
  let blanks := total - format.digits * count
  let shown := (units format.size (bytes.length + 1) bytes).mapIdx fun i unit =>
    let before := blanks * (count - i) / count
    let after := blanks * (count - i - 1) / count
    let text := format.unit unit
    List.replicate (before - after + format.digits - text.length) ' ' ++ text
  let text :=
    if format.hasText then
      let missing := count - shown.length
      let gap := format.digits * missing + blanks * missing / count
      let visible := bytes.map fun c => if isPrintable c then c else '.'
      List.replicate gap ' ' ++ "  >".toList ++ visible ++ ['<']
    else []
  shown.flatten ++ text

end DumpFormat

/-- The address in front of a row. -/
def dumpAddress (base : Option Nat) (address : Nat) : ByteText :=
  match base with
  | none => []
  | some 16 => DumpFormat.filled 16 6 address
  | some base => DumpFormat.filled base 7 address

/-- The rows of bytes from an address on, after another row; the first argument bounds the steps. -/
def dumpRows (dumping : Dumping) : Nat → Nat → Option (ByteText × Bool) → ByteText → ByteText
  | 0, _, _, _ => []
  | steps + 1, address, last, bytes =>
      if bytes.isEmpty then
        if dumping.base.isSome then dumpAddress dumping.base address ++ ['\n'] else []
      else
        let present := bytes.take dumping.width
        let rest := bytes.drop dumping.width
        let next := address + present.length
        let isRepeated := !dumping.showsAll && present.length = dumping.width &&
          last.any fun (row, _) => row = present
        if isRepeated then
          let isMarked := last.any Prod.snd
          (if isMarked then [] else ['*', '\n']) ++
            dumpRows dumping steps next (some (present, true)) rest
        else
          let total := dumping.formats.foldl
            (fun total format => max total (format.rowWidth dumping.width)) 0
          let gap := List.replicate (dumpAddress dumping.base 0).length ' '
          let rows := dumping.formats.mapIdx fun i format =>
            (if i = 0 then dumpAddress dumping.base address else gap) ++
              format.row dumping.width total present ++ ['\n']
          rows.flatten ++ dumpRows dumping steps next (some (present, false)) rest

/-! ## Calls -/

/-- The size that a letter or digits stand for in a format, and what is left after it. -/
def dumpSize (text : ByteText) : Nat × ByteText :=
  match text with
  | 'C' :: rest => (1, rest)
  | 'S' :: rest => (2, rest)
  | 'I' :: rest => (4, rest)
  | 'L' :: rest => (8, rest)
  | text =>
      let digits := text.takeWhile Char.isDigit
      ((Text.decimal? digits).getD 4, text.drop digits.length)

/-- The kind that a letter stands for. -/
def dumpKind? (letter : Char) : Option DumpKind :=
  match letter with
  | 'a' => some .named
  | 'c' => some .character
  | 'd' => some .signed
  | 'u' => some .unsigned
  | 'o' => some .octal
  | 'x' => some .hexadecimal
  | _ => none

/--
The formats that a text stands for, or what is wrong with it: a character or a size.  The first
argument bounds the steps.
-/
def dumpFormats : Nat → ByteText → Except (Char ⊕ Nat) (List DumpFormat)
  | 0, _ | _ + 1, [] => .ok []
  | steps + 1, letter :: rest => do
      match dumpKind? letter with
      | none => throw (.inl letter)
      | some kind =>
          let (size, rest) :=
            if kind = .named || kind = .character then (1, rest) else dumpSize rest
          if size ∉ [1, 2, 4, 8] then
            throw (.inr size)
          let (hasText, rest) :=
            match rest with
            | 'z' :: rest => (true, rest)
            | rest => (false, rest)
          return { kind, size, hasText } :: (← dumpFormats steps rest)

/-- The formats that letters stand for. -/
def shortDumpFormats : List (String × DumpFormat) := [
  ("named", ⟨.named, 1, false⟩), ("octal-bytes", ⟨.octal, 1, false⟩),
  ("characters", ⟨.character, 1, false⟩), ("unsigned-shorts", ⟨.unsigned, 2, false⟩),
  ("ints", ⟨.signed, 4, false⟩), ("longs", ⟨.signed, 8, false⟩),
  ("octal-shorts", ⟨.octal, 2, false⟩), ("shorts", ⟨.signed, 2, false⟩),
  ("hexadecimal-shorts", ⟨.hexadecimal, 2, false⟩),
  ("hexadecimal-ints", ⟨.hexadecimal, 4, false⟩)]

/-- The options of dumping. -/
def dumpOptions : List OptionKind :=
  [valued 'A' "address-radix", valued 'j' "skip-bytes", valued 'N' "read-bytes",
    valued 't' "format", optionOf ['v'] "output-duplicates" .never, optionOf ['w'] "width" .perhaps,
    letterOnly 'a' "named", letterOnly 'b' "octal-bytes", letterOnly 'c' "characters",
    letterOnly 'd' "unsigned-shorts", letterOnly 'i' "ints", letterOnly 'l' "longs",
    letterOnly 'o' "octal-shorts", letterOnly 's' "shorts",
    optionOf ['x', 'h'] "hexadecimal-shorts" .never false,
    optionOf ['X', 'H'] "hexadecimal-ints" .never false]

/-- The formats that a call asks for. -/
def requestedFormats (arguments : Arguments) : Work (List DumpFormat) := do
  let found ← arguments.options.mapM fun (word, value) => do
    if word = "format" then
      match dumpFormats (value.length + 1) value with
      | .ok formats => return formats
      | .error (.inl c) =>
          refuse ("invalid character '".toList ++ c :: "' in type string ".toList ++ quoted value)
      | .error (.inr size) =>
          refuse ("invalid type string ".toList ++ quoted value ++
            ";\nthis system doesn't provide a ".toList ++ ByteText.ofNat size ++
            "-byte integral type".toList)
    else
      return (shortDumpFormats.lookup word).toList
  return if found.flatten.isEmpty then [⟨.octal, 2, false⟩] else found.flatten

/-- A number of bytes that an option gives. -/
def byteCount (arguments : Arguments) (letter : Char) (word : String) : Work (Option Nat) := do
  match arguments.value? word with
  | none => return none
  | some text =>
      match readAmount partUnits text with
      | .ok number => return some number
      | .error .invalid =>
          refuse ("invalid -".toList ++ letter :: " argument ".toList ++ quoted text)
      | .error .tooLarge =>
          refuse ('-' :: letter :: " argument ".toList ++ quoted text ++ " too large".toList)

/-- Dump bytes. -/
def od : Tool := toTool do
  let arguments ← arguments dumpOptions
  let base ← match arguments.value? "address-radix" with
    | none | some ['o'] => pure (some 8)
    | some ['d'] => pure (some 10)
    | some ['x'] => pure (some 16)
    | some ['n'] => pure none
    | some text =>
        refuse ("invalid output address radix '".toList ++ text.take 1 ++
          "'; it must be one character from [doxn]".toList)
  let skipped := (← byteCount arguments 'j' "skip-bytes").getD 0
  let most ← byteCount arguments 'N' "read-bytes"
  let formats ← requestedFormats arguments
  let unit := formats.foldl (fun unit format => max unit format.size) 1
  let width ← match arguments.value? "width" with
    | none => pure 16
    | some [] => pure 32
    | some text =>
        match Text.decimal? text with
        | some width =>
            if 0 < width && width % unit = 0 then
              pure width
            else do
              remark ("warning: invalid width ".toList ++ ByteText.ofNat width ++
                "; using ".toList ++ ByteText.ofNat unit ++ " instead".toList)
              pure unit
        | none => refuse ("invalid -w argument ".toList ++ quoted text)
  let isFaulty := (← get).status ≠ 0
  let bytes ← joinedContents arguments.operands
  if bytes.isEmpty && !isFaulty && (← get).status ≠ 0 then
    stop
  if bytes.length < skipped then
    refuse "cannot skip past end of combined input".toList
  let rest := bytes.drop skipped
  let bytes := (most.map rest.take).getD rest
  let dumping : Dumping := { base, formats, width, showsAll := arguments.has "output-duplicates" }
  print (dumpRows dumping (bytes.length + 2) skipped none bytes)

end Provision.Shell.Tool
