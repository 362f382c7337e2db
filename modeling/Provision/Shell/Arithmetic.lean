import Provision.Shell.ByteText
import Provision.Text.Decimal
import Provision.Text.Fields

namespace Provision.Shell

/-!
# Arithmetic

Expressions over integers of 64 bits, with the usual operators and their usual precedence.  A name
stands for the number that its variable holds, and for zero if it holds none; it can be assigned to.
-/

/-- An expression. -/
inductive Expression where
  | literal (value : Int)
  | named (text : ByteText)
  | unary (operator : String) (operand : Expression)
  | binary (operator : String) (left right : Expression)
  | choice (condition first second : Expression)
  | assign (name : ByteText) (operator : String) (value : Expression)
  deriving Repr

/-- Why an expression has no value. -/
inductive ArithmeticFault where
  | expected (what : String)
  | divisionByZero
  | badNumber (text : ByteText)
  deriving Repr, DecidableEq

/-- The wording of a fault of the expression with the given text. -/
def ArithmeticFault.message (text : ByteText) : ArithmeticFault → ByteText
  | .expected what => inExpression ("expecting " ++ what)
  | .divisionByZero => inExpression "division by zero"
  | .badNumber number => "Illegal number: ".toList ++ number
where
  /-- A fault with the text in which it was found. -/
  inExpression (fault : String) : ByteText :=
    ("arithmetic expression: " ++ fault ++ ": \"").toList ++ text ++ ['"']

namespace Expression

/-- Binary operators with their precedence, the longer ones first. -/
def binaryOperators : List (String × Nat) := [
  ("<<", 8), (">>", 8), ("<=", 7), (">=", 7), ("==", 6), ("!=", 6), ("&&", 2), ("||", 1),
  ("*", 10), ("/", 10), ("%", 10), ("+", 9), ("-", 9), ("<", 7), (">", 7), ("&", 5), ("^", 4),
  ("|", 3)]

/-- The binary operator at the start of a text. -/
def readOperator? (text : List Char) : Option (String × Nat × List Char) :=
  binaryOperators.findSome? fun (symbol, precedence) =>
    (Text.after? symbol.toList text).map fun rest => (symbol, precedence, rest)

/-- Drop blanks at the start of a text. -/
def skipGap (text : List Char) : List Char :=
  text.dropWhile fun c => c = ' ' || c = '\t' || c = '\n'

/-- Operators that can be put together with an assignment. -/
def assigningOperators : List String :=
  ["<<", ">>", "+", "-", "*", "/", "%", "&", "^", "|", ""]

/-- The name that is assigned to at the start of a text, with the operator and the text after it. -/
def readAssignment? (text : List Char) : Option (ByteText × String × List Char) :=
  let text := skipGap text
  let name := text.takeWhile ByteText.isNameChar
  if ByteText.isName name then
    assigningOperators.findSome? fun operator =>
      match Text.after? (operator.toList ++ ['=']) (skipGap (text.drop name.length)) with
      | some ('=' :: _) => none
      | some rest => some (name, operator, rest)
      | none => none
  else
    none

/-- The value of a digit in bases up to sixteen. -/
def digit? (base : Nat) (c : Char) : Option Nat :=
  let value :=
    if c.isDigit then c.toNat - '0'.toNat
    else if 'a' ≤ c && c ≤ 'f' then c.toNat - 'a'.toNat + 10
    else if 'A' ≤ c && c ≤ 'F' then c.toNat - 'A'.toNat + 10
    else base
  if value < base then some value else none

/-- The digits of a base at the start of a text as a number, and the text after them. -/
def readDigits (base value : Nat) : List Char → Nat × List Char
  | [] => (value, [])
  | c :: rest =>
      match digit? base c with
      | some digit => readDigits base (base * value + digit) rest
      | none => (value, c :: rest)

/-- A number at the start of a text: hexadecimal after `0x`, octal after `0`, decimal otherwise. -/
def readNumber (text : List Char) : Nat × List Char :=
  match text with
  | '0' :: x :: c :: rest =>
      if x.toLower = 'x' then
        if (digit? 16 c).isSome then readDigits 16 0 (c :: rest) else (0, x :: c :: rest)
      else
        readDigits 8 0 (x :: c :: rest)
  | '0' :: rest => readDigits 8 0 rest
  | text => readDigits 10 0 text

/-- The greatest integer of 64 bits. -/
def greatest : Nat := 0x7fffffffffffffff

/--
The number that a text is as a whole, after an optional sign and between blanks; no text at all is
zero.
-/
def integer? (text : ByteText) : Option Int :=
  let (isNegative, digits) :=
    match text.dropWhile ByteText.isBlank with
    | '-' :: rest => (true, rest)
    | '+' :: rest => (false, rest)
    | rest => (false, rest)
  let (value, rest) := readNumber digits
  let isEmpty := rest.length = digits.length
  let isWhole := (rest.dropWhile ByteText.isBlank).isEmpty
  let isSigned := digits.length < (text.dropWhile ByteText.isBlank).length
  let limit := if isNegative then greatest + 1 else greatest
  if isWhole && !(isEmpty && isSigned) && value ≤ limit then
    some (if isNegative then -value else value)
  else
    none

mutual

/-- An expression of operators of at least the given precedence; the first argument bounds the
steps. -/
def readFrom : Nat → Nat → List Char → Except ArithmeticFault (Expression × List Char)
  | 0, _, _ => .error (.expected "primary")
  | steps + 1, precedence, text =>
      match precedence, readAssignment? text with
      | 0, some (name, operator, rest) => do
          let (value, rest) ← readFrom steps 0 rest
          return (.assign name operator value, rest)
      | _, _ => do
          let (left, rest) ← readOperand steps text
          readRest steps precedence left rest

/-- What follows the left operand of an operator. -/
def readRest :
    Nat → Nat → Expression → List Char → Except ArithmeticFault (Expression × List Char)
  | 0, _, _, _ => .error (.expected "primary")
  | steps + 1, precedence, left, text =>
      let text := skipGap text
      match text with
      | '?' :: rest =>
          if precedence = 0 then do
            let (first, rest) ← readFrom steps 0 rest
            match skipGap rest with
            | ':' :: rest => do
                let (second, rest) ← readFrom steps 0 rest
                return (.choice left first second, rest)
            | _ => throw (.expected "':'")
          else
            .ok (left, text)
      | _ =>
          match readOperator? text with
          | some (symbol, strength, rest) =>
              if strength < precedence then
                .ok (left, text)
              else do
                let (right, rest) ← readFrom steps (strength + 1) rest
                readRest steps precedence (.binary symbol left right) rest
          | none => .ok (left, text)

/-- A number, a name, an expression in brackets, or one of these after a sign. -/
def readOperand : Nat → List Char → Except ArithmeticFault (Expression × List Char)
  | 0, _ => .error (.expected "primary")
  | steps + 1, text =>
      match skipGap text with
      | '(' :: rest => do
          let (inner, rest) ← readFrom steps 0 rest
          match skipGap rest with
          | ')' :: rest => return (inner, rest)
          | _ => throw (.expected "')'")
      | '-' :: rest => (readOperand steps rest).map fun (e, rest) => (.unary "-" e, rest)
      | '+' :: rest => readOperand steps rest
      | '!' :: rest => (readOperand steps rest).map fun (e, rest) => (.unary "!" e, rest)
      | '~' :: rest => (readOperand steps rest).map fun (e, rest) => (.unary "~" e, rest)
      | c :: rest =>
          if c.isDigit then
            let (value, rest) := readNumber (c :: rest)
            .ok (.literal (min value greatest : Nat), rest)
          else if ByteText.opensName c then
            .ok (.named ((c :: rest).takeWhile ByteText.isNameChar),
              (c :: rest).dropWhile ByteText.isNameChar)
          else
            .error (.expected "primary")
      | [] => .error (.expected "primary")

end

/-- The expression that a text is. -/
def ofText (text : List Char) : Except ArithmeticFault Expression := do
  let (expression, rest) ← readFrom (4 * text.length + 4) 0 text
  if (skipGap rest).isEmpty then return expression else throw (.expected "EOF")

/-- The number of a truth value. -/
def ofBool (holds : Bool) : Int :=
  if holds then 1 else 0

/-- An integer of 64 bits. -/
def wrap (value : Int) : Int :=
  value.bmod (1 <<< 64)

/-- Apply an operator to the bits of two integers. -/
def onBits (operation : Nat → Nat → Nat) (a b : Int) : Int :=
  wrap (operation (a.emod 0x10000000000000000).toNat (b.emod 0x10000000000000000).toNat)

/-- Apply a binary operator. -/
def result (operator : String) (a b : Int) : Except ArithmeticFault Int :=
  match operator with
  | "+" => .ok (wrap (a + b))
  | "-" => .ok (wrap (a - b))
  | "*" => .ok (wrap (a * b))
  | "/" => if b = 0 then .error .divisionByZero else .ok (wrap (a.tdiv b))
  | "%" => if b = 0 then .error .divisionByZero else .ok (wrap (a.tmod b))
  | "<<" => .ok (wrap (a * Int.ofNat (1 <<< (b.emod 64).toNat)))
  | ">>" => .ok (a.shiftRight (b.emod 64).toNat)
  | "<" => .ok (ofBool (a < b))
  | ">" => .ok (ofBool (a > b))
  | "<=" => .ok (ofBool (a ≤ b))
  | ">=" => .ok (ofBool (a ≥ b))
  | "==" => .ok (ofBool (a = b))
  | "!=" => .ok (ofBool (a ≠ b))
  | "&" => .ok (onBits (· &&& ·) a b)
  | "|" => .ok (onBits (· ||| ·) a b)
  | "^" => .ok (onBits (· ^^^ ·) a b)
  | _ => .ok b

/-- The texts of variables, as far as they have been assigned or are known otherwise. -/
abbrev Variables := ByteText → ByteText

/-- The number that a variable holds. -/
def numberIn (bindings : Variables) (name : ByteText) : Except ArithmeticFault Int :=
  match integer? (bindings name) with
  | some number => .ok number
  | none => .error (.badNumber (bindings name))

/-- The value of an expression, and the variables after it. -/
def value (bindings : Variables) : Expression → Except ArithmeticFault (Int × Variables)
  | .literal number => .ok (wrap number, bindings)
  | .named name => do return (← numberIn bindings name, bindings)
  | .unary operator operand => do
      let (number, bindings) ← operand.value bindings
      let number :=
        if operator = "-" then -number else if operator = "!" then ofBool (number = 0)
        else -number - 1
      return (wrap number, bindings)
  | .binary operator left right => do
      let (a, bindings) ← left.value bindings
      if operator = "&&" && a = 0 then
        return (0, bindings)
      else if operator = "||" && a ≠ 0 then
        return (1, bindings)
      else
        let (b, bindings) ← right.value bindings
        let number ←
          if operator = "&&" || operator = "||" then pure (ofBool (b ≠ 0))
          else result operator a b
        return (number, bindings)
  | .choice condition first second => do
      let (holds, bindings) ← condition.value bindings
      if holds ≠ 0 then first.value bindings else second.value bindings
  | .assign name operator operand => do
      let (b, bindings) ← operand.value bindings
      let number ←
        if operator = "" then pure b
        else do result operator (← numberIn bindings name) b
      return (number, fun other => if other = name then .ofInt number else bindings other)

/-- The names that an expression assigns to. -/
def assigned : Expression → List ByteText
  | .literal _ => []
  | .named _ => []
  | .unary _ operand => operand.assigned
  | .binary _ left right => left.assigned ++ right.assigned
  | .choice condition first second => condition.assigned ++ first.assigned ++ second.assigned
  | .assign name _ operand => name :: operand.assigned

end Expression

end Provision.Shell
