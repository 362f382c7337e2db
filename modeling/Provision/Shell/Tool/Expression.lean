import Provision.Shell.Regular
import Provision.Shell.Tool.Options
import Provision.Shell.Tool.Ordering

namespace Provision.Shell.Tool

/-!
# Evaluating expressions

The arguments of a call are an expression over integers and texts.  A text that looks like an
integer is one where an integer is needed.  What is empty or zero counts as false.
-/

open Work

/-- A value of an expression. -/
inductive ExpressionValue where
  | number (value : Int)
  | text (text : ByteText)
  deriving Repr, DecidableEq

namespace ExpressionValue

/-- The integer that a text looks like. -/
def integer? (text : ByteText) : Option Int :=
  match text with
  | '-' :: digits => (Text.decimal? digits).map fun value => -(value : Int)
  | digits => (Text.decimal? digits).map fun value => (value : Int)

/-- A value as an integer. -/
def toInt? : ExpressionValue → Option Int
  | .number value => some value
  | .text content => integer? content

/-- A value as a text. -/
def toText : ExpressionValue → ByteText
  | .number value => ByteText.ofInt value
  | .text content => content

/-- Whether a value counts as false. -/
def isNull : ExpressionValue → Bool
  | .number value => value = 0
  | .text content => content.isEmpty || integer? content = some 0

/-- The value that stands for a truth. -/
def ofBool (truth : Bool) : ExpressionValue :=
  .number (if truth then 1 else 0)

end ExpressionValue

/-- Why an expression has no value. -/
inductive ExpressionFault where
  | missingAfter (argument : ByteText)
  | unclosedAfter (argument : ByteText)
  | unclosedBefore (argument : ByteText)
  | unexpected (argument : ByteText)
  | unexpectedClose
  | notInteger
  | divisionByZero
  | regular (fault : RegularFault)
  deriving Repr

/-- The wording of a fault. -/
def ExpressionFault.message : ExpressionFault → ByteText
  | .missingAfter argument => "syntax error: missing argument after ".toList ++ quoted argument
  | .unclosedAfter argument => "syntax error: expecting ')' after ".toList ++ quoted argument
  | .unclosedBefore argument => "syntax error: expecting ')' instead of ".toList ++ quoted argument
  | .unexpected argument => "syntax error: unexpected argument ".toList ++ quoted argument
  | .unexpectedClose => "syntax error: unexpected ')'".toList
  | .notInteger => "non-integer argument".toList
  | .divisionByZero => "division by zero".toList
  | .regular fault => fault.message.toList

/-- Where evaluating stands: the argument that has been passed last, and those to come. -/
structure ExpressionState where
  last : ByteText := []
  ahead : List ByteText

/-- A part of evaluating an expression. -/
abbrev Evaluating := StateT ExpressionState (Except ExpressionFault)

namespace Evaluating

/-- Take the next argument. -/
def take : Evaluating ByteText := do
  let state ← get
  match state.ahead with
  | [] => throw (.missingAfter state.last)
  | argument :: ahead => do
      set ({ last := argument, ahead } : ExpressionState)
      return argument

/-- Take the next argument if it is one of some words. -/
def takeOne? (words : List String) : Evaluating (Option String) := do
  match (← get).ahead with
  | [] => return none
  | argument :: _ =>
      match words.find? fun word => word.toList = argument with
      | none => return none
      | some word => do
          let _ ← take
          return some word

/-- What a pattern finds at the start of a text: its first group, or else its length. -/
def beginning (text pattern : ByteText) : Evaluating ExpressionValue := do
  match Regular.read pattern with
  | .error fault => throw (.regular fault)
  | .ok expression =>
      let hasGroups := 0 < expression.groupCount
      match expression.takenAt? text with
      | none => return if hasGroups then .text [] else .number 0
      | some found =>
          return if hasGroups then .text ((found.groups.lookup 1).getD []) else .number found.taken

/-- The position of the first character of a text that is one of some others. -/
def positionIn (text others : ByteText) : Nat :=
  match text.findIdx? (others.contains ·) with
  | some position => position + 1
  | none => 0

/-- A part of a text. -/
def part (text : ByteText) (start length : ExpressionValue) : ByteText :=
  match start.toInt?, length.toInt? with
  | some start, some length =>
      if start ≤ 0 || length ≤ 0 then []
      else (text.drop (start.toNat - 1)).take length.toNat
  | _, _ => []

/-- Compare two values, as integers if both are. -/
def compareValues (a b : ExpressionValue) : Ordering :=
  match a.toInt?, b.toInt? with
  | some x, some y => compare x y
  | _, _ => byteOrder a.toText b.toText

/-- Apply an operator to integers. -/
def calculate (operator : String) (a b : ExpressionValue) : Evaluating ExpressionValue := do
  match a.toInt?, b.toInt? with
  | some x, some y =>
      match operator with
      | "+" => return .number (x + y)
      | "-" => return .number (x - y)
      | "*" => return .number (x * y)
      | _ =>
          if y = 0 then throw .divisionByZero
          else if operator = "/" then return .number (x.tdiv y)
          else return .number (x.tmod y)
  | _, _ => throw .notInteger

/-- Apply an operator. -/
def apply (operator : String) (a b : ExpressionValue) : Evaluating ExpressionValue := do
  let compared := compareValues a b
  match operator with
  | "|" => return if !a.isNull then a else if !b.isNull then b else .number 0
  | "&" => return if a.isNull || b.isNull then .number 0 else a
  | "<" => return .ofBool (compared = .lt)
  | "<=" => return .ofBool (compared ≠ .gt)
  | "=" | "==" => return .ofBool (compared = .eq)
  | "!=" => return .ofBool (compared ≠ .eq)
  | ">=" => return .ofBool (compared ≠ .lt)
  | ">" => return .ofBool (compared = .gt)
  | ":" => beginning a.toText b.toText
  | operator => calculate operator a b

/-- The operators, those that bind least first. -/
def operators : List (List String) :=
  [["|"], ["&"], ["<", "<=", "=", "==", "!=", ">=", ">"], ["+", "-"], ["*", "/", "%"], [":"]]

/-- Whether the second operand of an operator is evaluated though the first one has a value. -/
def isNeeded (operator : String) (first : ExpressionValue) : Bool :=
  match operator with
  | "|" => first.isNull
  | "&" => !first.isNull
  | _ => true

mutual

/-- The value of an operand; the first argument bounds the steps. -/
def operand : Nat → Bool → Evaluating ExpressionValue
  | 0, _ => return .number 0
  | steps + 1, isEvaluated => do
      match ← takeOne? ["+", "length", "match", "index", "substr", "(", ")"] with
      | none => return .text (← take)
      | some "+" => return .text (← take)
      | some "length" => return .number (← operand steps isEvaluated).toText.length
      | some "match" => do
          let text ← operand steps isEvaluated
          let pattern ← operand steps isEvaluated
          if isEvaluated then beginning text.toText pattern.toText else return .number 0
      | some "index" => do
          let text ← operand steps isEvaluated
          let others ← operand steps isEvaluated
          return .number (positionIn text.toText others.toText)
      | some "substr" => do
          let text ← operand steps isEvaluated
          let start ← operand steps isEvaluated
          let length ← operand steps isEvaluated
          return .text (part text.toText start length)
      | some "(" => do
          let value ← chain steps isEvaluated operators
          let state ← get
          match state.ahead with
          | [] => throw (.unclosedAfter state.last)
          | argument :: _ =>
              if argument = [')'] then
                let _ ← take
                return value
              else
                throw (.unclosedBefore argument)
      | some _ => throw .unexpectedClose

/-- The value of operands between operators that bind as much as some. -/
def chain : Nat → Bool → List (List String) → Evaluating ExpressionValue
  | 0, _, _ => return .number 0
  | steps + 1, isEvaluated, [] => operand steps isEvaluated
  | steps + 1, isEvaluated, words :: tighter => do
      let first ← chain steps isEvaluated tighter
      chainFrom steps isEvaluated words tighter first

/-- The value of a chain of which the first part has a value. -/
def chainFrom : Nat → Bool → List String → List (List String) → ExpressionValue →
    Evaluating ExpressionValue
  | 0, _, _, _, first => return first
  | steps + 1, isEvaluated, words, tighter, first => do
      match ← takeOne? words with
      | none => return first
      | some operator => do
          let isSecondEvaluated := isEvaluated && isNeeded operator first
          let second ← chain steps isSecondEvaluated tighter
          let value ←
            if isEvaluated then apply operator first second else pure (.number 0)
          chainFrom steps isEvaluated words tighter value

end

/-- The value of a whole expression. -/
def all : Evaluating ExpressionValue := do
  let value ← chain (20 * ((← get).ahead.length + 2)) true operators
  match (← get).ahead with
  | [] => return value
  | argument :: _ => throw (.unexpected argument)

end Evaluating

/-- Evaluate an expression. -/
def expr : Tool := toTool do
  let given := (← read).arguments
  let ahead := if given.head? = some ['-', '-'] then given.drop 1 else given
  if ahead.isEmpty then
    misuse "missing operand".toList 2
  match Evaluating.all.run { ahead } with
  | .error fault => refuse fault.message 2
  | .ok (value, _) => do
      printLine value.toText
      if value.isNull then
        finish 1

end Provision.Shell.Tool
