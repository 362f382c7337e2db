import Provision.Shell.Arithmetic
import Provision.Shell.Tool.Copying
import Provision.Shell.Tool.Ordering

namespace Provision.Shell.Tool

/-!
# Tests

A test tells by its status whether a condition holds: something about a path, a text or two numbers.
Conditions are put together with `-a`, `-o`, `!` and brackets.
-/

open Work

/-- What an argument of a test stands for. -/
inductive Symbol where
  | unary (operator : ByteText)
  | binary (operator : ByteText)
  | negation
  | conjunction
  | disjunction
  | opening
  | closing
  | operand
  | nothing
  deriving Repr, DecidableEq

/-- Operators on one operand. -/
def unaryOperators : List String :=
  ["-r", "-w", "-x", "-e", "-f", "-d", "-c", "-b", "-p", "-u", "-g", "-k", "-s", "-t", "-z", "-n",
    "-h", "-O", "-G", "-L", "-S"]

/-- Operators on two operands. -/
def binaryOperators : List String :=
  ["=", "!=", "<", ">", "-eq", "-ne", "-ge", "-gt", "-le", "-lt", "-nt", "-ot", "-ef"]

/-- Whether an argument is an operator on two operands. -/
def isBinary (argument : ByteText) : Bool :=
  binaryOperators.any (·.toList = argument)

/-- What the first of some arguments stands for, which depends on those after it. -/
def symbolAt : List ByteText → Symbol
  | [] => .nothing
  | first :: rest =>
      if isBinary first then .binary first
      else if unaryOperators.any (·.toList = first) then
        match rest with
        | [] => .operand
        | [_] => .unary first
        | second :: _ => if isBinary second then .operand else .unary first
      else if first = ['!'] then .negation
      else if first = ['-', 'a'] then .conjunction
      else if first = ['-', 'o'] then .disjunction
      else if first = ['('] then (if rest.isEmpty then .operand else .opening)
      else if first = [')'] then .closing
      else .operand

/-- The entry that a path leads to, with its location. -/
def entryOf? (call : Call) (follow : Bool) (operand : ByteText) : Option (Location × Entry) :=
  (call.disk.entryAt call.workingDirectory follow operand.toPath).toOption

/-- Whether something holds of the entry that a path leads to. -/
def testEntry (call : Call) (follow : Bool) (holds : Entry → Bool) (operand : ByteText) : Bool :=
  (entryOf? call follow operand).any fun found => holds found.2

/-- Whether the owner may do something with what a path leads to. -/
def testAccess (call : Call) (access : Access) (operand : ByteText) : Bool :=
  testEntry call true (·.allows access) operand

/-- Whether one of some permission bits of what a path leads to is set. -/
def testBits (call : Call) (bits : Nat) (operand : ByteText) : Bool :=
  testEntry call true (fun entry => entry.mode &&& bits ≠ 0) operand

/-- A condition on a device, which is there and can be read and written. -/
def deviceTest (operator : ByteText) : Bool :=
  ["-e", "-c", "-r", "-w", "-O", "-G"].any (·.toList = operator)

/-- A condition on what a path leads to. -/
def pathTest (call : Call) (operator operand : ByteText) : Bool :=
  match operator with
  | ['-', 'e'] | ['-', 'O'] | ['-', 'G'] => testEntry call true (fun _ => true) operand
  | ['-', 'f'] => testEntry call true Entry.isFile operand
  | ['-', 'd'] => testEntry call true Entry.isDirectory operand
  | ['-', 'L'] | ['-', 'h'] => testEntry call false Entry.isLink operand
  | ['-', 'r'] => testAccess call .read operand
  | ['-', 'w'] => testAccess call .write operand
  | ['-', 'x'] => testAccess call .execute operand
  | ['-', 's'] => testEntry call true (fun entry => entry.size ≠ 0) operand
  | ['-', 'u'] => testBits call 0o4000 operand
  | ['-', 'g'] => testBits call 0o2000 operand
  | ['-', 'k'] => testBits call 0o1000 operand
  | _ => false

/-- A condition on one operand. -/
def unaryTest (call : Call) (operator operand : ByteText) : Bool :=
  if operator = ['-', 'n'] then !operand.isEmpty
  else if operator = ['-', 'z'] then operand.isEmpty
  else if (Device.ofPath? operand).isSome then deviceTest operator
  else pathTest call operator operand

/-- Whether something holds of the entries that two paths lead to. -/
def testBoth (call : Call) (holds : Location × Entry → Location × Entry → Bool)
    (left right : ByteText) : Bool :=
  match entryOf? call true left, entryOf? call true right with
  | some a, some b => holds a b
  | _, _ => false

/-- The number that a text of decimal digits is, with blanks around it. -/
def number? (text : ByteText) : Option Int := do
  let trimmed := ByteText.trim text
  let (isNegative, digits) :=
    match trimmed with
    | '-' :: digits => (true, digits)
    | '+' :: digits => (false, digits)
    | digits => (false, digits)
  let magnitude ← Text.decimal? digits
  let value : Int := if isNegative then -magnitude else magnitude
  if value = Expression.wrap value then some value else none

/-- The number that an operand has to be. -/
def requireNumber (operand : ByteText) : Except ByteText Int :=
  match number? operand with
  | some number => .ok number
  | none => .error ("Illegal number: ".toList ++ operand)

/-- A condition on two operands. -/
def binaryTest (call : Call) (left operator right : ByteText) : Except ByteText Bool :=
  let compare := fun (holds : Int → Int → Bool) => do
    let a ← requireNumber left
    let b ← requireNumber right
    return holds a b
  match operator with
  | ['='] => .ok (left = right)
  | ['!', '='] => .ok (left ≠ right)
  | ['<'] => .ok (byteOrder left right = .lt)
  | ['>'] => .ok (byteOrder left right = .gt)
  | ['-', 'e', 'q'] => compare fun a b => a = b
  | ['-', 'n', 'e'] => compare fun a b => a ≠ b
  | ['-', 'l', 't'] => compare fun a b => a < b
  | ['-', 'l', 'e'] => compare fun a b => a ≤ b
  | ['-', 'g', 't'] => compare fun a b => a > b
  | ['-', 'g', 'e'] => compare fun a b => a ≥ b
  | ['-', 'n', 't'] => .ok (testBoth call (fun a b => timeOf a.2 > timeOf b.2) left right)
  | ['-', 'o', 't'] => .ok (testBoth call (fun a b => timeOf a.2 < timeOf b.2) left right)
  | ['-', 'e', 'f'] => .ok (testBoth call (fun a b => isSame (identity a) (identity b)) left right)
  | _ => .ok false

/-! ## Conditions

A condition is read from the arguments; what is left starts with the last argument that belongs to
it.  The first argument of each function bounds the steps.
-/

mutual

/-- Conditions of which one has to hold. -/
def readAny (call : Call) :
    Nat → Symbol → List ByteText → Except ByteText (Bool × List ByteText)
  | 0, _, left => .ok (false, left)
  | steps + 1, symbol, arguments => do
      let (holds, left) ← readEach call steps symbol arguments
      if symbolAt left.tail = .disjunction then
        let next := left.drop 2
        let (others, left) ← readAny call steps (symbolAt next) next
        return (holds || others, left)
      else
        return (holds, left)

/-- Conditions that all have to hold. -/
def readEach (call : Call) :
    Nat → Symbol → List ByteText → Except ByteText (Bool × List ByteText)
  | 0, _, left => .ok (false, left)
  | steps + 1, symbol, arguments => do
      let (holds, left) ← readNegated call steps symbol arguments
      if symbolAt left.tail = .conjunction then
        let next := left.drop 2
        let (others, left) ← readEach call steps (symbolAt next) next
        return (holds && others, left)
      else
        return (holds, left)

/-- A condition after any number of negations. -/
def readNegated (call : Call) :
    Nat → Symbol → List ByteText → Except ByteText (Bool × List ByteText)
  | 0, _, left => .ok (false, left)
  | steps + 1, symbol, arguments =>
      if symbol = .negation then do
        let next := arguments.tail
        let (holds, left) ←
          readNegated call steps (symbolAt next) (if next.isEmpty then arguments else next)
        return (!holds, left)
      else
        readPrimary call steps symbol arguments

/-- A single condition. -/
def readPrimary (call : Call) :
    Nat → Symbol → List ByteText → Except ByteText (Bool × List ByteText)
  | 0, _, left => .ok (false, left)
  | steps + 1, symbol, arguments =>
      match symbol, arguments with
      | .nothing, left => .ok (false, left)
      | .opening, _ :: rest =>
          if symbolAt rest = .closing then
            .ok (false, rest)
          else do
            let (holds, left) ← readAny call steps (symbolAt rest) rest
            if symbolAt left.tail = .closing then
              return (holds, left.tail)
            else
              throw "closing paren expected".toList
      | .unary operator, _ :: operand :: rest =>
          .ok (unaryTest call operator operand, operand :: rest)
      | .unary operator, _ => .error (operator ++ ": argument expected".toList)
      | _, left :: operator :: rest =>
          if isBinary operator then
            match rest with
            | right :: rest => do return (← binaryTest call left operator right, right :: rest)
            | [] => .error (operator ++ ": argument expected".toList)
          else
            .ok (!left.isEmpty, left :: operator :: rest)
      | _, [text] => .ok (!text.isEmpty, [text])
      | _, [] => .ok (false, [])

end

/-- A condition that is all of some arguments. -/
def readWhole (call : Call) (symbol : Symbol) (arguments : List ByteText) :
    Except ByteText Bool := do
  let (holds, left) ← readAny call (4 * arguments.length + 4) symbol arguments
  match left with
  | first :: _ :: _ => throw (first ++ ": unexpected operator".toList)
  | _ => return holds

/-- Whether the arguments of a test hold; few arguments are read by rules of their own. -/
def holds (call : Call) : List ByteText → Except ByteText Bool
  | [] => .ok false
  | [first, second, third] =>
      if isBinary second then
        readWhole call .operand [first, second, third]
      else if first = ['('] && third = [')'] then
        readWhole call (symbolAt [second]) [second]
      else if first = ['!'] then
        (holds call [second, third]).map (!·)
      else
        readWhole call (symbolAt [first, second, third]) [first, second, third]
  | [first, second, third, fourth] =>
      if first = ['('] && fourth = [')'] then
        readWhole call (symbolAt [second, third]) [second, third]
      else if first = ['!'] then
        (holds call [second, third, fourth]).map (!·)
      else
        readWhole call (symbolAt [first, second, third, fourth]) [first, second, third, fourth]
  | arguments => readWhole call (symbolAt arguments) arguments
termination_by arguments => arguments.length

/-- Tell whether a condition holds. -/
def tell (arguments : List ByteText) : Work Unit := do
  match holds (← read) arguments with
  | .ok true => return ()
  | .ok false => finish 1
  | .error text => refuse text 2

/-- Tell whether a condition holds, as the shell itself does. -/
def shellTest : Tool := toTool do
  tell (← read).arguments

/-- Tell whether a condition between brackets holds, as the shell itself does. -/
def shellBracket : Tool := toTool do
  let arguments := (← read).arguments
  match arguments.getLast? with
  | some [']'] => tell arguments.dropLast
  | _ => refuse "missing ]".toList 2

/-!
# Conditions

The tool for tests reads its arguments in another way than the shell itself does: up to four of them
by their number, more of them by the rank of the operators.  Numbers may have any size, and the
length of a text may stand for one.
-/

/-- Reading a condition, from the arguments that are left. -/
abbrev Condition := StateT (List ByteText) (Except ByteText)

/-- What a condition refers to: the call, and the last of all arguments. -/
structure ConditionPlace where
  call : Call
  last : ByteText

namespace Condition

/-- Refuse arguments that end too early. -/
def tooShort {α : Type} (place : ConditionPlace) : Condition α :=
  throw ("missing argument after ".toList ++ quoted place.last)

/-- Take the next argument. -/
def take (place : ConditionPlace) : Condition ByteText := do
  match ← get with
  | [] => tooShort place
  | argument :: rest => do
      set rest
      return argument

/-- Take the next argument, which is not the last one. -/
def takeInFront (place : ConditionPlace) : Condition ByteText := do
  let argument ← take place
  if (← get).isEmpty then tooShort place else return argument

/-- The number that an argument has to be. -/
def requireInteger (argument : ByteText) : Except ByteText Int :=
  let text := ByteText.trim argument
  let (isNegative, digits) :=
    match text with
    | '-' :: digits => (true, digits)
    | '+' :: digits => (false, digits)
    | digits => (false, digits)
  match Text.decimal? digits with
  | some magnitude => .ok (if isNegative then -magnitude else magnitude)
  | none => .error ("invalid integer ".toList ++ quoted argument)

/-- The words for operators on two operands. -/
def binaryWords : List String :=
  ["=", "==", "!=", "-eq", "-ne", "-lt", "-le", "-gt", "-ge", "-nt", "-ot", "-ef"]

/-- Whether an argument is an operator on two operands. -/
def isBinaryWord (argument : ByteText) : Bool :=
  binaryWords.any (·.toList = argument)

/-- Whether an argument looks like an operator on one operand. -/
def looksUnary (argument : ByteText) : Bool :=
  argument.length = 2 && argument.head? = some '-'

/-- A side of a comparison of numbers, which may be the length of a text. -/
def side (isLength : Bool) (argument : ByteText) : Except ByteText Int :=
  if isLength then .ok argument.length else requireInteger argument

/-- Whether the first of two paths leads to something newer, or is the only one that leads there. -/
def isNewer (call : Call) (left right : ByteText) : Bool :=
  match entryOf? call true left, entryOf? call true right with
  | some a, some b => timeOf a.2 > timeOf b.2
  | some _, none => true
  | none, _ => false

/-- A condition on two operands, of which one or both may stand for their lengths. -/
def compare (call : Call) (left : Bool × ByteText) (operator : ByteText)
    (right : Bool × ByteText) : Except ByteText Bool :=
  let numbers := fun (holds : Int → Int → Bool) => do
    return holds (← side left.1 left.2) (← side right.1 right.2)
  let paths := fun (holds : Bool) =>
    if left.1 || right.1 then .error (operator ++ " does not accept -l".toList) else .ok holds
  match operator with
  | ['='] | ['=', '='] => .ok (left.2 = right.2)
  | ['!', '='] => .ok (left.2 ≠ right.2)
  | ['-', 'e', 'q'] => numbers fun a b => a = b
  | ['-', 'n', 'e'] => numbers fun a b => a ≠ b
  | ['-', 'l', 't'] => numbers fun a b => a < b
  | ['-', 'l', 'e'] => numbers fun a b => a ≤ b
  | ['-', 'g', 't'] => numbers fun a b => a > b
  | ['-', 'g', 'e'] => numbers fun a b => a ≥ b
  | ['-', 'n', 't'] => paths (isNewer call left.2 right.2)
  | ['-', 'o', 't'] => paths (isNewer call right.2 left.2)
  | _ => (binaryTest call left.2 operator right.2).bind paths

/-- Read a condition on two operands. -/
def binary (place : ConditionPlace) (isLength : Bool) : Condition Bool := do
  if isLength then
    let _ ← take place
  let left ← take place
  let operator ← take place
  let right ← take place
  match right, ← get with
  | ['-', 'l'], text :: rest => do
      set rest
      compare place.call (isLength, left) operator (true, text)
  | right, _ => compare place.call (isLength, left) operator (false, right)

/-- Whether a file has been changed since it was looked at. -/
def isUnread (entry : Entry) : Bool :=
  lookTimeOf entry < timeOf entry

/-- Read a condition on one operand. -/
def unary (place : ConditionPlace) : Condition Bool := do
  let operator := (← get).head?.getD []
  let letter := operator.getLast?.getD '-'
  if letter ∉ "edfrwxsLhugkOGnzcbpStN".toList then
    throw (quoted operator ++ ": unary operator expected".toList)
  else do
    let operator ← takeInFront place
    let operand ← take place
    if letter = 't' then
      let _ ← requireInteger operand
      return false
    else if letter = 'N' then
      return testEntry place.call true isUnread operand
    else
      return unaryTest place.call operator operand

/-- Read a condition that is one argument. -/
def one (place : ConditionPlace) : Condition Bool := do
  return !(← take place).isEmpty

/-- Read a condition of two arguments. -/
def two (place : ConditionPlace) : Condition Bool := do
  let first := (← get).head?.getD []
  if first = ['!'] then do
    let _ ← take place
    return !(← one place)
  else if looksUnary first then
    unary place
  else
    tooShort place

/-- The number of arguments that are taken to stand between brackets, of those after the first. -/
def innerCount (arguments : List ByteText) : Nat :=
  let inner := (arguments.drop 1).takeWhile (· ≠ [')'])
  if inner.length < 4 && inner.length + 1 < arguments.length then
    inner.length + 1
  else
    arguments.length

mutual

/-- Read a condition of three arguments; the first argument bounds the steps. -/
def three (place : ConditionPlace) : Nat → Condition Bool
  | 0 => return false
  | steps + 1 => do
      match ← get with
      | first :: second :: third :: _ =>
          if isBinaryWord second then
            binary place false
          else if first = ['!'] then do
            let _ ← take place
            return !(← two place)
          else if first = ['('] && third = [')'] then do
            let _ ← take place
            let holds ← one place
            let _ ← take place
            return holds
          else if second = ['-', 'a'] || second = ['-', 'o'] then
            any place steps
          else
            throw (quoted second ++ ": binary operator expected".toList)
      | _ => tooShort place

/-- Read a condition of a number of arguments. -/
def counted (place : ConditionPlace) : Nat → Nat → Condition Bool
  | 0, _ => return false
  | steps + 1, count => do
      match count, ← get with
      | 1, _ => one place
      | 2, _ => two place
      | 3, _ => three place steps
      | 4, ['!'] :: _ => do
          let _ ← take place
          return !(← three place steps)
      | 4, ['('] :: _ :: _ :: [')'] :: _ => do
          let _ ← take place
          let holds ← two place
          let _ ← take place
          return holds
      | _, _ => any place steps

/-- Read conditions of which one has to hold. -/
def any (place : ConditionPlace) : Nat → Condition Bool
  | 0 => return false
  | steps + 1 => do
      let holds ← each place steps
      if (← get).head? = some ['-', 'o'] then do
        let _ ← take place
        let others ← any place steps
        return holds || others
      else
        return holds

/-- Read conditions that all have to hold. -/
def each (place : ConditionPlace) : Nat → Condition Bool
  | 0 => return false
  | steps + 1 => do
      let holds ← single place steps
      if (← get).head? = some ['-', 'a'] then do
        let _ ← take place
        let others ← each place steps
        return holds && others
      else
        return holds

/-- Read a single condition, perhaps after negations or between brackets. -/
def single (place : ConditionPlace) : Nat → Condition Bool
  | 0 => return false
  | steps + 1 => do
      match ← get with
      | [] => tooShort place
      | ['!'] :: _ => do
          let _ ← takeInFront place
          return !(← single place steps)
      | ['('] :: _ => do
          let _ ← takeInFront place
          let holds ← counted place steps (innerCount (← get))
          match ← get with
          | [] => throw "')' expected".toList
          | [')'] :: rest => do
              set rest
              return holds
          | other :: _ => throw ("')' expected, found ".toList ++ quoted other)
      | first :: second :: third :: rest =>
          if first = ['-', 'l'] && isBinaryWord third && !rest.isEmpty then binary place true
          else if isBinaryWord second then binary place false
          else if looksUnary first then unary place
          else one place
      | first :: _ => if looksUnary first then unary place else one place

end

end Condition

/-- Tell whether a condition holds that is all of some arguments. -/
def tellCondition (arguments : List ByteText) : Work Unit := do
  let place : ConditionPlace := { call := ← read, last := arguments.getLast?.getD [] }
  let steps := 8 * arguments.length + 8
  if arguments.isEmpty then
    finish 1
  else
    match (Condition.counted place steps arguments.length).run arguments with
    | .ok (holds, []) => finish (if holds then 0 else 1)
    | .ok (_, extra :: _) => refuse ("extra argument ".toList ++ quoted extra) 2
    | .error text => refuse text 2

/-- Tell whether a condition holds. -/
def test : Tool := toTool do
  tellCondition (← read).arguments

/-- Tell whether a condition between brackets holds. -/
def bracket : Tool := toTool do
  let arguments := (← read).arguments
  match arguments.getLast? with
  | some [']'] => tellCondition arguments.dropLast
  | _ => refuse "missing ']'".toList 2

end Provision.Shell.Tool
