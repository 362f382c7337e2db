import Provision.Shell.Tool.Contents
import Provision.Shell.Tool.Ordering
import Provision.Shell.Tool.Sorting

namespace Provision.Shell.Tool

/-!
# Arranging items

Items are put into an order in which each one stands before those that are to follow it.  Where that
cannot be, since items follow each other in a loop, the loop is told and opened.  Lines can also be
put into an order without a reason.
-/

open Work

/-! ## What goes before what -/

/--
Items in the order of their names.  Each has a count of the items that it waits for, the items that
follow it, the latest first, and perhaps a link to another one on the way along a loop.
-/
structure Precedence where
  names : Array ByteText
  counts : Array Nat
  followers : Array (List Nat)
  isPrinted : Array Bool
  links : Array (Option Nat)

namespace Precedence

/-- Have an item wait for one more or one less. -/
def changeCount (items : Precedence) (item : Nat) (change : Nat → Nat) : Precedence :=
  { items with counts := items.counts.modify item change }

/-- Link an item with another one, or with none. -/
def setLink (items : Precedence) (item : Nat) (link? : Option Nat) : Precedence :=
  { items with links := items.links.modify item fun _ => link? }

/-- Note that one item goes before another one. -/
def add (items : Precedence) (first second : ByteText) : Precedence :=
  let index := fun name => (items.names.findIdx? (· = name)).getD 0
  if first = second then items
  else
    let items := items.changeCount (index second) (· + 1)
    { items with followers := items.followers.modify (index first) (index second :: ·) }

/-- Names in pairs. -/
def pairs : List ByteText → List (ByteText × ByteText)
  | first :: second :: rest => (first, second) :: pairs rest
  | _ => []

/-- The items of names that are given in pairs. -/
def ofNames (names : List ByteText) : Precedence :=
  let items := (names.eraseDups.mergeSort fun a b => byteOrder a b ≠ .gt).toArray
  let start : Precedence := {
    names := items, counts := items.map fun _ => 0, followers := items.map fun _ => []
    isPrinted := items.map fun _ => false, links := items.map fun _ => none }
  (pairs names).foldl (fun items (first, second) => items.add first second) start

/-- The count of an item. -/
def count (items : Precedence) (item : Nat) : Nat :=
  items.counts[item]?.getD 0

/-- The items that wait for nothing and have not been printed, in the order of their names. -/
def ready (items : Precedence) : List Nat :=
  (List.range items.names.size).filter fun item =>
    items.count item = 0 && !(items.isPrinted[item]?.getD true)

/-- The name of an item. -/
def name (items : Precedence) (item : Nat) : ByteText :=
  items.names[item]?.getD []

/-- Let an item that goes before another one be done; the answer tells whether that one is ready. -/
def release (state : Precedence × List Nat) (follower : Nat) : Precedence × List Nat :=
  let items := state.1.changeCount follower (· - 1)
  (items, if items.count follower = 0 then state.2 ++ [follower] else state.2)

/-- Print items that wait for nothing, and those that come to do so; the first argument bounds. -/
def printReady : Nat → List Nat → Precedence → Work Precedence
  | 0, _, items => return items
  | _ + 1, [], items => return items
  | steps + 1, item :: queue, items => do
      printLine (items.name item)
      let items := { items with isPrinted := items.isPrinted.modify item fun _ => true }
      let (items, queue) := (items.followers[item]?.getD []).foldl release (items, queue)
      printReady steps queue items

/-! ## Loops -/

/-- Where the search for a loop stands: it has reached an item, or the end of a loop is found. -/
inductive Search where
  | started
  | reached (item : Nat)
  | closed (last item : Nat)

/-- Go on with a search at one item. -/
def searchAt (state : Precedence × Search) (item : Nat) : Precedence × Search :=
  let items := state.1
  match state.2 with
  | .closed .. => state
  | .started => if items.count item = 0 then state else (items, .reached item)
  | .reached last =>
      if items.count item = 0 || !(items.followers[item]?.getD []).contains last then state
      else if (items.links[item]?.getD none).isSome then (items, .closed last item)
      else (items.setLink item (some last), .reached item)

/-- Go over all items again and again until a loop is found; the first argument bounds that. -/
def search : Nat → Precedence × Search → Precedence × Search
  | 0, state => state
  | steps + 1, state =>
      match (List.range state.1.names.size).foldl searchAt state with
      | (items, .closed last item) => (items, .closed last item)
      | state => search steps state

/-- The items from one along the links; the first argument bounds them. -/
def linked (items : Precedence) : Nat → Nat → List Nat
  | 0, _ => []
  | steps + 1, item =>
      match items.links[item]?.getD none with
      | none => [item]
      | some next => item :: linked items steps next

/-- Tell of a loop and open it. -/
def openLoop (items : Precedence) : Work Precedence := do
  match search (items.names.size + 2) (items, .started) with
  | (items, .closed last item) => do
      let loop := items.linked (items.names.size + 1) last
      let told := loop.takeWhile (· ≠ item) ++ [item]
      for member in told do
        remark (items.name member)
      let items := (loop ++ items.linked (items.names.size + 1) item).foldl
        (fun items member => items.setLink member none) items
      let items := items.changeCount last (· - 1)
      return { items with followers := items.followers.modify item (·.erase last) }
  | (items, _) => return items

/-- Print all items, and open loops where there are any; the first argument bounds their number. -/
def printAll (operand : ByteText) : Nat → Precedence → Work Unit
  | 0, _ => return ()
  | loops + 1, items => do
      let items ← printReady (items.names.size + 1) items.ready items
      if items.isPrinted.contains false then
        complain (quotedIfNeeded operand ++ ": input contains a loop:".toList)
        printAll operand loops (← items.openLoop)

end Precedence

/-- Put items into an order that a list of pairs asks for. -/
def tsort : Tool := toTool do
  let arguments ← arguments []
  refuseMore 1 arguments
  let operand : ByteText := arguments.operands.head?.getD ['-']
  match ← content operand with
  | .error (.refused .isDirectory) =>
      refuse (quotedIfNeeded operand ++ ": read error: Is a directory".toList)
  | .error fault => refuse (quotedIfNeeded operand ++ ": ".toList ++ faultText fault)
  | .ok text =>
      let spaced := text.map fun c => if c = '\n' || c = '\t' then ' ' else c
      let names := (Text.fields ' ' spaced).filter (!·.isEmpty)
      if names.length % 2 = 1 then
        refuse (quotedIfNeeded operand ++ ": input contains an odd number of tokens".toList)
      else
        Precedence.printAll operand (names.length + 1) (.ofNames names)

/-! ## No order -/

/-- Things of which there is a number, and what they are. -/
structure Pool where
  size : Nat
  item : Nat → ByteText

/-- The pool of the lines of a list. -/
def Pool.ofLines (lines : List ByteText) : Pool :=
  let lines := lines.toArray
  { size := lines.size, item := fun index => lines[index]?.getD [] }

/-- The first step from a number on that leads through all of a size. -/
def strideFrom (size : Nat) : Nat → Nat → Nat
  | 0, _ => 1
  | tries + 1, stride =>
      if Nat.gcd stride size = 1 then stride else strideFrom size tries (stride + 1)

/-- Some things of a pool without an order; each comes once before any comes again. -/
def Pool.shuffled (pool : Pool) (count : Nat) : List ByteText :=
  let stride := strideFrom pool.size 64 (pool.size * 5 / 8 + 1)
  (List.range count).map fun index => pool.item ((pool.size / 3 + index * stride) % pool.size)

/-- The pool of the numbers of a range. -/
def rangePool (text : ByteText) : Work Pool := do
  let bounds := (Text.cut? '-' text).bind fun (first, last) => do
    return (← Text.word64? first, ← Text.word64? last)
  let refusal := "invalid input range: ".toList ++ quoted text
  match bounds with
  | none => refuse refusal
  | some (first, last) =>
      let (first, last) := (first.toNat, last.toNat)
      if last + 1 < first || (first = 0 && last + 1 = UInt64.size) then
        refuse refusal
      else
        return { size := last + 1 - first, item := fun index => .ofNat (first + index) }

/-- The value of an option that is only to be given once. -/
def onlyValue? (arguments : Arguments) (word refusal : String) : Work (Option ByteText) := do
  match (arguments.values word).eraseDups with
  | _ :: _ :: _ => refuse refusal.toList
  | values => return values.head?

/-- The things that a call wants to be put into an order. -/
def requestedPool (arguments : Arguments) (ending : Char) : Work Pool := do
  match arguments.value? "input-range", arguments.has "echo" with
  | some text, false => do
      let pool ← rangePool text
      refuseMore 0 arguments
      return pool
  | some _, true => misuse "cannot combine -e and -i options".toList
  | none, true => return .ofLines arguments.operands
  | none, false => do
      refuseMore 1 arguments
      let operand : ByteText := arguments.operands.head?.getD ['-']
      match ← content operand with
      | .error (.refused .isDirectory) => refuse "read error: Is a directory".toList
      | .error fault => refuse (quotedIfNeeded operand ++ ": ".toList ++ faultText fault)
      | .ok text => return .ofLines (linesOf ending text)

/-- Print lines, words or numbers without an order. -/
def shuf : Tool := toTool do
  let arguments ← arguments [flag 'e' "echo", valued 'i' "input-range", valued 'n' "head-count",
    valued 'o' "output", optionOf [] "random-source" .always, flag 'r' "repeat",
    flag 'z' "zero-terminated"]
  if (arguments.values "input-range").length > 1 then
    refuse "multiple -i options specified".toList
  let counts ← (arguments.values "head-count").mapM fun text => do
    match Text.decimal? text with
    | some count => return count
    | none => refuse ("invalid line count: ".toList ++ quoted text)
  let target? ← onlyValue? arguments "output" "multiple output files specified"
  let ending := if arguments.has "zero-terminated" then '\x00' else '\n'
  let pool ← requestedPool arguments ending
  if let some source := arguments.value? "random-source" then
    match ← content source with
    | .error fault => refuse (quotedIfNeeded source ++ ": ".toList ++ faultText fault)
    | .ok text =>
        if text.isEmpty && pool.size > 1 then
          refuse (quoted source ++ ": end of file".toList)
  let isRepeated := arguments.has "repeat"
  let wanted := counts.min?.getD (if isRepeated then 0x10000 else pool.size)
  if isRepeated && pool.size = 0 && wanted > 0 then
    refuse "no lines to repeat".toList
  let count := if isRepeated then wanted else min wanted pool.size
  let text := (pool.shuffled count).flatMap fun line => line ++ [ending]
  match target? with
  | none => print text
  | some target =>
      if let some fault ← write false target text then
        refuse (quotedIfNeeded target ++ ": ".toList ++ faultText fault)
  if isRepeated && counts.isEmpty then
    goOn

end Provision.Shell.Tool
