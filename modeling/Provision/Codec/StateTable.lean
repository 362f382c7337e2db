import Provision.Codec.Basic

namespace Provision.Codec

/-!
# State tables

A state table codes symbols with fractions of bits.  Each state stands for a symbol and tells how
many bits choose the next state.  A symbol that occurs often has many states, which need few bits;
a rare symbol has a single one.  The streams are read from their last byte to their first.
-/

/-- How many states a symbol has; a rare one is entered from anywhere. -/
inductive Share where
  | rare
  | states (count : Nat)
  deriving Repr, DecidableEq

namespace Share

/-- The number of states of a symbol. -/
def size : Share → Nat
  | .rare => 1
  | .states count => count

end Share

/-- A state: its symbol, and the number of bits that are added to `base` for the next state. -/
structure TableState where
  symbol : Nat
  width : Nat
  base : Nat
  deriving Repr, DecidableEq

/-- The states of a code; their number has the given logarithm. -/
structure StateTable where
  log : Nat
  states : Array TableState

namespace StateTable

/-- The slots of a table, in the order in which they are given to the symbols. -/
def slotOrder (size : Nat) : List Nat :=
  let step := size / 2 + size / 8 + 3
  (List.range size).map fun i => i * step % size

/-- The symbols of all slots: rare ones at the end, the others spread over the rest. -/
def spread (size : Nat) (shares : List Share) : List Nat :=
  let shared := shares.zipIdx
  let rare := shared.filterMap fun (share, symbol) => if share = .rare then some symbol else none
  let common := shared.flatMap fun
    | (.rare, _) => []
    | (.states count, symbol) => List.replicate count symbol
  let room := size - rare.length
  let slots := (slotOrder size).filter (· < room)
  let filled := (slots.zip common).foldl
    (fun slots (slot, symbol) => slots.setIfInBounds slot symbol) (Array.replicate room 0)
  filled.toList ++ rare.reverse

/--
Number the states of each symbol in the order of their slots, from the number of them up.  The
number of a state, shifted until it has the size of the table, leads to the next state.
-/
def numberStates (log : Nat) : List Nat → Array Nat → List TableState
  | [], _ => []
  | symbol :: rest, numbers =>
      let number := numbers.getD symbol 1
      let width := log - Nat.log2 number
      let state : TableState := ⟨symbol, width, (number <<< width) - (1 <<< log)⟩
      state :: numberStates log rest (numbers.setIfInBounds symbol (number + 1))

/-- The table in which symbols have the given shares, which fill it. -/
def ofShares (log : Nat) (shares : List Share) : StateTable where
  log := log
  states :=
    (numberStates log (spread (1 <<< log) shares) (shares.map Share.size).toArray).toArray

/-- The table of a single symbol. -/
def single (symbol : Nat) : StateTable where
  log := 0
  states := #[⟨symbol, 0, 0⟩]

/-- The state at an index. -/
def state (table : StateTable) (index : Nat) : TableState :=
  table.states.getD index ⟨0, 0, 0⟩

/-- Read the state that a stream starts with. -/
def start? (table : StateTable) (bits : Bits) : Option (TableState × Bits) :=
  (Bits.readHigh? table.log bits).map fun (index, bits) => (table.state index, bits)

/-- Read the state that follows on another one. -/
def next? (table : StateTable) (state : TableState) (bits : Bits) : Option (TableState × Bits) :=
  (Bits.readHigh? state.width bits).map fun (value, bits) =>
    (table.state (state.base + value), bits)

/-! ## Descriptions of tables -/

/--
Read the share of one symbol, when one less than `left` states are to be given away.  Of the numbers
that need all bits, as many as possible are written with one bit less.
-/
def readShare? (left : Nat) (bits : Bits) : Option (Share × Bits) := do
  let width := Nat.log2 left
  let half := 1 <<< width
  let short := 2 * half - 1 - left
  let (low, bits) ← Bits.readLow? width bits
  let (value, bits) ←
    if low < short then
      some (low, bits)
    else
      (Bits.readLow? 1 bits).map fun (high, bits) =>
        (if high = 0 then low else low + half - short, bits)
  return (if value = 0 then .rare else .states (value - 1), bits)

/-- Read how many symbols without a state follow: digits below three, after threes. -/
def readGap? : Bits → Option (Nat × Bits)
  | low :: high :: bits =>
      if low && high then
        (readGap? bits).map fun (gap, bits) => (gap + 3, bits)
      else
        some (low.toNat + 2 * high.toNat, bits)
  | _ => none

/-- Read the shares of at most the given number of symbols, onto those before them in reverse. -/
def readShares? (limit : Nat) : Nat → Nat → List Share → Bits → Option (List Share × Bits)
  | 0, _, _, _ => none
  | steps + 1, left, shares, bits => do
      let (share, bits) ← readShare? left bits
      let shares := share :: shares
      let left := left - share.size
      if left ≤ 1 then
        return (shares.reverse, bits)
      else
        let (gap, bits) ← if share = .states 0 then readGap? bits else some (0, bits)
        let shares := List.replicate gap (.states 0) ++ shares
        if shares.length < limit then
          readShares? limit steps left shares bits
        else
          none

/-- More bytes than a description can have. -/
def maxDescription : Nat := 512

/--
Read the description of a table for symbols below a limit, and give the bytes after it.  The
logarithm of the size has a limit too.
-/
def read? (limit maxLog : Nat) (bytes : Bytes) : Option (StateTable × Bytes) := do
  let description := bytes.take maxDescription
  let (log, bits) ← Bits.readLow? 4 (Bits.ofBytesLow description)
  let log := log + 5
  if log > maxLog then
    none
  else
    let (shares, bits) ← readShares? limit limit ((1 <<< log) + 1) [] bits
    return (ofShares log shares, bytes.drop (description.length - bits.length / 8))

end StateTable

end Provision.Codec
