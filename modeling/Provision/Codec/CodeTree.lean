import Provision.Codec.Basic

namespace Provision.Codec

/-!
# Huffman codes

A code is a binary tree with symbols at its leaves.  `CodeTree.canonical?` builds the code that is
given by the lengths of its words alone: shorter words come first, and words of one length follow
the order of their symbols.
-/

/-- A binary tree of code words; `empty` marks words that stand for nothing. -/
inductive CodeTree where
  | empty
  | leaf (value : Nat)
  | branch (zero one : CodeTree)
  deriving DecidableEq

namespace CodeTree

/-- Put a symbol at the end of a word, unless another symbol is in the way. -/
def insert? (value : Nat) : Bits → CodeTree → Option CodeTree
  | [], .empty => some (.leaf value)
  | [], _ => none
  | false :: rest, .empty => (insert? value rest .empty).map fun zero => .branch zero .empty
  | true :: rest, .empty => (insert? value rest .empty).map fun one => .branch .empty one
  | false :: rest, .branch zero one => (insert? value rest zero).map fun zero => .branch zero one
  | true :: rest, .branch zero one => (insert? value rest one).map fun one => .branch zero one
  | _ :: _, .leaf _ => none

/-- Whether every long enough word leads to a symbol. -/
def isComplete : CodeTree → Bool
  | .empty => false
  | .leaf _ => true
  | .branch zero one => zero.isComplete && one.isComplete

/-- The symbol that the bits begin with. -/
def read : CodeTree → Bits → Except Damage (Nat × Bits)
  | .empty, _ => .error .corrupt
  | .leaf value, bits => .ok (value, bits)
  | .branch _ _, [] => .error .cutShort
  | .branch zero one, bit :: rest => if bit then one.read rest else zero.read rest

/-- The symbol that the bits begin with, if there is one. -/
def read? (tree : CodeTree) (bits : Bits) : Option (Nat × Bits) :=
  (tree.read bits).toOption

/-- The symbols whose words have a given length, in order. -/
def symbolsOfLength (lengths : List Nat) (length : Nat) : List Nat :=
  lengths.zipIdx.filterMap fun (given, symbol) => if given = length then some symbol else none

/-- Put symbols under consecutive words of one length; the second part is the next word. -/
def insertAll? (length : Nat) : List Nat → Nat → CodeTree → Option (CodeTree × Nat)
  | [], next, tree => some (tree, next)
  | symbol :: rest, next, tree =>
      if next < 1 <<< length then
        match tree.insert? symbol (Bits.high length next) with
        | some tree => insertAll? length rest (next + 1) tree
        | none => none
      else
        none

/-- Put the symbols of every length under their words, from one length up. -/
def insertLengths? (lengths : List Nat) : List Nat → Nat → CodeTree → Option CodeTree
  | [], _, tree => some tree
  | length :: longer, next, tree =>
      match insertAll? length (symbolsOfLength lengths length) (2 * next) tree with
      | some (tree, next) => insertLengths? lengths longer next tree
      | none => none

/-- The code with words of the given lengths; a length of zero means that a symbol has no word. -/
def canonical? (lengths : List Nat) : Option CodeTree :=
  insertLengths? lengths ((List.range 20).map (· + 1)) 0 .empty

end CodeTree

/-!
# Codes by the lengths of their words

A word table holds the symbols of a code under the lengths of their words.  Words are given out in
ascending order, the shorter ones first, so a word is found by comparing it with the first one of
its length.  The lengths are not checked: with too few words, some inputs are no word, and with too
many, the last words are never read.
-/

/-- The symbols with words of one bit, of two bits, and so on. -/
structure WordTable where
  symbols : List (Array Nat)

namespace WordTable

/-- The longest word, in bits. -/
def maxLength : Nat := 20

/-- The code with words of the given lengths. -/
def ofLengths (lengths : List Nat) : WordTable where
  symbols := (List.range maxLength).map fun i => (CodeTree.symbolsOfLength lengths (i + 1)).toArray

/--
Go on reading a word, of which the bits so far are `word`; `first` is the first word that is so
long.
-/
def readFrom : List (Array Nat) → Nat → Nat → Bits → Except Damage (Nat × Bits)
  | [], _, _, _ => .error .corrupt
  | _ :: _, _, _, [] => .error .cutShort
  | here :: longer, first, word, bit :: bits =>
      let word := 2 * word + bit.toNat
      match here[word - first]? with
      | some symbol => .ok (symbol, bits)
      | none => readFrom longer (2 * (first + here.size)) word bits

/-- The symbol that the bits begin with. -/
def read (table : WordTable) (bits : Bits) : Except Damage (Nat × Bits) :=
  readFrom table.symbols 0 0 bits

end WordTable

end Provision.Codec
