import Provision.Shell.ByteText
import Provision.Text.Decimal

namespace Provision.Shell.Tool

/-!
# Orders of texts

Texts are compared byte by byte, or as versions: runs of digits count as numbers, and the ending of
a file name counts last.
-/

/-- The order of two values that are compared by a rule for less. -/
def orderBy {α : Type} (isLess : α → α → Bool) (a b : α) : Ordering :=
  if isLess a b then .lt else if isLess b a then .gt else .eq

/-- The order of two texts, byte by byte. -/
def byteOrder (a b : ByteText) : Ordering :=
  orderBy (fun a b => decide (a < b)) a b

/-- The rank of the first character of a text among versions. -/
def versionRank : ByteText → Int
  | [] => -1
  | c :: _ =>
      if c.isDigit then 0
      else if c.isAlpha then c.toNat
      else if c = '~' then -2
      else c.toNat + 256

/-- Whether a text starts with something that is no digit. -/
def startsPlain (text : ByteText) : Bool :=
  text.head?.any fun c => !c.isDigit

/-- The order of two versions; the first argument bounds the steps. -/
def versionSteps : Nat → ByteText → ByteText → Ordering
  | 0, _, _ => .eq
  | _ + 1, [], [] => .eq
  | steps + 1, a, b =>
      if startsPlain a || startsPlain b then
        match compare (versionRank a) (versionRank b) with
        | .eq => versionSteps steps a.tail b.tail
        | other => other
      else
        let number := fun (text : ByteText) => (text.takeWhile Char.isDigit).dropWhile (· = '0')
        let (m, n) := (number a, number b)
        match (compare m.length n.length).then (byteOrder m n) with
        | .eq => versionSteps steps (a.dropWhile Char.isDigit) (b.dropWhile Char.isDigit)
        | other => other

/-- Whether a text is made of endings that each open with a dot and a letter. -/
def isEnding : ByteText → Bool
  | [] => true
  | '.' :: c :: rest =>
      (c.isAlpha || c = '~') && isEnding (rest.dropWhile fun c => c.isAlphanum || c = '~')
  | _ => false
termination_by text => text.length
decreasing_by
  have shorter := (List.dropWhile_suffix (l := rest) fun c => c.isAlphanum || c = '~').length_le
  simp only [List.length_cons]
  omega

/-- A name without its endings. -/
def withoutEnding (name : ByteText) : ByteText :=
  match (List.range name.length).find? fun i => isEnding (name.drop (i + 1)) with
  | some i => name.take (i + 1)
  | none => name

/-- The rank of names that open with a dot. -/
def dotRank (name : ByteText) : Nat :=
  if name.isEmpty then 0
  else if name = ['.'] then 1
  else if name = ['.', '.'] then 2
  else if name.head? = some '.' then 3
  else 4

/-- The order of two names as versions. -/
def versionOrder (a b : ByteText) : Ordering :=
  let steps := a.length + b.length + 1
  (compare (dotRank a) (dotRank b)).then <|
    (versionSteps steps (withoutEnding a) (withoutEnding b)).then (versionSteps steps a b)

end Provision.Shell.Tool
