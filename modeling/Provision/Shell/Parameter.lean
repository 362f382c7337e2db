import Provision.Disk.Calls
import Provision.Shell.Pattern
import Provision.Shell.State

namespace Provision.Shell

/-!
# Fields

When the values are put into a word, each character keeps whether it was quoted and whether it came
from a value.  Unquoted values are cut at blanks, and unquoted patterns are replaced by the paths
that they match.
-/

/-- A part of a word after the values have been put in. -/
inductive FieldItem where
  | char (c : Char) (isQuoted isValue : Bool)
  | mark
  | cut
  deriving Repr, DecidableEq

/-- A field before its patterns are replaced: its characters and which of them are special. -/
abbrev Field := List (Char × Bool)

namespace Field

/-- The characters of a text with the same properties. -/
def charItems (isQuoted isValue : Bool) (text : ByteText) : List FieldItem :=
  text.map fun c => .char c isQuoted isValue

/--
Cut items into fields at separators in values that are not quoted.  Any number of blanks is one
separator, also together with another one.  The field that is open is given, with its last character
first, and whether blanks have just ended a field.
-/
def splitFrom (separators : ByteText) : Option Field → Bool → List FieldItem → List Field
  | current, _, [] => (current.map List.reverse).toList
  | current, _, .mark :: rest => splitFrom separators (some (current.getD [])) false rest
  | current, _, .cut :: rest =>
      (current.map List.reverse).toList ++ splitFrom separators none false rest
  | current, isAfterGap, .char c isQuoted isValue :: rest =>
      if isValue && !isQuoted && separators.contains c then
        if c ∈ [' ', '\t', '\n'] then
          match current with
          | none => splitFrom separators none isAfterGap rest
          | some field => field.reverse :: splitFrom separators none true rest
        else if isAfterGap then
          splitFrom separators none false rest
        else
          (current.getD []).reverse :: splitFrom separators none false rest
      else
        splitFrom separators (some ((c, !isQuoted) :: current.getD [])) false rest

/-- Cut items into fields. -/
def split (separators : ByteText) (items : List FieldItem) : List Field :=
  splitFrom separators none false items

/-- The text of a field. -/
def text (field : Field) : ByteText :=
  field.map Prod.fst

/-- The text of items as one field, with a joint where they are cut. -/
def joined (joint : ByteText) (items : List FieldItem) : ByteText :=
  items.flatMap fun
    | .char c _ _ => [c]
    | .mark => []
    | .cut => joint

/-- The pattern of items, with a joint where they are cut. -/
def patternOf (joint : ByteText) (items : List FieldItem) : Pattern :=
  Pattern.read (items.flatMap fun
    | .char c isQuoted _ => [(c, !isQuoted)]
    | .mark => []
    | .cut => joint.map fun c => (c, true))

/-- The paths that match the parts of a path, below the paths that have been found so far. -/
def matchParts (disk : Disk) (workingDirectory : Location) :
    List Field → List ByteText → List ByteText
  | [], found => found
  | part :: rest, found =>
      let pattern := Pattern.read part
      let next := found.flatMap fun above =>
        if pattern.isSpecial then
          let directory := if above.isEmpty then ['.'] else above
          match disk.listDirectory workingDirectory (ByteText.toPath directory) with
          | .ok names =>
              let names := ['.'] :: ['.', '.'] :: names.map fun (name, _) => ByteText.ofName name
              (names.filter fun name =>
                pattern.accepts name && (name.head? ≠ some '.' || part.head?.any (·.1 = '.'))).map
                  fun name => above ++ name
          | .error _ => []
        else
          [above ++ text part]
      let isLast := rest.isEmpty
      let next := next.filter fun path =>
        (disk.status workingDirectory false (ByteText.toPath path)).isOk
      matchParts disk workingDirectory rest
        (if isLast then next else next.map fun path => path ++ ['/'])

/-- Cut a field at its slashes. -/
def parts (field : Field) : List Field :=
  match field with
  | [] => [[]]
  | (c, isSpecial) :: rest =>
      match parts rest with
      | [] => [[(c, isSpecial)]]
      | first :: others =>
          if c = '/' then [] :: first :: others else ((c, isSpecial) :: first) :: others

/-- Replace a pattern by the paths that it matches; if there is none it stands for itself. -/
def paths (disk : Disk) (workingDirectory : Location) (field : Field) : List ByteText :=
  if (Pattern.read field).isSpecial then
    let found :=
      match parts field with
      | [] :: rest => matchParts disk workingDirectory rest [['/']]
      | all => matchParts disk workingDirectory all [[]]
    if found.isEmpty then [field.text] else found
  else
    [field.text]

end Field

/-!
# Values in words

The values of parameters become items of the word that they stand in.  Several arguments are cut
apart from each other.  A tilde at the start of a word stands for a home directory.
-/

/-! ## Items of values -/

/-- The items of all arguments: one field each where they are quoted. -/
def argumentItems (isQuoted : Bool) (arguments : List ByteText) : List FieldItem :=
  let items := fun argument =>
    (if isQuoted then [.mark] else []) ++ Field.charItems isQuoted true argument
  [FieldItem.cut].intercalate (arguments.map items)

/-- The items of a value. -/
def valueItems (isQuoted : Bool) (value : ByteText) : List FieldItem :=
  (if isQuoted then [.mark] else []) ++ Field.charItems isQuoted true value

/-- What parts several arguments that are handled as one text. -/
def argumentJoint : ByteText :=
  ['\x00']

/-- The text that stands for a parameter in a word, and whether it may be that of several ones. -/
def wholeText (state : State) (name : ByteText) (isQuoted : Bool) (value : ByteText) :
    ByteText × Bool :=
  if name = ['@'] || (name = ['*'] && !isQuoted) then
    (argumentJoint.intercalate state.arguments, true)
  else
    (value, false)

/-- The items of a text that stands for a parameter. -/
def wholeItems (isQuoted : Bool) : ByteText × Bool → List FieldItem
  | (text, false) => valueItems isQuoted text
  | (text, true) =>
      if text.isEmpty then [] else argumentItems isQuoted (Text.fields '\x00' text)

/-- What the output of a script becomes in a word: the line ends at its end are dropped. -/
def outputValue (text : ByteText) : ByteText :=
  ((text.filter (· ≠ '\x00')).reverse.dropWhile (· = '\n')).reverse

/-! ## Home directories -/

/-- The home directories of users. -/
def homes : List (String × String) :=
  [("root", "/root"), ("daemon", "/usr/sbin"), ("bin", "/bin"), ("nobody", "/nonexistent")]

/-- The home directory of a user, or of the one who runs the shell if no name is given. -/
def homeOf? (state : State) (user : ByteText) : Option ByteText :=
  if user.isEmpty then
    state.valueOf? "HOME".toList
  else
    (homes.find? fun (name, _) => name.toList = user).map fun (_, home) => home.toList

/--
A plain text with a home directory in place of the tilde at its start.  The name of a user ends at a
slash or with the text, after which the word may not go on.
-/
def expandHome (state : State) (isEnd : Bool) (text : ByteText) : Word :=
  match text with
  | '~' :: rest =>
      let user := rest.takeWhile (· ≠ '/')
      let below := rest.drop user.length
      match isEnd || !below.isEmpty, homeOf? state user with
      | true, some home => if home.isEmpty then [.plain below] else [.quoted home, .plain below]
      | _, _ => [.plain text]
  | text => [.plain text]

/-- A word with a home directory in place of the tilde at its start. -/
def expandTilde (state : State) : Word → Word
  | .plain text :: rest => expandHome state rest.isEmpty text ++ rest
  | word => word

/-- A plain text with home directories in place of the tildes after its colons. -/
def expandParts (state : State) (isStart isEnd : Bool) (text : ByteText) : Word :=
  let parts := Text.fields ':' text
  let words := parts.mapIdx fun i part =>
    if i = 0 && !isStart then [.plain part]
    else expandHome state (isEnd || i + 1 < parts.length) part
  [Piece.plain [':']].intercalate words

/-- The value of an assignment with home directories at its start and after its colons. -/
def expandTildes (state : State) (isStart : Bool) : Word → Word
  | .plain text :: rest =>
      expandParts state isStart rest.isEmpty text ++ expandTildes state false rest
  | piece :: rest => piece :: expandTildes state false rest
  | [] => []

/-- A word that assigns, with home directories in its value. -/
def expandAssigned (state : State) (word : Word) : Word :=
  match word.assignment? with
  | some (name, value) => .plain (name ++ ['=']) :: expandTildes state true value
  | none => word

end Provision.Shell
