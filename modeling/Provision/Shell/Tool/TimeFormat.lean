import Provision.Disk.Basic
import Provision.Shell.ByteText
import Provision.Text.Decimal

namespace Provision.Shell.Tool

/-!
# Calendar

Times are billionths of a second since the start of 1970, without leap seconds.  Days and times of
day are those of the first meridian.
-/

/-- The number of billionths in a second. -/
def billion : Nat := 1000000000

/-- The time at which files have been written that have no time of their own. -/
def presentTime : Int := 1780000000 * billion

/-- The time of the last change of an entry. -/
def timeOf : Entry → Int
  | .file file => file.stamp.getD presentTime
  | _ => presentTime

/-- The time of the last look at an entry. -/
def lookTimeOf : Entry → Int
  | .file file => file.lookStamp.getD presentTime
  | _ => presentTime

/-- Whether a year has a day more than others. -/
def isLeap (year : Nat) : Bool :=
  (year % 4 = 0 && year % 100 ≠ 0) || year % 400 = 0

/-- The number of days in a month. -/
def daysIn (year month : Nat) : Nat :=
  if month = 2 then (if isLeap year then 29 else 28)
  else if month ∈ [4, 6, 9, 11] then 30 else 31

/-- The number of days from the start of the first year to the start of another one. -/
def daysBefore (year : Nat) : Nat :=
  let past := year - 1
  365 * past + past / 4 - past / 100 + past / 400

/-- The number of days from the start of a year to the start of a month. -/
def daysBeforeMonth (year month : Nat) : Nat :=
  (List.range (month - 1)).foldl (fun days i => days + daysIn year (i + 1)) 0

/-- The number of days from the start of 1970 to a day. -/
def dayNumber (year month day : Nat) : Int :=
  (daysBefore year + daysBeforeMonth year month + day : Int) - 1 - daysBefore 1970

/-- The second at which a minute of a day starts, if there is such a day. -/
def momentOf? (year month day hour minute second : Nat) : Option Int :=
  if 1 ≤ month && month ≤ 12 && 1 ≤ day && day ≤ daysIn year month && hour < 24 && minute < 60 &&
      second ≤ 60 then
    some (86400 * dayNumber year month day + 3600 * hour + 60 * minute + second)
  else
    none

/-- The year, the month and the day that a number of days after 1970 leads to. -/
def dayAfter (days : Int) : Nat × Nat × Nat :=
  let total := (days + daysBefore 1970).toNat
  let guess := total / 366 + 1
  let year := ((List.range (guess / 100 + 3)).map (· + guess)).foldl
    (fun year candidate => if daysBefore candidate ≤ total then candidate else year) guess
  let rest := total - daysBefore year
  let step := fun (state : Nat × Nat) (_ : Nat) =>
    let (month, left) := state
    if daysIn year month ≤ left then (month + 1, left - daysIn year month) else state
  let (month, left) := (List.range 11).foldl step (1, rest)
  (year, month, left + 1)

/-- The months. -/
def monthNames : List String :=
  ["January", "February", "March", "April", "May", "June", "July", "August", "September",
    "October", "November", "December"]

/-- The days of a week. -/
def weekdayNames : List String :=
  ["Sunday", "Monday", "Tuesday", "Wednesday", "Thursday", "Friday", "Saturday"]

/-- The position of a name that is written in full or with its first three letters. -/
def namePosition? (names : List String) (text : ByteText) : Option Nat :=
  let sought := text.map Char.toLower
  names.findIdx? fun name =>
    let name := name.toList.map Char.toLower
    sought = name || sought = name.take 3

/-- The number of the month with a name. -/
def month? (text : ByteText) : Option Nat :=
  if text.map Char.toLower = "sept".toList then some 9
  else (namePosition? monthNames text).map (· + 1)

/-- The first three letters of the name of a month. -/
def monthName (month : Nat) : ByteText :=
  ((monthNames[month - 1]?).getD "").toList.take 3

/-- The day of the week of a number of days after 1970, counted from Sunday. -/
def weekdayOf (days : Int) : Nat :=
  ((days + 4).fmod 7).toNat

/-- A time as the numbers that people write for it. -/
structure CalendarTime where
  moment : Int
  year : Nat
  month : Nat
  day : Nat
  hour : Nat
  minute : Nat
  second : Nat
  billionths : Nat
  weekday : Nat
  yearDay : Nat

/-- The numbers of a time. -/
def CalendarTime.ofMoment (moment : Int) : CalendarTime :=
  let seconds := moment.fdiv billion
  let days := seconds.fdiv 86400
  let rest := (seconds.fmod 86400).toNat
  let (year, month, day) := dayAfter days
  { moment, year, month, day, hour := rest / 3600, minute := rest / 60 % 60, second := rest % 60
    billionths := (moment.fmod billion).toNat, weekday := weekdayOf days
    yearDay := daysBeforeMonth year month + day - 1 }

/-- The numbers of the start of a day, given by the number of days after 1970. -/
def CalendarTime.ofDays (days : Int) : CalendarTime :=
  .ofMoment (days * 86400 * billion)

/-!
# Formats of times

In a format, a percent sign and a letter stand for a part of a time.  Between them there may be
flags that say how the part is filled up and whether its letters are large, a width, and a modifier
that changes nothing.  What is no part of a time stays as it is.
-/

/-- What a format says about one part of a time, before the letter of that part. -/
structure TimeField where
  fill : Option Char := none
  width : Option Nat := none
  isUpper : Bool := false
  changesCase : Bool := false
  modifier : Option Char := none
  colons : Nat := 0

/-- The field after a percent sign, the text that it is written with, and the text after it. -/
def timeField (text : ByteText) : TimeField × ByteText × ByteText :=
  let flags := text.takeWhile fun c => c ∈ ['_', '-', '+', '0', '^', '#']
  let rest := text.drop flags.length
  let digits := rest.takeWhile Char.isDigit
  let rest := rest.drop digits.length
  let (modifier, rest) :=
    match rest with
    | 'E' :: rest => (some 'E', rest)
    | 'O' :: rest => (some 'O', rest)
    | rest => (none, rest)
  let colons := (rest.takeWhile (· = ':')).length
  let fills := flags.filter fun c => c ∈ ['_', '-', '+', '0']
  let rest := rest.drop colons
  ({ fill := fills.getLast?, width := Text.decimal? digits, isUpper := flags.contains '^'
     changesCase := flags.contains '#', modifier, colons },
    text.take (text.length - rest.length), rest)

/-- A text that is filled up on the left to the width of a field. -/
def TimeField.filled (field : TimeField) (width : Nat) (text : ByteText) : ByteText :=
  let width := if field.fill = some '-' then 0 else width
  let filler := if field.fill = some '0' || field.fill = some '+' then '0' else ' '
  List.replicate (width - text.length) filler ++ text

/-- A number in a field that has some digits unless its width is given. -/
def TimeField.number (field : TimeField) (digits : Nat) (sign? : Option Char)
    (value : ByteText) : ByteText :=
  let field := { field with fill := some (field.fill.getD '0') }
  let width := field.width.getD digits
  match sign? with
  | none => field.filled width value
  | some sign =>
      if field.fill = some '_' then field.filled width (sign :: value)
      else sign :: field.filled (width - 1) value

/-- A number without a sign. -/
def TimeField.plain (field : TimeField) (digits value : Nat) : ByteText :=
  field.number digits none (ByteText.ofNat value)

/-- A number that is filled up with blanks. -/
def TimeField.blank (field : TimeField) (digits value : Nat) : ByteText :=
  { field with fill := some (field.fill.getD '_') }.plain digits value

/-- A number that tells years, which may have a sign; the last argument tells how to fill it. -/
def TimeField.year (field : TimeField) (digits value : Nat) (yearFill : Option Char) : ByteText :=
  let field := { field with fill := field.fill.or yearFill }
  let bound := if digits = 2 then 99 else 9999
  let isSigned := field.fill = some '+' && (bound < value || field.width.any (digits < ·))
  field.number digits (if isSigned then some '+' else none) (ByteText.ofNat value)

/-- Words in a field. -/
def TimeField.words (field : TimeField) (isLower : Bool) (text : ByteText) : ByteText :=
  let text :=
    if isLower then text.map Char.toLower
    else if field.isUpper then text.map Char.toUpper
    else text
  field.filled (field.width.getD 0) text

/-- The parts of a second in a field: as many digits as it is wide. -/
def TimeField.fraction (field : TimeField) (billionths : Nat) : ByteText :=
  let width := match field.width with
    | none | some 0 => 9
    | some width => width
  let digits := ByteText.ofNat billionths
  let digits := (List.replicate (9 - digits.length) '0' ++ digits).take width
  let kept := (digits.reverse.dropWhile (· = '0')).reverse
  let kept := if kept.isEmpty then ['0'] else kept
  let filler := if field.fill = some '_' then ' ' else '0'
  if field.fill = some '-' && field.width.any (0 < ·) then kept
  else kept ++ List.replicate (width - kept.length) filler

/--
The year to which the week of a time belongs, and the number of that week: those of its Thursday.
-/
def CalendarTime.isoWeek (time : CalendarTime) : Nat × Nat :=
  let daysOf := fun (year : Nat) => if isLeap year then 366 else 365
  let thursday : Int := time.yearDay + 3 - ((time.weekday + 6) % 7 : Nat)
  if thursday < 0 then
    (time.year - 1, (thursday + daysOf (time.year - 1)).toNat / 7 + 1)
  else if daysOf time.year ≤ thursday then
    (time.year + 1, 1)
  else
    (time.year, thursday.toNat / 7 + 1)

/-- The hour of a half of the day. -/
def CalendarTime.halfHour (time : CalendarTime) : Nat :=
  if time.hour % 12 = 0 then 12 else time.hour % 12

/-- The distance from the first meridian, with some colons. -/
def zoneText? (field : TimeField) : Option ByteText :=
  match field.colons with
  | 0 => some (field.number 5 (some '+') ['0'])
  | 1 => some (field.number 6 (some '+') "0:00".toList)
  | 2 => some (field.number 9 (some '+') "0:00:00".toList)
  | 3 => some (field.number 3 (some '+') ['0'])
  | _ => none

/-- A part of a time that stands for itself, and no other format. -/
def plainPart? (time : CalendarTime) (yearFill : Option Char) (field : TimeField)
    (letter : Char) : Option ByteText :=
  let name := fun (names : List String) (position : Nat) => ((names[position]?).getD "").toList
  let words := fun (text : ByteText) =>
    some ({ field with isUpper := field.isUpper || field.changesCase }.words false text)
  let isPlain := field.modifier = none
  let mayCount := field.modifier ≠ some 'E'
  let mayDepend := field.modifier ≠ some 'O'
  let number := fun (digits value : Nat) =>
    if mayCount then some (field.plain digits value) else none
  let weekday := (time.weekday + 6) % 7
  match letter with
  | 'a' => if isPlain then words ((name weekdayNames time.weekday).take 3) else none
  | 'A' => if isPlain then words (name weekdayNames time.weekday) else none
  | 'b' | 'h' => if mayCount then words ((name monthNames (time.month - 1)).take 3) else none
  | 'B' => if mayCount then words (name monthNames (time.month - 1)) else none
  | 'C' => some (field.year 2 (time.year / 100) yearFill)
  | 'd' => number 2 time.day
  | 'e' => if mayCount then some (field.blank 2 time.day) else none
  | 'g' => if mayCount then some (field.year 2 (time.isoWeek.1 % 100) yearFill) else none
  | 'G' => if mayCount then some (field.year 4 time.isoWeek.1 yearFill) else none
  | 'H' => number 2 time.hour
  | 'I' => number 2 time.halfHour
  | 'j' => number 3 (time.yearDay + 1)
  | 'k' => if mayCount then some (field.blank 2 time.hour) else none
  | 'l' => if mayCount then some (field.blank 2 time.halfHour) else none
  | 'm' => number 2 time.month
  | 'M' => number 2 time.minute
  | 'n' => some (field.filled (field.width.getD 0) ['\n'])
  | 'N' => if mayCount then some (field.fraction time.billionths) else none
  | 'p' =>
      some (field.words field.changesCase (if time.hour < 12 then ['A', 'M'] else ['P', 'M']))
  | 'P' => some (field.words true (if time.hour < 12 then ['A', 'M'] else ['P', 'M']))
  | 'q' => some (field.plain 1 ((time.month - 1) / 3 + 1))
  | 's' =>
      let seconds := time.moment.fdiv billion
      some (field.number 1 (if seconds < 0 then some '-' else none)
        (ByteText.ofNat seconds.natAbs))
  | 'S' => number 2 time.second
  | 't' => some (field.filled (field.width.getD 0) ['\t'])
  | 'u' => some (field.plain 1 (weekday + 1))
  | 'U' => number 2 ((time.yearDay + 7 - time.weekday) / 7)
  | 'V' => number 2 time.isoWeek.2
  | 'w' => number 1 time.weekday
  | 'W' => number 2 ((time.yearDay + 7 - weekday) / 7)
  | 'y' => some (field.year 2 (time.year % 100) yearFill)
  | 'Y' => if mayDepend then some (field.year 4 time.year yearFill) else none
  | 'z' => zoneText? field
  | 'Z' => some (field.words field.changesCase "UTC".toList)
  | _ => none

/--
What stands for a field that is no part of a time: the text that it is written with.  After colons
that are not at their place only the first of them counts.
-/
def unknownField (field : TimeField) (written : ByteText) (letter? : Option Char) : ByteText :=
  let text := '%' :: written
  let colons := if letter? = some 'z' then 0 else field.colons - 1
  let first := text.take (text.length - colons) ++ if field.colons = 0 then letter?.toList else []
  let rest := text.drop (text.length - colons) ++ if field.colons = 0 then [] else letter?.toList
  field.filled (field.width.getD 0) first ++ rest

/--
A format with the parts of a time in it, as far as they are known.  The first part gets a width from
outside if it has none of its own.  The first argument bounds the steps.
-/
def expandFormat (part? : TimeField → Char → Option ByteText) :
    Nat → Option Nat → ByteText → ByteText
  | 0, _, _ => []
  | _ + 1, _, [] => []
  | steps + 1, width?, '%' :: rest =>
      let (field, written, after) := timeField rest
      match after with
      | [] => unknownField field written none
      | '%' :: after =>
          if written.isEmpty then '%' :: expandFormat part? steps none after
          else unknownField field written none ++ expandFormat part? steps none ('%' :: after)
      | letter :: after =>
          let isSound := field.colons = 0 || letter = 'z'
          let part :=
            if isSound then part? { field with width := field.width.or width? } letter else none
          part.getD (unknownField field written (some letter)) ++
            expandFormat part? steps none after
  | steps + 1, width?, c :: rest => c :: expandFormat part? steps width? rest

/-- The format that a letter is short for, and whether a modifier keeps it from being so. -/
def longFormat? (letter : Char) : Option (String × List Char) :=
  match letter with
  | 'c' => some ("%a %b %e %H:%M:%S %Y", ['O'])
  | 'D' => some ("%m/%d/%y", ['E', 'O'])
  | 'F' => some ("%Y-%m-%d", ['E', 'O'])
  | 'r' => some ("%I:%M:%S %p", [])
  | 'R' => some ("%H:%M", [])
  | 'T' => some ("%H:%M:%S", [])
  | 'x' => some ("%m/%d/%y", ['O'])
  | 'X' => some ("%H:%M:%S", ['O'])
  | _ => none

/-- A part of a time, which may have a format of its own. -/
def timePart? (time : CalendarTime) (field : TimeField) (letter : Char) : Option ByteText :=
  match longFormat? letter with
  | none => plainPart? time none field letter
  | some (format, barred) =>
      if field.modifier.any barred.contains then
        none
      else
        let isDay := letter = 'F'
        let (fill, width) :=
          if isDay && field.fill.isNone && field.width.isNone then (some '+', some 4)
          else (field.fill, if isDay then some ((field.width.getD 0) - 6) else none)
        let format := format.toList
        let text := expandFormat (plainPart? time fill) (format.length + 1) width format
        some (field.words false text)

/-- A time in a format. -/
def formatTime (format : ByteText) (moment : Int) : ByteText :=
  expandFormat (timePart? (.ofMoment moment)) (2 * format.length + 1) none format

end Provision.Shell.Tool
