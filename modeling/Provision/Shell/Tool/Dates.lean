import Provision.Shell.Tool.Amounts
import Provision.Shell.Tool.Options
import Provision.Shell.Tool.Places
import Provision.Shell.Tool.TimeFormat
import Provision.Text.Fields

namespace Provision.Shell.Tool

/-!
# Tokens of dates

The text of a date is cut into numbers, signs and words.  Words are names of months, days, zones and
units, or say how they are meant; letters in brackets are left out.
-/

/-- A number as it is written: its value and the number of its digits. -/
structure WrittenNumber where
  value : Nat
  digits : Nat
  deriving Repr, DecidableEq

/-- A half of the day. -/
inductive DayHalf where
  | morning
  | afternoon
  deriving Repr, DecidableEq

/-- A unit of time: a year, a month, or a number of days or seconds. -/
inductive DateUnit where
  | year
  | month
  | day (size : Nat)
  | second (size : Nat)
  deriving Repr, DecidableEq

/-- A part of the text of a date. -/
inductive DateToken where
  | number (number : WrittenNumber)
  | signed (sign : Int) (number : WrittenNumber)
  | decimal (isSigned : Bool) (billionths : Int)
  | month (number : Nat)
  | weekday (number : Nat)
  | half (half : DayHalf)
  | unit (unit : DateUnit)
  | ordinal (number : Int)
  | shift (days : Int)
  | ago (factor : Int)
  | zone (seconds : Int)
  | summerZone (seconds : Int)
  | summer
  | joint
  | ownZone
  | sign (c : Char)
  | unknown
  deriving Repr, DecidableEq

/-! ## Words -/

/-- The zones that have names, with the minutes that they are ahead of the first meridian. -/
def zones : List (String × Int) := [
  ("GMT", 0), ("UT", 0), ("UTC", 0), ("WET", 0), ("ART", -180), ("BRT", -180), ("NST", -210),
  ("AST", -240), ("CLT", -240), ("EST", -300), ("CST", -360), ("MST", -420), ("PST", -480),
  ("AKST", -540), ("HST", -600), ("HAST", -600), ("SST", -720), ("WAT", 60), ("CET", 60),
  ("MET", 60), ("MEZ", 60), ("EET", 120), ("CAT", 120), ("SAST", 120), ("EAT", 180), ("MSK", 180),
  ("IST", 330), ("SGT", 480), ("KST", 540), ("JST", 540), ("GST", 600), ("NZST", 720)]

/-- The zones in summer that have names, with the minutes that they are ahead in winter. -/
def summerZones : List (String × Int) := [
  ("WEST", 0), ("BST", 0), ("BRST", -180), ("NDT", -210), ("ADT", -240), ("CLST", -240),
  ("EDT", -300), ("CDT", -360), ("MDT", -420), ("PDT", -480), ("AKDT", -540), ("HADT", -600),
  ("CEST", 60), ("MEST", 60), ("MESZ", 60), ("EEST", 120), ("MSD", 180), ("NZDT", 720)]

/-- The units that have names. -/
def dateUnits : List (String × DateUnit) := [
  ("YEAR", .year), ("MONTH", .month), ("FORTNIGHT", .day 14), ("WEEK", .day 7), ("DAY", .day 1),
  ("HOUR", .second 3600), ("MINUTE", .second 60), ("MIN", .second 60), ("SECOND", .second 1),
  ("SEC", .second 1)]

/-- The words that say how other words are meant. -/
def relativeWords : List (String × DateToken) := [
  ("TOMORROW", .shift 1), ("YESTERDAY", .shift (-1)), ("TODAY", .shift 0), ("NOW", .shift 0),
  ("LAST", .ordinal (-1)), ("THIS", .ordinal 0), ("NEXT", .ordinal 1), ("FIRST", .ordinal 1),
  ("THIRD", .ordinal 3), ("FOURTH", .ordinal 4), ("FIFTH", .ordinal 5), ("SIXTH", .ordinal 6),
  ("SEVENTH", .ordinal 7), ("EIGHTH", .ordinal 8), ("NINTH", .ordinal 9), ("TENTH", .ordinal 10),
  ("ELEVENTH", .ordinal 11), ("TWELFTH", .ordinal 12), ("AGO", .ago (-1)), ("HENCE", .ago 1)]

/-- The names of days that are shorter than usual. -/
def shortWeekdays : List (String × Nat) :=
  [("TUES", 2), ("WEDNES", 3), ("THUR", 4), ("THURS", 4)]

/-- The token of the name of a month or of a day of the week. -/
def calendarName? (word : String) : Option DateToken :=
  let isShort := word.length = 3 || (word.length = 4 && word.endsWith ".")
  let isNamed := fun (name : String) =>
    let name := name.toUpper
    if isShort then word.toList.take 3 = name.toList.take 3 else word = name
  match monthNames.findIdx? isNamed, weekdayNames.findIdx? isNamed with
  | some position, _ => some (.month (position + 1))
  | none, some position => some (.weekday position)
  | none, none =>
      if word = "SEPT" then some (.month 9)
      else (shortWeekdays.lookup word).map .weekday

/-- The token of the name of a zone. -/
def zoneName? (word : String) : Option DateToken :=
  match zones.lookup word, summerZones.lookup word with
  | some minutes, _ => some (.zone (60 * minutes))
  | none, some minutes => some (.summerZone (60 * minutes))
  | none, none => none

/-- The token of a letter that stands for a zone. -/
def zoneLetter? (c : Char) : Option DateToken :=
  let after := fun (first : Char) => ((c.toNat : Int) - first.toNat + 1) * 3600
  if c = 'T' then some .joint
  else if c = 'J' then some .ownZone
  else if c = 'Z' then some (.zone 0)
  else if 'A' ≤ c && c ≤ 'I' then some (.zone (after 'A'))
  else if 'K' ≤ c && c ≤ 'M' then some (.zone (after 'A' - 3600))
  else if 'N' ≤ c && c ≤ 'Y' then some (.zone (-(after 'N')))
  else none

/-- The token of the name of a unit, which may stand for several of them. -/
def unitName? (word : String) : Option DateToken :=
  let single := if word.endsWith "S" then String.ofList word.toList.dropLast else word
  ((dateUnits.lookup word).or (dateUnits.lookup single)).map .unit

/-- The token of a word. -/
def wordToken (word : ByteText) : DateToken :=
  let word := (String.ofList word).toUpper
  let isLetter := word.length = 1
  let undotted := String.ofList (word.toList.filter (· ≠ '.'))
  if word = "AM" || word = "A.M." then .half .morning
  else if word = "PM" || word = "P.M." then .half .afternoon
  else if word = "DST" then .summer
  else
    let found := (calendarName? word).or <| (zoneName? word).or <| (unitName? word).or <|
      (relativeWords.lookup word).or <|
      (if isLetter then word.toList.head?.bind zoneLetter? else none).or (zoneName? undotted)
    found.getD .unknown

/-! ## Numbers -/

/-- A number as digits write it. -/
def WrittenNumber.ofDigits (digits : ByteText) : WrittenNumber :=
  ⟨(Text.decimal? digits).getD 0, digits.length⟩

/-- The billionths that a fraction stands for, which is cut off towards the past. -/
def fractionBillionths (isNegative : Bool) (digits : ByteText) : Nat :=
  let kept := (Text.decimal? ((digits ++ List.replicate 9 '0').take 9)).getD 0
  if isNegative && (digits.drop 9).any (· ≠ '0') then kept + 1 else kept

/-- The token of a number with its sign, and the text after it. -/
def numberToken (sign? : Option Int) (text : ByteText) : DateToken × ByteText :=
  let digits := text.takeWhile Char.isDigit
  let rest := text.drop digits.length
  let number := WrittenNumber.ofDigits digits
  let whole :=
    match sign? with
    | some sign => DateToken.signed sign number
    | none => .number number
  match rest with
  | c :: after =>
      let fraction := after.takeWhile Char.isDigit
      if (c = '.' || c = ',') && !fraction.isEmpty then
        let sign := sign?.getD 1
        let part := fractionBillionths (sign < 0) fraction
        (.decimal sign?.isSome (sign * (number.value * billion + part : Nat)),
          after.drop fraction.length)
      else
        (whole, rest)
  | [] => (whole, rest)

/-- What is left of a text after the bracket that closes an open one. -/
def afterBrackets : Nat → ByteText → ByteText
  | _, [] => []
  | depth, c :: rest =>
      if c = '(' then afterBrackets (depth + 1) rest
      else if c = ')' then (if depth ≤ 1 then rest else afterBrackets (depth - 1) rest)
      else afterBrackets depth rest

/-- The tokens of a text; the first argument bounds the steps. -/
def dateTokens : Nat → ByteText → List DateToken
  | 0, _ => []
  | _ + 1, [] => []
  | steps + 1, c :: rest =>
      if ByteText.isBlank c then
        dateTokens steps rest
      else if c.isDigit then
        let (token, rest) := numberToken none (c :: rest)
        token :: dateTokens steps rest
      else if c = '+' || c = '-' then
        let rest := rest.dropWhile ByteText.isBlank
        if rest.head?.any Char.isDigit then
          let (token, rest) := numberToken (some (if c = '-' then -1 else 1)) rest
          token :: dateTokens steps rest
        else
          dateTokens steps rest
      else if c.isAlpha then
        let word := (c :: rest).takeWhile fun c => c.isAlpha || c = '.'
        wordToken word :: dateTokens steps ((c :: rest).drop word.length)
      else if c = '(' then
        dateTokens steps (afterBrackets 1 rest)
      else
        .sign c :: dateTokens steps rest

/-!
# Reading dates

A date is written as several items in any order: a day, a time of day, a zone, and distances from
all that.  What is not said is taken from another time, but for the time of day, which is midnight
unless there is a distance alone.
-/

/-- A distance in time. -/
structure TimeDistance where
  years : Int := 0
  months : Int := 0
  days : Int := 0
  billionths : Int := 0
  deriving Repr, DecidableEq

/-- A distance and a multiple of another one. -/
def TimeDistance.plus (a : TimeDistance) (factor : Int) (b : TimeDistance) : TimeDistance :=
  { years := a.years + factor * b.years
    months := a.months + factor * b.months
    days := a.days + factor * b.days
    billionths := a.billionths + factor * b.billionths }

/-- A time of day, which may count the hours of a half of the day. -/
structure DayTime where
  hour : Nat := 0
  minute : Nat := 0
  billionths : Nat := 0
  half : Option DayHalf := none
  deriving Repr, DecidableEq

/-- What a date says, with how often it says so. -/
structure DateItems where
  moment : Option Int := none
  year : Option Int := none
  monthDay : Option (Int × Int) := none
  days : Nat := 0
  time : Option DayTime := none
  times : Nat := 0
  zone : Int := 0
  zones : Nat := 0
  weekday : Option (Int × Nat) := none
  weekdays : Nat := 0
  distance : Option TimeDistance := none

namespace DateItems

/-- The year that a number of some digits stands for. -/
def fullYearOf (digits : Nat) (value : Nat) : Int :=
  if digits = 2 then (if value < 69 then 2000 + value else 1900 + value) else value

/-- A day has been given. -/
def withDay (items : DateItems) (year : Option Int) (month day : Int) : DateItems :=
  { items with year := year.or items.year, monthDay := some (month, day), days := items.days + 1 }

/-- A time of day has been given. -/
def withTime (items : DateItems) (hour minute billionths : Nat) (half : Option DayHalf) :
    DateItems :=
  { items with time := some ⟨hour, minute, billionths, half⟩, times := items.times + 1 }

/-- A zone has been given. -/
def withZone (items : DateItems) (zone : Int) : DateItems :=
  { items with zone, zones := items.zones + 1 }

/-- A day of the week has been given. -/
def withWeekday (items : DateItems) (ordinal : Int) (weekday : Nat) : DateItems :=
  { items with weekday := some (ordinal, weekday), weekdays := items.weekdays + 1 }

/-- A distance has been given. -/
def withDistance (items : DateItems) (factor : Int) (distance : TimeDistance) : DateItems :=
  { items with distance := some ((items.distance.getD {}).plus factor distance) }

/-- A number stands alone: it is a year, a day, or a time of day. -/
def withNumber (items : DateItems) (number : WrittenNumber) : DateItems :=
  let isYear := items.days > 0 && items.year.isNone && items.distance.isNone &&
    (items.times > 0 || 2 < number.digits)
  let value := number.value
  if isYear then
    { items with year := some (fullYearOf number.digits value) }
  else if 4 < number.digits then
    items.withDay (some (fullYearOf (number.digits - 4) (value / 10000)))
      (value / 100 % 100 : Nat) (value % 100 : Nat)
  else if number.digits ≤ 2 then
    items.withTime value 0 0 none
  else
    items.withTime (value / 100) (value % 100) 0 none

end DateItems

/-- How far a zone is ahead of the first meridian, in seconds. -/
def zoneDistance? (sign : Int) (number : WrittenNumber) (minutes : Option WrittenNumber) :
    Option Int :=
  let total :=
    match minutes with
    | some minutes => 60 * number.value + minutes.value
    | none =>
        let value := if number.digits ≤ 2 then 100 * number.value else number.value
        value / 100 * 60 + value % 100
  if total ≤ 24 * 60 then some (sign * (60 * total : Nat)) else none

/-- The distance of a number of units. -/
def unitDistance (count : Int) (unit : DateUnit) : TimeDistance :=
  match unit with
  | .year => { years := count }
  | .month => { months := count }
  | .day size => { days := count * size }
  | .second size => { billionths := count * (size * billion : Nat) }

/-- An item that has been read, with the tokens after it. -/
abbrev ReadItem := Option (DateItems × List DateToken)

/-- A distance has been read, which may lie in the past. -/
def afterDistance (items : DateItems) (distance : TimeDistance) (rest : List DateToken) :
    ReadItem :=
  match rest with
  | .ago factor :: rest => some (items.withDistance factor distance, rest)
  | rest => some (items.withDistance 1 distance, rest)

/-- The zone after a time of day, if there is one. -/
def timeZone (items : DateItems) (rest : List DateToken) : ReadItem :=
  match rest with
  | .signed sign number :: .sign ':' :: .number minutes :: rest => do
      return (items.withZone (← zoneDistance? sign number (some minutes)), rest)
  | .signed _ _ :: .sign ':' :: _ => none
  | .signed sign number :: rest => do
      return (items.withZone (← zoneDistance? sign number none), rest)
  | rest => some (items, rest)

/-- What follows the time of day: a half of the day, or a zone. -/
def afterTime (items : DateItems) (mayHalve : Bool) (hour minute billionths : Nat)
    (rest : List DateToken) : ReadItem :=
  match mayHalve, rest with
  | true, .half half :: rest => some (items.withTime hour minute billionths (some half), rest)
  | _, rest => timeZone (items.withTime hour minute billionths none) rest

/-- A time of day from its hour on, where a colon or a zone has to follow. -/
def dayTime (items : DateItems) (mayHalve : Bool) (hour : WrittenNumber)
    (rest : List DateToken) : ReadItem :=
  match rest with
  | .sign ':' :: .number minute :: .sign ':' :: .number second :: rest =>
      afterTime items mayHalve hour.value minute.value (second.value * billion) rest
  | .sign ':' :: .number minute :: .sign ':' :: .decimal false billionths :: rest =>
      afterTime items mayHalve hour.value minute.value billionths.toNat rest
  | .sign ':' :: .number _ :: .sign ':' :: _ => none
  | .sign ':' :: .number minute :: rest =>
      afterTime items mayHalve hour.value minute.value 0 rest
  | .signed sign number :: rest =>
      timeZone (items.withTime hour.value 0 0 none) (.signed sign number :: rest)
  | _ => none

/-- A day in numbers, which a letter may join with a time of day. -/
def numericDay (items : DateItems) (year : WrittenNumber) (month day : Int)
    (rest : List DateToken) : ReadItem :=
  let items := items.withDay (some (DateItems.fullYearOf year.digits year.value)) month day
  match rest with
  | .joint :: .number hour :: rest => dayTime items false hour rest
  | .joint :: _ => none
  | rest => some (items, rest)

/-- The item that starts with a number and a number with a sign. -/
def signedItem (items : DateItems) (number : WrittenNumber) (sign : Int) (next : WrittenNumber)
    (rest : List DateToken) : ReadItem :=
  match rest with
  | .signed otherSign day :: rest =>
      numericDay items number (-sign * next.value) (-otherSign * day.value) rest
  | .unit unit :: rest =>
      some ((items.withNumber number).withDistance 1 (unitDistance (sign * next.value) unit), rest)
  | rest => dayTime items false number (.signed sign next :: rest)

/-- The item that starts with a number. -/
def numberItem (items : DateItems) (number : WrittenNumber) (rest : List DateToken) : ReadItem :=
  let value : Int := number.value
  let year := fun (number : WrittenNumber) => some (DateItems.fullYearOf number.digits number.value)
  match rest with
  | .half half :: rest => some (items.withTime number.value 0 0 (some half), rest)
  | .sign ':' :: rest => dayTime items true number (.sign ':' :: rest)
  | .sign '/' :: .number second :: .sign '/' :: .number third :: rest =>
      if 4 ≤ number.digits then some (items.withDay (year number) second.value third.value, rest)
      else some (items.withDay (year third) value second.value, rest)
  | .sign '/' :: .number _ :: .sign '/' :: _ => none
  | .sign '/' :: .number day :: rest => some (items.withDay none value day.value, rest)
  | .sign '/' :: _ => none
  | .month month :: .signed sign other :: rest =>
      some (items.withDay (if sign < 0 then year other else some (-other.value)) month value, rest)
  | .month month :: .number other :: rest =>
      some (items.withDay (year other) month value, rest)
  | .month month :: rest => some (items.withDay none month value, rest)
  | .weekday weekday :: rest => some (items.withWeekday value weekday, rest)
  | .unit unit :: rest => afterDistance items (unitDistance value unit) rest
  | .signed sign next :: rest => signedItem items number sign next rest
  | rest => some (items.withNumber number, rest)

/-- The item that starts with the name of a month. -/
def monthItem (items : DateItems) (month : Nat) : List DateToken → ReadItem
  | .signed daySign day :: .signed yearSign year :: rest =>
      let year := if yearSign < 0 then DateItems.fullYearOf year.digits year.value else -year.value
      some (items.withDay (some year) month (-daySign * day.value), rest)
  | .number day :: .sign ',' :: .number year :: rest =>
      some (items.withDay (some (DateItems.fullYearOf year.digits year.value)) month day.value,
        rest)
  | .number _ :: .sign ',' :: _ => none
  | .number day :: rest => some (items.withDay none month day.value, rest)
  | _ => none

/-- The item that starts with the name of a zone. -/
def zoneItem (items : DateItems) (zone : Int) : List DateToken → ReadItem
  | .signed sign number :: .unit unit :: rest =>
      some ((items.withZone zone).withDistance 1 (unitDistance (sign * number.value) unit), rest)
  | .signed sign number :: .sign ':' :: .number minutes :: rest => do
      return (items.withZone (zone + (← zoneDistance? sign number (some minutes))), rest)
  | .signed _ _ :: .sign ':' :: _ => none
  | .signed sign number :: rest => do
      return (items.withZone (zone + (← zoneDistance? sign number none)), rest)
  | .summer :: rest => some (items.withZone (zone + 3600), rest)
  | rest => some (items.withZone zone, rest)

/-- The item at the start of some tokens, and the tokens after it. -/
def dateItem? (items : DateItems) : List DateToken → ReadItem
  | .number number :: rest => numberItem items number rest
  | .signed sign number :: .unit unit :: rest =>
      afterDistance items (unitDistance (sign * number.value) unit) rest
  | .decimal _ billionths :: .unit (.second 1) :: rest =>
      afterDistance items { billionths } rest
  | .month month :: rest => monthItem items month rest
  | .weekday weekday :: .sign ',' :: rest => some (items.withWeekday 0 weekday, rest)
  | .weekday weekday :: rest => some (items.withWeekday 0 weekday, rest)
  | .ordinal ordinal :: .weekday weekday :: rest => some (items.withWeekday ordinal weekday, rest)
  | .ordinal ordinal :: .unit unit :: rest => afterDistance items (unitDistance ordinal unit) rest
  | .unit unit :: rest => afterDistance items (unitDistance 1 unit) rest
  | .shift days :: rest => some (items.withDistance 1 { days }, rest)
  | .zone zone :: rest => zoneItem items zone rest
  | .summerZone zone :: rest => some (items.withZone (zone + 3600), rest)
  | .joint :: rest => some (items.withZone (-7 * 3600), rest)
  | .ownZone :: rest => some ({ items with zones := items.zones + 1 }, rest)
  | _ => none

/-- What some tokens say; the first argument bounds the steps. -/
def dateItems? : Nat → DateItems → List DateToken → Option DateItems
  | 0, _, _ => none
  | _ + 1, items, [] => some items
  | steps + 1, items, tokens => do
      let (items, rest) ← dateItem? items tokens
      dateItems? steps items rest

/-- The hour of the day that a time of day has, if there is such an hour. -/
def DayTime.hour? (time : DayTime) : Option Nat :=
  match time.half with
  | none => if time.hour < 24 then some time.hour else none
  | some half =>
      if time.hour = 0 || 12 < time.hour then none
      else some (time.hour % 12 + if half = .afternoon then 12 else 0)

/-- How many days after a day of the week another one is. -/
def daysUntil (ordinal : Int) (present sought : Nat) : Int :=
  let weeks := if 0 < ordinal && present ≠ sought then ordinal - 1 else ordinal
  ((sought + 7 - present) % 7 : Nat) + 7 * weeks

/-- The time that a date stands for, where another time gives what it does not say. -/
def DateItems.resolve? (items : DateItems) (base : Int) : Option Int := do
  let counts := [items.times, items.days, items.weekdays, items.zones]
  if counts.any (1 < ·) then
    none
  else
    let now := CalendarTime.ofMoment base
    let year := (items.year.getD now.year).toNat
    let (month, day) := items.monthDay.getD (now.month, now.day)
    let keepsTime := items.distance.isSome && items.days = 0 && items.weekdays = 0
    let present : DayTime := ⟨now.hour, now.minute, now.second * billion + now.billionths, none⟩
    let time := items.time.getD (if keepsTime then present else {})
    let hour ← time.hour?
    if month < 1 || 12 < month || day < 1 || time.minute ≥ 60 || time.billionths ≥ 60 * billion then
      none
    else if day > daysIn year month.toNat then
      none
    else
      let distance := items.distance.getD {}
      let start := dayNumber year month.toNat day.toNat
      let ahead :=
        match items.weekday with
        | some (ordinal, weekday) =>
            if items.days = 0 then daysUntil ordinal (weekdayOf start) weekday else 0
        | none => 0
      let there := CalendarTime.ofDays (start + ahead)
      let months := 12 * (there.year + distance.years) + (there.month - 1 : Nat) + distance.months
      let first := dayNumber (months.fdiv 12).toNat ((months.fmod 12).toNat + 1) 1
      let days := first + (there.day - 1 : Nat) + distance.days
      let seconds := 86400 * days + 3600 * hour + 60 * time.minute - items.zone
      return seconds * billion + time.billionths + distance.billionths

/-- The time that a date stands for, where another time gives what it does not say. -/
def readDate? (base : Int) (text : ByteText) : Option Int :=
  match dateTokens (text.length + 1) text with
  | [.sign '@', .number number] => some (number.value * billion)
  | [.sign '@', .signed sign number] => some (sign * number.value * billion)
  | [.sign '@', .decimal _ billionths] => some billionths
  | tokens => do
      let items ← dateItems? (tokens.length + 1) {} tokens
      items.resolve? base

/-!
# Telling dates

A time is printed in a format: the present one, one that is written as a date, or the one of the
last change of a file.
-/

open Work

/-- The options of telling dates. -/
def dateOptions : List OptionKind :=
  [valued 'd' "date", wordOnly "debug", valued 'f' "file", optionOf ['I'] "iso-8601" .perhaps,
    valued 'r' "reference", optionOf [] "rfc-3339" .always, flag 'R' "rfc-email",
    wordOnly "rfc-822", wordOnly "resolution", valued 's' "set", flag 'u' "universal",
    wordOnly "utc", wordOnly "uct"]

/-- The format that an option asks for, if it does. -/
def formatOfOption (option : String × ByteText) : Work (Option String) := do
  let day := "%Y-%m-%d"
  match option with
  | ("iso-8601", value) =>
      let precision ←
        if value.isEmpty then pure "date"
        else chosen [["hours"], ["minutes"], ["date"], ["seconds"], ["ns"]] "iso-8601" value
      return some <| match precision with
        | "hours" => day ++ "T%H%:z"
        | "minutes" => day ++ "T%H:%M%:z"
        | "seconds" => day ++ "T%H:%M:%S%:z"
        | "ns" => day ++ "T%H:%M:%S,%N%:z"
        | _ => day
  | ("rfc-3339", value) =>
      return some <| match ← chosen [["date"], ["seconds"], ["ns"]] "rfc-3339" value with
        | "seconds" => day ++ " %H:%M:%S%:z"
        | "ns" => day ++ " %H:%M:%S.%N%:z"
        | _ => day
  | ("rfc-email", _) | ("rfc-822", _) => return some "%a, %d %b %Y %H:%M:%S %z"
  | _ => return none

/-- The format that a call asks for. -/
def requestedFormat (arguments : Arguments) : Work ByteText := do
  let formats := (← arguments.options.mapM formatOfOption).filterMap id
  let own := match arguments.operands with
    | ('+' :: format) :: _ => [format]
    | _ => []
  match formats.map String.toList ++ own with
  | [] =>
      return (if arguments.has "resolution" then "%s.%N" else "%a %b %e %H:%M:%S %Z %Y").toList
  | [format] => return format
  | _ => refuse "multiple output formats specified".toList

/-- Refuse a call that asks for several dates, or for more than a format. -/
def checkDateCall (arguments : Arguments) : Work Unit := do
  let sources := ["date", "file", "reference", "resolution"].filter arguments.has
  if sources.length > 1 then
    misuse "the options to specify dates for printing are mutually exclusive".toList
  if arguments.has "set" && !sources.isEmpty then
    misuse "the options to print and set the time may not be used together".toList
  refuseMore 1 arguments
  if let some operand := arguments.operands.head? then
    if operand.head? ≠ some '+' && (arguments.has "set" || !sources.isEmpty) then
      misuse ("the argument ".toList ++ quoted operand ++ (" lacks a leading '+';\n" ++
        "when using an option to specify date(s), any non-option\n" ++
        "argument must be a format string beginning with '+'").toList)

/-- The time that a date stands for, or else a refusal. -/
def requireDate (text : ByteText) : Work Int := do
  match readDate? presentTime text with
  | some moment => return moment
  | none => refuse ("invalid date ".toList ++ quoted text)

/-- Tell the dates in the lines of a content. -/
def tellLines (format operand : ByteText) : Work Unit := do
  match ← content operand with
  | .error fault => refuse (quotedIfNeeded operand ++ ": ".toList ++ faultText fault)
  | .ok text =>
      let lines := Text.fields '\n' text
      for line in if lines.getLast? = some [] then lines.dropLast else lines do
        match readDate? presentTime line with
        | some moment => printLine (formatTime format moment)
        | none => complain ("invalid date ".toList ++ quoted line)

/-- The time that a call is about, unless it is about many of them. -/
def toldMoment (arguments : Arguments) : Work Int := do
  match arguments.value? "reference", arguments.value? "date" with
  | some reference, _ =>
      match ← entry true reference with
      | .ok (_, found) => return timeOf found
      | .error fault => refuse (quotedIfNeeded reference ++ ": ".toList ++ faultText fault)
  | none, some text => requireDate text
  | none, none => return if arguments.has "resolution" then 1 else presentTime

/-- Tell a date. -/
def date : Tool := toTool do
  let arguments ← arguments dateOptions
  let format ← requestedFormat arguments
  checkDateCall arguments
  match arguments.value? "file", arguments.value? "set" with
  | some operand, _ => tellLines format operand
  | none, some text => do
      let moment ← requireDate text
      complain "cannot set date: Operation not permitted".toList
      printLine (formatTime format moment)
  | none, none =>
      match arguments.operands.find? fun operand => operand.head? ≠ some '+' with
      | some operand => refuse ("invalid date ".toList ++ quoted operand)
      | none => printLine (formatTime format (← toldMoment arguments))

end Provision.Shell.Tool

namespace Provision.Shell.Tool

/-!
# Times and sizes of files

Files are made if they are missing, get the time of their last change, or are cut to a size.
-/

open Work

/-! ## Stamps -/

/-- The numbers that digits stand for, taken two by two. -/
def pairs? : ByteText → Option (List Nat)
  | [] => some []
  | a :: b :: rest => do return (← Text.decimal? [a, b]) :: (← pairs? rest)
  | [_] => none

/-- The year that its last two digits stand for. -/
def fullYear (short : Nat) : Nat :=
  if short < 69 then 2000 + short else 1900 + short

/-- The year in which times without one are. -/
def presentYear : Nat := 2026

/-- The time that a stamp of digits stands for. -/
def readStamp? (text : ByteText) : Option Int := do
  let (digits, second) ←
    match Text.cut? '.' text with
    | none => pure (text, 0)
    | some (digits, second) =>
        if second.length = 2 then pure (digits, ← Text.decimal? second) else none
  let seconds ← match ← pairs? digits with
    | [month, day, hour, minute] => momentOf? presentYear month day hour minute second
    | [year, month, day, hour, minute] => momentOf? (fullYear year) month day hour minute second
    | [century, year, month, day, hour, minute] =>
        momentOf? (100 * century + year) month day hour minute second
    | _ => none
  return seconds * billion

/-! ## Giving times -/

/-- The options of giving times. -/
def timeOptions : List OptionKind :=
  [letterOnly 'a' "access", flag 'c' "no-create", valued 'd' "date", letterOnly 'f' "ignored",
    flag 'h' "no-dereference", letterOnly 'm' "modification", valued 'r' "reference",
    optionOf ['t'] "stamp" .always false, optionOf [] "time" .always]

/-- The times of a file, where nothing stands for the present. -/
structure FileTimes where
  look? : Option Int := none
  change? : Option Int := none

/-- The times of a file to which a call refers. -/
def referredTimes (reference : ByteText) : Work FileTimes := do
  match ← entry true reference with
  | .ok (_, .file file) => return { look? := file.lookStamp, change? := file.stamp }
  | .ok _ => return {}
  | .error fault =>
      refuse ("failed to get attributes of ".toList ++ quoted reference ++ ": ".toList ++
        faultText fault)

/-- The times that a call asks for. -/
def requestedTimes (arguments : Arguments) : Work FileTimes := do
  let invalid := fun (text : ByteText) => "invalid date format ".toList ++ quoted text
  if arguments.has "stamp" && (arguments.has "date" || arguments.has "reference") then
    misuse "cannot specify times from more than one source".toList
  let stamps ← (arguments.values "stamp").mapM fun text => do
    match readStamp? text with
    | some moment => return moment
    | none => refuse (invalid text)
  let base := (← (arguments.value? "reference").mapM referredTimes).getD {}
  match arguments.value? "date" with
  | none =>
      let stamp := stamps.getLast?
      return { look? := stamp.or base.look?, change? := stamp.or base.change? }
  | some text =>
      let moved := fun (time? : Option Int) =>
        match readDate? (time?.getD presentTime) text with
        | some moment => return if moment = presentTime then none else some moment
        | none => refuse (invalid text)
      return { look? := ← moved base.look?, change? := ← moved base.change? }

/-- What giving times does with a file that is missing and with a link, and which times it gives. -/
structure TimeGiving where
  mayMake : Bool
  isSilent : Bool
  followsLinks : Bool
  setsLook : Bool
  setsChange : Bool

/-- A file with the times that it is given. -/
def TimeGiving.apply (giving : TimeGiving) (times : FileTimes) (file : File) : File :=
  let file := if giving.setsLook then { file with lookStamp := times.look? } else file
  if giving.setsChange then { file with stamp := times.change? } else file

/-- Give a file times, and make it if it is missing and may be made. -/
def touchOne (giving : TimeGiving) (times : FileTimes) (operand : ByteText) : Work Unit := do
  let mode ← masked 0o666
  match ← entry giving.followsLinks operand with
  | .ok (location, .file _) =>
      let _ ← change fun disk _ => .ok (disk.updateFile location (giving.apply times))
  | .ok _ => return ()
  | .error fault =>
      let isOpen := !operand.isEmpty && operand.toPath.endsOpen
      if giving.isSilent && fault.isMissing then
        return ()
      else if isOpen || !giving.mayMake then
        complainOf ("setting times of ".toList ++ quoted operand) fault
      else
        let made := giving.apply times { mode, content := [] }
        let _ ← changeOr ("cannot touch ".toList ++ quoted operand) fun disk directory =>
          disk.openFile directory operand.toPath made id

/-- Give files a time. -/
def touch : Tool := toTool do
  let arguments ← arguments timeOptions
  let kinds ← (arguments.values "time").mapM
    (chosen [["atime", "access", "use"], ["mtime", "modify"]] "time")
  let times ← requestedTimes arguments
  requireOperands arguments "file operand"
  let setsLook := arguments.has "access" || kinds.contains "atime"
  let setsChange := arguments.has "modification" || kinds.contains "mtime"
  let giving : TimeGiving := {
    mayMake := !(arguments.has "no-create" || arguments.has "no-dereference")
    isSilent := arguments.has "no-create"
    followsLinks := !arguments.has "no-dereference"
    setsLook := setsLook || !setsChange
    setsChange := setsChange || !setsLook }
  for operand in arguments.operands do
    if (Device.ofPath? operand).isNone && operand ≠ ['-'] then
      touchOne giving times operand

/-! ## Cutting to a size -/

/-- The size that a file gets, from the size that it is to have in relation to. -/
def resized (relation : Char) (amount size : Nat) : Nat :=
  match relation with
  | '+' => size + amount
  | '-' => size - amount
  | '<' => min size amount
  | '>' => max size amount
  | '/' => size / amount * amount
  | '%' => (size + amount - 1) / amount * amount
  | _ => amount

/-- A content that is cut to a size or filled up with zeros. -/
def cutTo (size : Nat) (content : Bytes) : Bytes :=
  content.take size ++ List.replicate (size - content.length) 0

/-- The size that no file may exceed. -/
def maxFileSize : Nat := 0x4000000

/-- The relation and the amount of a size. -/
def readSize (text : ByteText) : Work (Char × Nat) := do
  let text := text.dropWhile ByteText.isBlank
  let (relation, text) :=
    match text with
    | c :: rest => if c ∈ ['<', '>', '/', '%'] then (c, rest.dropWhile ByteText.isBlank)
      else ('=', text)
    | [] => ('=', [])
  let (sign?, digits) :=
    match text with
    | '+' :: digits => (some '+', digits)
    | '-' :: digits => (some '-', digits)
    | digits => (none, digits)
  if sign?.isSome && relation ≠ '=' then
    misuse "multiple relative modifiers specified".toList
  let read := if digits.head?.any fun c => c = '+' || ByteText.isBlank c then .error .invalid
    else readAmount sizeUnits digits 0x7fffffffffffffff
  match read with
  | .error fault => refuse ("Invalid number: ".toList ++ quoted text ++ fault.remark)
  | .ok amount =>
      if amount = 0 && (relation = '/' || relation = '%') then
        refuse "division by zero".toList
      else
        return (sign?.getD relation, amount)

/-- Cut a file to a size. -/
def cutFile (relation : Char) (amount : Nat) (base? : Option Nat) (operand : ByteText) :
    Work Unit := do
  let size := match ← entry true operand with
    | .ok (_, .file file) => file.content.length
    | _ => 0
  let goal := resized relation amount (base?.getD size)
  if goal > maxFileSize then
    complain ("failed to truncate ".toList ++ quoted operand ++ " at ".toList ++
      ByteText.ofNat goal ++ " bytes: File too large".toList)
  let goal := if goal > maxFileSize then size else goal
  let mode ← masked 0o666
  let _ ← changeOr ("cannot open ".toList ++ quoted operand ++ " for writing".toList)
    fun disk directory =>
      disk.openFile directory operand.toPath { mode, content := cutTo goal [] } fun file =>
        file.rewritten (cutTo goal file.content)

/-- The number of bytes that are kept together on a disk. -/
def blockSize : Nat := 4096

/-- Cut files to a size. -/
def truncate : Tool := toTool do
  let arguments ← arguments [flag 'c' "no-create", flag 'o' "io-blocks", valued 'r' "reference",
    valued 's' "size"]
  let size ← (arguments.value? "size").mapM readSize
  let reference := arguments.value? "reference"
  if size.isNone && reference.isNone then
    misuse "you must specify either '--size' or '--reference'".toList
  if reference.isSome && size.any (·.1 = '=') then
    misuse "you must specify a relative '--size' with '--reference'".toList
  if arguments.has "io-blocks" && size.isNone then
    misuse "'--io-blocks' was specified but '--size' was not".toList
  requireOperands arguments "file operand"
  let base ← reference.mapM fun reference => do
    match ← entry true reference with
    | .ok (_, .file file) => return file.content.length
    | .ok _ => return 0
    | .error fault =>
        refuse ("cannot stat ".toList ++ quoted reference ++ ": ".toList ++ faultText fault)
  let (relation, amount) := size.getD ('+', 0)
  let amount := if arguments.has "io-blocks" then amount * blockSize else amount
  for operand in arguments.operands do
    if !arguments.has "no-create" || (← status true operand).isOk then
      cutFile relation amount base operand

end Provision.Shell.Tool
