import PredictionMarket.Calendar.Instant
import PredictionMarket.Decimal.Digits
import PredictionMarket.Text.Blank

/-!
# Reading instants

A layout lists the fields of a written instant from left to right. A text has a layout
when its fields take up the whole text, one after the other. The twelve layouts read
RFC 3339 first, then the looser spellings with an offset, then those without one,
which are in UTC, and last a bare date.
-/

namespace PredictionMarket.Calendar

open Text (isBlank trimStart)

/-- A part of a date or of a time of day that is written as a number. -/
inductive Part where
  | year
  | month
  | day
  | hour
  | minute
  | second
deriving DecidableEq

/-- The most digits of an unsigned part. -/
def Part.width : Part → Nat
  | .year => 4
  | _ => 2

/-- One field of a layout. -/
inductive Field where
  /-- A number of full width. -/
  | exact (part : Part)
  /-- A number of at most full width after any blanks; a year may have a sign, and then
  any number of digits. -/
  | loose (part : Part)
  /-- A given character. -/
  | mark (c : Char)
  /-- One of the characters that may divide the date from the time of day. -/
  | divider
  /-- Any blanks, or none. -/
  | blanks
  /-- Nothing, or a point and the digits of a fraction of a second. -/
  | fraction
  /-- An offset from UTC with a colon between hours and minutes. -/
  | colonOffset
  /-- An offset from UTC with or without a colon, or of hours alone. -/
  | looseOffset
deriving DecidableEq

/-- The fields of one spelling of an instant. -/
abbrev Layout := List Field

/-- What the fields of a text say. -/
structure Reading where
  year : Int
  month : Nat
  day : Nat
  hour : Nat
  minute : Nat
  second : Nat
  nanos : Nat
  /-- Seconds by which the written time is ahead of UTC. -/
  offset : Int
deriving DecidableEq

namespace Reading

/-- What is said before any field is read. -/
def blank : Reading where
  year := 0
  month := 0
  day := 0
  hour := 0
  minute := 0
  second := 0
  nanos := 0
  offset := 0

/-- Sets one part. -/
def set (reading : Reading) (part : Part) (value : Int) : Reading :=
  match part with
  | .year => { reading with year := value }
  | .month => { reading with month := value.toNat }
  | .day => { reading with day := value.toNat }
  | .hour => { reading with hour := value.toNat }
  | .minute => { reading with minute := value.toNat }
  | .second => { reading with second := value.toNat }

/-- The instant that a reading denotes, if its date and time of day exist and the
instant lies in the calendar. Second 60 is a leap second of any minute. -/
def instant? (reading : Reading) : Option Instant :=
  let date : Date := ⟨reading.year, reading.month, reading.day⟩
  if date.inCalendar ∧ reading.hour ≤ 23 ∧ reading.minute ≤ 59 ∧ reading.second ≤ 60 then
    let second := if reading.second = 60 then 59 else reading.second
    let leap := if reading.second = 60 then nanosPerSecond else 0
    let timeOfDay : Int := reading.hour * 3600 + reading.minute * 60 + second
    Instant.inCalendar?
      ⟨date.dayNumber * secondsPerDay + timeOfDay - reading.offset, reading.nanos + leap⟩
  else
    none

end Reading

/-- Splits at most `most` decimal digits off a text; there must be one. -/
def digits? (most : Nat) (text : List Char) : Option (Nat × List Char) :=
  let shown := (text.take most).takeWhile Char.isDigit
  if shown.isEmpty then none
  else some (Decimal.valueOf shown, text.drop shown.length)

/-- Splits exactly `count` decimal digits off a text. -/
def exactDigits? (count : Nat) (text : List Char) : Option (Nat × List Char) :=
  let shown := (text.take count).takeWhile Char.isDigit
  if shown.length = count then some (Decimal.valueOf shown, text.drop count) else none

/-- Splits a number of a part off a text. -/
def looseNumber? (part : Part) (text : List Char) : Option (Int × List Char) :=
  let text := trimStart text
  match part, text with
  | .year, '-' :: rest =>
    (digits? rest.length rest).map fun (value, rest) => (-(value : Int), rest)
  | .year, '+' :: rest =>
    (digits? rest.length rest).map fun (value, rest) => ((value : Int), rest)
  | _, _ => (digits? part.width text).map fun (value, rest) => ((value : Int), rest)

/-- Splits a fraction of a second off a text, in nanoseconds; digits after the ninth
count for nothing. -/
def fraction? : List Char → Option (Nat × List Char)
  | '.' :: rest =>
    let shown := rest.takeWhile Char.isDigit
    if shown.isEmpty then none
    else
      let kept := shown.take 9
      some (Decimal.valueOf kept * Nat.pow 10 (9 - kept.length), rest.drop shown.length)
  | rest => some (0, rest)

/-- Splits the sign of an offset off a text: whether time is behind UTC. -/
def offsetSign? : List Char → Option (Bool × List Char)
  | '+' :: rest => some (false, rest)
  | '-' :: rest => some (true, rest)
  | '\u2212' :: rest => some (true, rest)
  | _ => none

/-- The seconds of an offset of less than a day with fewer than sixty minutes. -/
def offsetSeconds? (behind : Bool) (hours minutes : Nat) : Option Int :=
  if hours ≤ 23 ∧ minutes ≤ 59 then
    let seconds : Int := hours * 3600 + minutes * 60
    some (if behind then -seconds else seconds)
  else
    none

/-- Splits an offset with a colon off a text. -/
def colonOffset? : List Char → Option (Int × List Char)
  | 'Z' :: rest => some (0, rest)
  | 'z' :: rest => some (0, rest)
  | text => do
    let (behind, rest) ← offsetSign? text
    let (hours, rest) ← exactDigits? 2 rest
    match rest with
    | ':' :: rest =>
      let (minutes, rest) ← exactDigits? 2 rest
      let seconds ← offsetSeconds? behind hours minutes
      return (seconds, rest)
    | _ => none

/-- Splits an offset off a text: after any blanks `Z`, or a sign, two digits of hours,
any colons and blanks, and two digits of minutes, which the end of the text may
replace. -/
def looseOffset? (text : List Char) : Option (Int × List Char) :=
  match trimStart text with
  | 'Z' :: rest => some (0, rest)
  | 'z' :: rest => some (0, rest)
  | text => do
    let (behind, rest) ← offsetSign? text
    let (hours, rest) ← exactDigits? 2 rest
    let rest := rest.dropWhile fun c => c == ':' || isBlank c
    if rest.isEmpty then
      let seconds ← offsetSeconds? behind hours 0
      return (seconds, [])
    else
      let (minutes, rest) ← exactDigits? 2 rest
      let seconds ← offsetSeconds? behind hours minutes
      return (seconds, rest)

/-- Splits one field off a text and adds what it says. -/
def Field.read? (field : Field) (reading : Reading) (text : List Char) :
    Option (Reading × List Char) :=
  match field with
  | exact part =>
    (exactDigits? part.width text).map fun (value, rest) => (reading.set part value, rest)
  | loose part =>
    (looseNumber? part text).map fun (value, rest) => (reading.set part value, rest)
  | mark c =>
    match text with
    | head :: rest => if head = c then some (reading, rest) else none
    | [] => none
  | divider =>
    match text with
    | head :: rest => if head = 'T' ∨ head = 't' ∨ head = ' ' then some (reading, rest) else none
    | [] => none
  | blanks => some (reading, trimStart text)
  | fraction => (fraction? text).map fun (nanos, rest) => ({ reading with nanos }, rest)
  | colonOffset => (colonOffset? text).map fun (offset, rest) => ({ reading with offset }, rest)
  | looseOffset => (looseOffset? text).map fun (offset, rest) => ({ reading with offset }, rest)

namespace Layout

/-- Reads the fields of a layout one after the other, to the end of the text. -/
def readFrom? (reading : Reading) : Layout → List Char → Option Reading
  | [], [] => some reading
  | [], _ :: _ => none
  | field :: layout, text =>
    match field.read? reading text with
    | some (reading, rest) => readFrom? reading layout rest
    | none => none

/-- The instant that a text denotes in a layout. -/
def read? (layout : Layout) (text : List Char) : Option Instant :=
  (readFrom? .blank layout text).bind Reading.instant?

/-- A date with dashes. -/
def date (number : Part → Field) : Layout :=
  [number .year, .mark '-', number .month, .mark '-', number .day]

/-- Hours and minutes. -/
def hourMinute (number : Part → Field) : Layout :=
  [number .hour, .mark ':', number .minute]

/-- Hours, minutes and seconds. -/
def hourMinuteSecond (number : Part → Field) : Layout :=
  hourMinute number ++ [.mark ':', number .second]

/-- The date-time of RFC 3339. -/
def rfc3339 : Layout :=
  date .exact ++ [.divider] ++ hourMinuteSecond .exact ++ [.fraction, .colonOffset]

/-- The spellings with an offset that RFC 3339 does not have. -/
def withOffset : List Layout :=
  [date .loose ++ [.mark 'T'] ++ hourMinuteSecond .loose ++ [.fraction, .looseOffset],
    date .loose ++ [.mark 'T'] ++ hourMinute .loose ++ [.looseOffset],
    date .loose ++ [.blanks] ++ hourMinuteSecond .loose ++ [.fraction, .looseOffset],
    date .loose ++ [.blanks] ++ hourMinute .loose ++ [.looseOffset]]

/-- The spellings without an offset. -/
def withoutOffset : List Layout :=
  [date .loose ++ [.mark 'T'] ++ hourMinuteSecond .loose ++ [.fraction],
    date .loose ++ [.mark 'T'] ++ hourMinuteSecond .loose,
    date .loose ++ [.mark 'T'] ++ hourMinute .loose,
    date .loose ++ [.blanks] ++ hourMinuteSecond .loose ++ [.fraction],
    date .loose ++ [.blanks] ++ hourMinuteSecond .loose,
    date .loose ++ [.blanks] ++ hourMinute .loose]

/-- A bare date, which stands for its first second. -/
def dateOnly : Layout := date .loose

/-- Every layout of an instant, in the order in which they are tried. -/
def all : List Layout := rfc3339 :: (withOffset ++ withoutOffset ++ [dateOnly])

end Layout

/-- The instant that a text denotes in the first layout that it has. -/
def Instant.ofText? (text : List Char) : Option Instant :=
  Layout.all.findSome? fun layout => layout.read? text

end PredictionMarket.Calendar
