import Stencil.Script.NumberText

/-!
# The calendar

Moments are milliseconds since the beginning of 1970; years have twelve months as in the Gregorian
calendar, before its introduction too. There is one time zone.
-/

namespace Stencil.Script.Calendar

/-! ### Days -/

/-- The number of days from the beginning of 1970 to a day, which may lie outside its month. Months
count from zero. Years begin in March here, so that a leap day is the last of its year. -/
def dayNumber (year month day : Int) : Int :=
  let year := year + Int.fdiv month 12
  let month := Int.fmod month 12
  let (year, month) := if month < 2 then (year - 1, month + 10) else (year, month - 2)
  let era := Int.fdiv year 400
  let yearOfEra := year - era * 400
  let dayOfYear := Int.fdiv (153 * month + 2) 5 + day - 1
  era * 146097 + yearOfEra * 365 + Int.fdiv yearOfEra 4 - Int.fdiv yearOfEra 100 + dayOfYear - 719468

/-- The year, the month and the day of a number of days. -/
def dateOfDay (days : Int) : Int × Int × Int :=
  let days := days + 719468
  let era := Int.fdiv days 146097
  let dayOfEra := days - era * 146097
  let yearOfEra := Int.fdiv
    (dayOfEra - Int.fdiv dayOfEra 1460 + Int.fdiv dayOfEra 36524 - Int.fdiv dayOfEra 146096) 365
  let dayOfYear :=
    dayOfEra - (365 * yearOfEra + Int.fdiv yearOfEra 4 - Int.fdiv yearOfEra 100)
  let month := Int.fdiv (5 * dayOfYear + 2) 153
  let day := dayOfYear - Int.fdiv (153 * month + 2) 5 + 1
  let year := yearOfEra + era * 400
  if month < 10 then (year, month + 2, day) else (year + 1, month - 10, day)

/-! ### Moments -/

/-- What a calendar and a clock show. -/
structure Fields where
  year : Int
  /-- Counts from zero. -/
  month : Int
  day : Int
  hour : Int
  minute : Int
  second : Int
  milli : Int

/-- The milliseconds of a day. -/
def msPerDay : Int := 86400000

/-- The moment at which calendar and clock show something. -/
def Fields.moment (f : Fields) : Int :=
  dayNumber f.year f.month f.day * msPerDay +
    ((f.hour * 60 + f.minute) * 60 + f.second) * 1000 + f.milli

/-- What calendar and clock show at a moment. -/
def Fields.ofMoment (t : Int) : Fields :=
  let (year, month, day) := dateOfDay (Int.fdiv t msPerDay)
  let rest := Int.fmod t msPerDay
  ⟨year, month, day, rest / 3600000, rest / 60000 % 60, rest / 1000 % 60, rest % 1000⟩

/-- The day of the week of a moment; Sunday is the first. -/
def weekday (t : Int) : Int := Int.fmod (Int.fdiv t msPerDay + 4) 7

/-- The fields in order, the greatest first. -/
def Fields.toList (f : Fields) : List Int :=
  [f.year, f.month, f.day, f.hour, f.minute, f.second, f.milli]

/-- The moment of some fields, the greatest first; others are the least possible. -/
def momentOf (fields : List Int) : Int :=
  let field (i : Nat) (least : Int) : Int := fields.getD i least
  Fields.moment ⟨field 0 1970, field 1 0, field 2 1, field 3 0, field 4 0, field 5 0, field 6 0⟩

/-! ### Writing -/

/-- A natural number with at least so many digits. -/
def padded (width : Nat) (n : Int) : String :=
  let digits := toString n.natAbs
  String.ofList (List.replicate (width - digits.length) '0') ++ digits

def monthNames : List String :=
  ["Jan", "Feb", "Mar", "Apr", "May", "Jun", "Jul", "Aug", "Sep", "Oct", "Nov", "Dec"]

def dayNames : List String := ["Sun", "Mon", "Tue", "Wed", "Thu", "Fri", "Sat"]

def monthName (f : Fields) : String := monthNames.getD f.month.toNat ""

def dayName (t : Int) : String := dayNames.getD (weekday t).toNat ""

/-- A year with a sign if it is before the first. -/
def yearText (year : Int) : String := (if year < 0 then "-" else "") ++ padded 4 year

/-- The standard form of a moment, like `1970-01-01T00:00:00.000Z`. -/
def writeStandard (t : Int) : String :=
  let f := Fields.ofMoment t
  let year :=
    if 0 ≤ f.year && f.year ≤ 9999 then padded 4 f.year
    else (if f.year < 0 then "-" else "+") ++ padded 6 f.year
  year ++ "-" ++ padded 2 (f.month + 1) ++ "-" ++ padded 2 f.day ++ "T" ++ padded 2 f.hour ++ ":" ++
    padded 2 f.minute ++ ":" ++ padded 2 f.second ++ "." ++ padded 3 f.milli ++ "Z"

/-- The date of a moment, like `Thu Jan 01 1970`. -/
def writeDate (t : Int) : String :=
  let f := Fields.ofMoment t
  dayName t ++ " " ++ monthName f ++ " " ++ padded 2 f.day ++ " " ++ yearText f.year

/-- The time of day of a moment, like `00:00:00`. -/
def writeClock (t : Int) : String :=
  let f := Fields.ofMoment t
  padded 2 f.hour ++ ":" ++ padded 2 f.minute ++ ":" ++ padded 2 f.second

/-- The time of day with the time zone. -/
def writeTime (t : Int) : String := writeClock t ++ " GMT+0000"

/-- Date and time, like `Thu Jan 01 1970 00:00:00 GMT+0000`. -/
def write (t : Int) : String := writeDate t ++ " " ++ writeTime t

/-- Date and time in the order of letters, like `Thu, 01 Jan 1970 00:00:00 GMT`. -/
def writeLetter (t : Int) : String :=
  let f := Fields.ofMoment t
  dayName t ++ ", " ++ padded 2 f.day ++ " " ++ monthName f ++ " " ++ yearText f.year ++ " " ++
    writeClock t ++ " GMT"

/-! ### Reading -/

/-- A number of exactly so many digits at the front of a text. -/
def takeDigits : (count : Nat) → (value : Int) → List Char → Option (Int × List Char)
  | 0, value, rest                => some (value, rest)
  | count + 1, value, c :: rest =>
    if c.isDigit then takeDigits count (10 * value + (c.toNat - '0'.toNat : Nat)) rest else none
  | _ + 1, _, []                  => none

/-- A number of exactly so many digits after a certain character. -/
def takeAfter (c : Char) (count : Nat) : List Char → Option (Int × List Char)
  | d :: rest => if c = d then takeDigits count 0 rest else none
  | []        => none

/-- A year of four digits, or of six with a sign. -/
def takeYear : List Char → Option (Int × List Char)
  | '+' :: rest => takeDigits 6 0 rest
  | '-' :: rest =>
    match takeDigits 6 0 rest with
    | some (0, _)       => none
    | some (year, rest) => some (-year, rest)
    | none              => none
  | rest        => takeDigits 4 0 rest

/-- The milliseconds that the digits of a fraction of a second write. -/
def milliOf (digits : List Char) : Int :=
  ((digits.take 3 ++ ['0', '0', '0']).take 3).foldl (fun n c => 10 * n + (c.toNat - '0'.toNat : Nat)) 0

/-- The offset of a time zone in minutes: nothing, `Z` or hours and minutes with a sign. -/
def readZone : List Char → Option Int
  | []          => some 0
  | ['Z']       => some 0
  | sign :: rest =>
    if sign = '+' || sign = '-' then
      match takeDigits 2 0 rest with
      | none               => none
      | some (hours, rest) =>
        let minutes := match rest with
          | ':' :: rest => takeDigits 2 0 rest
          | rest        => takeDigits 2 0 rest
        match minutes with
        | some (minutes, []) =>
          if hours < 24 && minutes < 60 then
            some (if sign = '+' then hours * 60 + minutes else -(hours * 60 + minutes))
          else none
        | _ => none
    else none

/-- The moment of a date and a time with its zone. -/
def momentAt (year month day : Int) (rest : List Char) : Option Int := do
  let (hour, rest) ← takeDigits 2 0 rest
  let (minute, rest) ← takeAfter ':' 2 rest
  let (second, rest) := (takeAfter ':' 2 rest).getD (0, rest)
  let (milli, rest) := match rest with
    | '.' :: digits =>
      let own := digits.takeWhile Char.isDigit
      if own.isEmpty then (0, rest) else (milliOf own, digits.dropWhile Char.isDigit)
    | rest => (0, rest)
  let zone ← readZone rest
  if hour > 24 || minute > 59 || second > 59 then none
  else if hour = 24 && (minute ≠ 0 || second ≠ 0 || milli ≠ 0) then none
  else some (Fields.moment ⟨year, month, day, hour, minute - zone, second, milli⟩)

/-- Reads the standard form, of which the end may be left out. -/
def readStandard (text : List Char) : Option Int := do
  let (year, rest) ← takeYear text
  let (month, rest) := (takeAfter '-' 2 rest).getD (1, rest)
  let (day, rest) := (takeAfter '-' 2 rest).getD (1, rest)
  if month < 1 || 12 < month || day < 1 || 31 < day then none
  else
    match rest with
    | []       => some (dayNumber year (month - 1) day * msPerDay)
    | c :: rest => if c = 'T' || c = 't' || c = ' ' then momentAt year (month - 1) day rest else none

/-- Reads a date and a time as words: a weekday, which does not count, then day, month and year in
one of two orders, a time and a zone. -/
def readWords (text : List Char) : Option Int :=
  let words := ((String.ofList text).splitOn " ").filter fun w => w ≠ ""
  let month (w : String) : Option Int := (monthNames.idxOf? w).map Int.ofNat
  let number (w : String) : Option Int := w.toInt?
  let zone (words : List String) : Option (List Char) :=
    match words with
    | []  => some []
    | w :: _ =>
      if w.startsWith "GMT" then some (w.toList.drop 3)
      else if w = "Z" || w = "UTC" then some []
      else none
  let finish (year month day : Option Int) (rest : List String) : Option Int := do
    match rest with
    | []        => return Fields.moment ⟨← year, ← month, ← day, 0, 0, 0, 0⟩
    | time :: rest => momentAt (← year) (← month) (← day) (time.toList ++ (← zone rest))
  let trimmed (w : String) : String := String.ofList (w.toList.filter (· ≠ ','))
  let words := match words with
    | w :: rest => if dayNames.contains (trimmed w) then rest else words
    | []        => []
  match words with
  | a :: b :: year :: rest =>
    match month a with
    | some m => finish (number year) (some m) (number (trimmed b)) rest
    | none   => finish (number year) (month b) (number a) rest
  | _ => none

/-- The moment that a text writes. -/
def read? (text : List Char) : Option Int :=
  match readStandard text with
  | some t => some t
  | none   => readWords text

end Stencil.Script.Calendar
