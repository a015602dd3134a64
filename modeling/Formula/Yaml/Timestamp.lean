import Formula.Yaml.Place

/-! Dates and times in YAML. A timestamp is a date, or a date with a time of day and perhaps a time
zone. As values they are known by their texts alone. -/
namespace Formula.Yaml

/-- A time zone, by its distance from universal time in minutes. -/
structure Zone where
  minutes : Int

structure TimeOfDay where
  hour : Nat
  minute : Nat
  second : Nat
  microsecond : Nat
  zone : Option Zone

structure Timestamp where
  year : Nat
  month : Nat
  day : Nat
  time : Option TimeOfDay

namespace Timestamp

/-! ### Reading -/

/-- The number of between `least` and `greatest` digits, and what follows them. -/
def takeDigits? (least greatest : Nat) (text : List Char) : Option (Nat × List Char) :=
  let digits := (text.take greatest).takeWhile Char.isDigit
  if digits.length < least then none
  else some (Numeral.natOfDigits digits, text.drop digits.length)

def after? (c : Char) : List Char → Option (List Char)
  | d :: rest => if c = d then some rest else none
  | [] => none

/-- The microseconds of a fraction of a second, of which digits beyond the sixth do not count. -/
def microseconds (digits : List Char) : Nat :=
  Numeral.natOfDigits ((digits ++ List.replicate 6 '0').take 6)

/-- A fraction of a second, which may be missing. -/
def takeFraction : List Char → Nat × List Char
  | '.' :: rest => (microseconds (rest.takeWhile Char.isDigit), rest.dropWhile Char.isDigit)
  | rest => (0, rest)

/-- The distance of a time zone, after its sign. -/
def offset? (sign : Int) (text : List Char) : Option Zone := do
  let (hours, rest) ← takeDigits? 1 2 text
  match rest with
  | [] => some ⟨sign * (hours * 60)⟩
  | _ => do
    let (minutes, rest) ← (after? ':' rest).bind (takeDigits? 2 2)
    if rest.isEmpty then some ⟨sign * (hours * 60 + minutes)⟩ else none

def zone? (text : List Char) : Option (Option Zone) :=
  match text, text.dropWhile isWhite with
  | [], _ => some none
  | _, ['Z'] => some (some ⟨0⟩)
  | _, '+' :: rest => (offset? 1 rest).map some
  | _, '-' :: rest => (offset? (-1) rest).map some
  | _, _ => none

def timeOfDay? (text : List Char) : Option TimeOfDay := do
  let (hour, rest) ← takeDigits? 1 2 text
  let (minute, rest) ← (after? ':' rest).bind (takeDigits? 2 2)
  let (second, rest) ← (after? ':' rest).bind (takeDigits? 2 2)
  let (microsecond, rest) := takeFraction rest
  let zone ← zone? rest
  some ⟨hour, minute, second, microsecond, zone⟩

/-- The text after what sets a date and a time apart. -/
def afterDate? : List Char → Option (List Char)
  | c :: rest =>
    if c = 'T' ∨ c = 't' then some rest
    else if isWhite c then some (rest.dropWhile isWhite)
    else none
  | [] => none

/-- Reads a timestamp; month and day may have one digit. -/
def read? (text : List Char) : Option Timestamp := do
  let (year, rest) ← takeDigits? 4 4 text
  let (month, rest) ← (after? '-' rest).bind (takeDigits? 1 2)
  let (day, rest) ← (after? '-' rest).bind (takeDigits? 1 2)
  if rest.isEmpty then some ⟨year, month, day, none⟩
  else
    let time ← (afterDate? rest).bind timeOfDay?
    some ⟨year, month, day, some time⟩

/-- A plain scalar is a timestamp. A date alone has two digits for the month and the day. -/
def isPlain (text : List Char) : Bool :=
  match read? text with
  | some stamp => stamp.time.isSome || text.length == 10
  | none => false

/-! ### Validity -/

def isLeap (year : Nat) : Bool :=
  year % 4 == 0 && (year % 100 != 0 || year % 400 == 0)

def daysIn (year month : Nat) : Nat :=
  if month = 2 then if isLeap year then 29 else 28
  else if month = 4 ∨ month = 6 ∨ month = 9 ∨ month = 11 then 30
  else 31

def dateFault? (stamp : Timestamp) : Option String :=
  if stamp.year = 0 then some "year 0 is out of range"
  else if stamp.month = 0 ∨ 12 < stamp.month then some "month must be in 1..12"
  else if stamp.day = 0 ∨ daysIn stamp.year stamp.month < stamp.day then
    some "day is out of range for month"
  else none

def timeFault? (time : TimeOfDay) : Option String :=
  if 23 < time.hour then some "hour must be in 0..23"
  else if 59 < time.minute then some "minute must be in 0..59"
  else if 59 < time.second then some "second must be in 0..59"
  else none

/-! ### Texts -/

def padded (width n : Nat) : String :=
  let digits := Nat.toDigits 10 n
  String.ofList (List.replicate (width - digits.length) '0' ++ digits)

def dateText (stamp : Timestamp) : String :=
  padded 4 stamp.year ++ "-" ++ padded 2 stamp.month ++ "-" ++ padded 2 stamp.day

def zoneText (zone : Zone) : String :=
  (if zone.minutes < 0 then "-" else "+") ++ padded 2 (zone.minutes.natAbs / 60) ++ ":" ++
    padded 2 (zone.minutes.natAbs % 60)

def timeText (time : TimeOfDay) : String :=
  padded 2 time.hour ++ ":" ++ padded 2 time.minute ++ ":" ++ padded 2 time.second ++
    (if time.microsecond = 0 then "" else "." ++ padded 6 time.microsecond) ++
    ((time.zone.map zoneText).getD "")

/-- The quoted text of a distance from universal time, as days and seconds. -/
def quotedDistance (zone : Zone) : String :=
  let seconds := zone.minutes * 60
  let days := seconds.fdiv 86400
  let remaining := seconds.fmod 86400
  let parts := (if days = 0 then [] else ["days=" ++ toString days]) ++
    (if remaining = 0 then [] else ["seconds=" ++ toString remaining])
  "datetime.timedelta(" ++ ", ".intercalate parts ++ ")"

def quotedZone (zone : Zone) : String :=
  if zone.minutes = 0 then "datetime.timezone.utc"
  else "datetime.timezone(" ++ quotedDistance zone ++ ")"

def quotedDate (stamp : Timestamp) : String :=
  toString stamp.year ++ ", " ++ toString stamp.month ++ ", " ++ toString stamp.day

/-- The quoted text of a time of day, in which zeros at the end are left out. -/
def quotedTime (time : TimeOfDay) : String :=
  let seconds :=
    if time.microsecond ≠ 0 then ", " ++ toString time.second ++ ", " ++ toString time.microsecond
    else if time.second ≠ 0 then ", " ++ toString time.second
    else ""
  let zone := match time.zone with
    | some zone => ", tzinfo=" ++ quotedZone zone
    | none => ""
  toString time.hour ++ ", " ++ toString time.minute ++ seconds ++ zone

/-- The fault of a time zone a day or more away. -/
def zoneFault? (zone : Zone) : Option String :=
  if zone.minutes.natAbs < 24 * 60 then none
  else some ("offset must be a timedelta strictly between -timedelta(hours=24) and " ++
    "timedelta(hours=24), not " ++ quotedDistance zone ++ ".")

def value (stamp : Timestamp) : Except Unread Value :=
  match stamp.time with
  | none =>
    match stamp.dateFault? with
    | some message => noValue message
    | none =>
      .ok (.shown "datetime.date"
        (some (stamp.dateText, "datetime.date(" ++ stamp.quotedDate ++ ")")) true)
  | some time =>
    match time.zone.bind zoneFault? <|> stamp.dateFault? <|> timeFault? time with
    | some message => noValue message
    | none =>
      .ok (.shown "datetime.datetime"
        (some (stamp.dateText ++ " " ++ timeText time,
          "datetime.datetime(" ++ stamp.quotedDate ++ ", " ++ quotedTime time ++ ")")) true)

end Timestamp

end Formula.Yaml
