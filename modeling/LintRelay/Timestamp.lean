import LintRelay.Number.Decimal

/-!
# Timestamps

Days of the calendar, with or without a time of day.  `Timestamp.ofText?` reads one; the numbers in
it are checked afterwards, by `Timestamp.flaw?`.
-/

namespace LintRelay

/-- A time of day. -/
structure Clock where
  hour : Nat
  minute : Nat
  second : Nat
  micro : Nat
  /-- How many minutes the clock is ahead of universal time, if that is known. -/
  offset : Option Int
  deriving DecidableEq, Repr

/-- A day, with or without a time of day. -/
structure Timestamp where
  year : Nat
  month : Nat
  day : Nat
  clock : Option Clock
  deriving DecidableEq, Repr

namespace Timestamp

/-- A number with at least `width` digits. -/
def padded (width n : Nat) : String :=
  let ds := Nat.toDigits 10 n
  String.ofList (List.replicate (width - ds.length) '0' ++ ds)

/-- The sign and the hours and minutes of an offset. -/
def offsetText (offset : Int) : String :=
  let n := offset.natAbs
  (if offset < 0 then "-" else "+") ++ padded 2 (n / 60) ++ ":" ++ padded 2 (n % 60)

/-- The text of a timestamp that stands alone. -/
def shown (t : Timestamp) : String :=
  let date := padded 4 t.year ++ "-" ++ padded 2 t.month ++ "-" ++ padded 2 t.day
  match t.clock with
  | none => date
  | some c =>
    date ++ " " ++ padded 2 c.hour ++ ":" ++ padded 2 c.minute ++ ":" ++ padded 2 c.second ++
      (if c.micro == 0 then "" else "." ++ padded 6 c.micro) ++
      (match c.offset with | some o => offsetText o | none => "")

/-- The text of an offset inside the text of a value. -/
def quotedOffset (offset : Int) : String :=
  if offset == 0 then "datetime.timezone.utc"
  else if offset < 0 then
    s!"datetime.timezone(datetime.timedelta(days=-1, seconds={86400 + 60 * offset}))"
  else s!"datetime.timezone(datetime.timedelta(seconds={60 * offset}))"

/-- The text of a timestamp inside the text of a value. -/
def quoted (t : Timestamp) : String :=
  match t.clock with
  | none => s!"datetime.date({t.year}, {t.month}, {t.day})"
  | some c =>
    let numbers := [t.year, t.month, t.day, c.hour, c.minute] ++
      (if c.micro != 0 then [c.second, c.micro] else if c.second != 0 then [c.second] else [])
    let parts := numbers.map toString ++
      (match c.offset with | some o => ["tzinfo=" ++ quotedOffset o] | none => [])
    "datetime.datetime(" ++ ", ".intercalate parts ++ ")"

/-- Whether a year has a leap day. -/
def isLeap (year : Nat) : Bool :=
  year % 4 == 0 && (year % 100 != 0 || year % 400 == 0)

/-- The number of days of a month. -/
def daysIn (year month : Nat) : Nat :=
  if month == 2 then (if isLeap year then 29 else 28)
  else if month == 4 || month == 6 || month == 9 || month == 11 then 30
  else 31

/-- What is wrong with the numbers of a timestamp, the first flaw only. -/
def flaw? (t : Timestamp) : Option String :=
  let clockFlaw (c : Clock) : Option String :=
    if 23 < c.hour then some "hour must be in 0..23"
    else if 59 < c.minute then some "minute must be in 0..59"
    else if 59 < c.second then some "second must be in 0..59"
    else none
  let offsetFlaw (c : Clock) : Option String :=
    match c.offset with
    | some o =>
      if 1440 ≤ o.natAbs then
        some ("offset must be a timedelta strictly between -timedelta(hours=24) and " ++
          "timedelta(hours=24), not " ++
          (if o < 0 then
            let days := (-o + 1439) / 1440
            let seconds := 60 * (o + 1440 * days)
            s!"datetime.timedelta(days=-{days}" ++
              (if seconds == 0 then ")." else s!", seconds={seconds}).")
          else
            s!"datetime.timedelta(days={o / 1440}" ++
              (if o % 1440 == 0 then ")." else s!", seconds={60 * (o % 1440)}).")))
      else none
    | none => none
  match t.clock.bind offsetFlaw with
  | some f => some f
  | none =>
    if t.year == 0 then some "year 0 is out of range"
    else if t.month == 0 || 12 < t.month then some "month must be in 1..12"
    else if t.day == 0 || daysIn t.year t.month < t.day then some "day is out of range for month"
    else t.clock.bind clockFlaw

/-- The number of days from the first day of the year zero to a day. -/
def dayNumber (t : Timestamp) : Nat :=
  let y := t.year - 1
  let before := 365 * y + y / 4 - y / 100 + y / 400
  ((List.range (t.month - 1)).foldl (fun n m => n + daysIn t.year (m + 1)) before) + t.day

/-- The microseconds of universal time that have passed, given how far the clock is ahead. -/
def moment (t : Timestamp) (c : Clock) (offset : Int) : Int :=
  let minutes := ((t.dayNumber * 24 + c.hour) * 60 + c.minute : Nat) - offset
  (minutes * 60 + c.second) * 1000000 + c.micro

/-- Whether two timestamps say the same.  Two clocks whose offsets are known are compared in
universal time. -/
def sameMoment (t u : Timestamp) : Bool :=
  match t.clock, u.clock with
  | some c, some d => match c.offset, d.offset with
    | some o, some p => t.moment c o == u.moment d p
    | _, _ => t == u
  | _, _ => t == u

/-- One or two digits in front of a text. -/
def oneOrTwoDigits? (cs : List Char) : Option (Nat × List Char) :=
  match cs.takeWhile Decimal.isAsciiDigit with
  | [a] => some (Decimal.natOfDigits 0 [a], cs.drop 1)
  | [a, b] => some (Decimal.natOfDigits 0 [a, b], cs.drop 2)
  | _ => none

/-- Exactly `n` digits in front of a text, behind the character `mark`. -/
def digitsBehind? (mark : Char) (n : Nat) (cs : List Char) : Option (Nat × List Char) :=
  match cs with
  | c :: rest =>
    let ds := rest.takeWhile Decimal.isAsciiDigit
    if c == mark && n ≤ ds.length then
      some (Decimal.natOfDigits 0 (rest.take n), rest.drop n)
    else none
  | [] => none

/-- The offset at the end of a timestamp. -/
def offset? (cs : List Char) : Option (Option Int) :=
  match cs.dropWhile fun c => c == ' ' || c == '\t' with
  | [] => if cs.isEmpty then some none else none
  | ['Z'] => some (some 0)
  | sign :: rest =>
    if sign == '+' || sign == '-' then do
      let (hours, rest) ← oneOrTwoDigits? rest
      let minutes : Nat ← match rest with
        | [] => some 0
        | rest => match digitsBehind? ':' 2 rest with
          | some (m, []) => some m
          | _ => none
      let n : Int := (hours * 60 + minutes : Nat)
      some (some (if sign == '-' then -n else n))
    else none

/-- The time of day behind a date. -/
def clock? (cs : List Char) : Option Clock := do
  let (hour, cs) ← oneOrTwoDigits? cs
  let (minute, cs) ← digitsBehind? ':' 2 cs
  let (second, cs) ← digitsBehind? ':' 2 cs
  let (micro, cs) := match cs with
    | '.' :: rest =>
      let ds := rest.takeWhile Decimal.isAsciiDigit
      (Decimal.natOfDigits 0 ((ds ++ List.replicate 6 '0').take 6), rest.drop ds.length)
    | cs => (0, cs)
  let offset ← offset? cs
  some { hour, minute, second, micro, offset }

/-- The text without a line break at its end. -/
def withoutBreak (cs : List Char) : List Char :=
  if cs.getLast? == some '\n' then cs.dropLast else cs

/-- Reads a timestamp, which may end in a line break.  Month and day have one digit or two. -/
def ofLoose? (cs : List Char) : Option Timestamp := do
  let cs := withoutBreak cs
  let year := cs.takeWhile Decimal.isAsciiDigit
  if year.length != 4 then none
  let (month, rest) ← match cs.drop 4 with
    | '-' :: r => oneOrTwoDigits? r
    | _ => none
  let (day, rest) ← match rest with
    | '-' :: r => oneOrTwoDigits? r
    | _ => none
  let date : Timestamp := { year := Decimal.natOfDigits 0 year, month, day, clock := none }
  match rest with
  | [] => some date
  | c :: r =>
    if c == 'T' || c == 't' then (clock? r).map fun k => { date with clock := some k }
    else if c == ' ' || c == '\t' then
      let r := r.dropWhile fun c => c == ' ' || c == '\t'
      (clock? r).map fun k => { date with clock := some k }
    else none

/-- Reads a timestamp.  A date without a time of day has two digits for month and day. -/
def ofText? (cs : List Char) : Option Timestamp :=
  (ofLoose? cs).filter fun t => t.clock.isSome || (withoutBreak cs).length == 10

end Timestamp

end LintRelay
