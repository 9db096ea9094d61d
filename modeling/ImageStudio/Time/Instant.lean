import ImageStudio.Text.Blank

/-!
# Time · Instant: points in UTC time and their RFC 3339 text

An `Instant` is a day number (days since 1970-01-01), a second of that day and a nanosecond
within the second; a nanosecond count of a billion or more marks a leap second, so that
`23:59:60` survives a round trip.

**Writing** gives `YYYY-MM-DDTHH:MM:SS`, then a fraction only when the nanoseconds are not
zero, with 3, 6 or 9 digits (the fewest of those that are exact), then `Z`. A year outside
`0..9999` carries its sign and at least four digits.

**Reading** is lenient RFC 3339: the date and time may be separated by `T`, `t` or a space;
blanks (the Unicode class) may precede each number, each separator and the offset, and
follow the whole; a signed year may have any number of digits; the fraction may have any
number of digits (past nine they are ignored); the offset is `Z`, `z`, `UTC` in any case,
or a sign and `HH:MM` (the colon may be missing or replaced by blanks). A refused text gets
one of the causes of `TimeError`.
-/

namespace ImageStudio

/-- A point in UTC time. -/
structure Instant where
  /-- Days since 1970-01-01. -/
  days : Int
  /-- Seconds since midnight, below 86400. -/
  seconds : Nat
  /-- Nanoseconds; a billion or more during a leap second. -/
  nanos : Nat
  deriving DecidableEq, Repr, Inhabited

/-- Why a text is not a date and time. -/
inductive TimeError where
  | outOfRange
  | impossible
  | notEnough
  | invalid
  | tooShort
  | tooLong
  deriving DecidableEq, Repr

/-- The message of a time error. -/
def TimeError.message : TimeError → String
  | .outOfRange => "input is out of range"
  | .impossible => "no possible date and time matching input"
  | .notEnough => "input is not enough for unique date and time"
  | .invalid => "input contains invalid characters"
  | .tooShort => "premature end of input"
  | .tooLong => "trailing input"

namespace Instant

/-! ## Calendar arithmetic -/

/-- Days from 1970-01-01 to a civil date (proleptic Gregorian). -/
def daysFromCivil (y : Int) (m d : Nat) : Int :=
  let y := if m ≤ 2 then y - 1 else y
  let era := Int.fdiv y 400
  let yoe := y - era * 400
  let mp : Int := if m > 2 then (m : Int) - 3 else (m : Int) + 9
  let doy := (153 * mp + 2) / 5 + (d : Int) - 1
  let doe := yoe * 365 + yoe / 4 - yoe / 100 + doy
  era * 146097 + doe - 719468

/-- The civil date of a day number. -/
def civilFromDays (z : Int) : Int × Nat × Nat :=
  let z := z + 719468
  let era := Int.fdiv z 146097
  let doe := z - era * 146097
  let yoe := (doe - doe / 1460 + doe / 36524 - doe / 146096) / 365
  let y := yoe + era * 400
  let doy := doe - (365 * yoe + yoe / 4 - yoe / 100)
  let mp := (5 * doy + 2) / 153
  let d := doy - (153 * mp + 2) / 5 + 1
  let m := if mp < 10 then mp + 3 else mp - 9
  (if m ≤ 2 then y + 1 else y, m.toNat, d.toNat)

/-- Whether a year is a leap year. -/
def isLeapYear (y : Int) : Bool := (y % 4 = 0 ∧ y % 100 ≠ 0) ∨ y % 400 = 0

/-- The number of days of a month. -/
def monthLength (y : Int) (m : Nat) : Nat :=
  match m with
  | 2 => if isLeapYear y then 29 else 28
  | 4 | 6 | 9 | 11 => 30
  | _ => 31

/-! ## Arithmetic -/

/-- Nanoseconds since the epoch, a leap second counted as a longer second. -/
def toNanos (t : Instant) : Int := (t.days * 86400 + t.seconds) * 1000000000 + t.nanos

/-- The instant a number of nanoseconds after the epoch. -/
def ofNanos (n : Int) : Instant :=
  let secs := Int.fdiv n 1000000000
  let nanos := (n - secs * 1000000000).toNat
  let days := Int.fdiv secs 86400
  { days, seconds := (secs - days * 86400).toNat, nanos }

/-- Orders instants in time. -/
def lt (a b : Instant) : Bool :=
  a.days < b.days || (a.days == b.days && (a.seconds < b.seconds ||
    (a.seconds == b.seconds && a.nanos < b.nanos)))

/-! ## Writing -/

/-- A number as at least `width` decimal digits. -/
def padded (width n : Nat) : String :=
  let ds := Nat.toDigits 10 n
  String.ofList (List.replicate (width - ds.length) '0' ++ ds)

/-- The RFC 3339 text in UTC. -/
def toText (t : Instant) : String :=
  let (y, m, d) := civilFromDays t.days
  let yearText :=
    if 0 ≤ y ∧ y ≤ 9999 then padded 4 y.toNat
    else (if y < 0 then "-" else "+") ++ padded 4 y.natAbs
  let leap := t.nanos ≥ 1000000000
  let nano := t.nanos % 1000000000
  let hh := t.seconds / 3600
  let mm := t.seconds % 3600 / 60
  let ss := t.seconds % 60 + (if leap then 1 else 0)
  let frac :=
    if nano = 0 then ""
    else if nano % 1000000 = 0 then "." ++ padded 3 (nano / 1000000)
    else if nano % 1000 = 0 then "." ++ padded 6 (nano / 1000)
    else "." ++ padded 9 nano
  yearText ++ "-" ++ padded 2 m ++ "-" ++ padded 2 d ++ "T" ++ padded 2 hh ++ ":" ++
    padded 2 mm ++ ":" ++ padded 2 ss ++ frac ++ "Z"

/-! ## Reading -/

/-- The outcome of reading a part: the value and the rest, or an error. -/
abbrev Scan (α : Type) := Except TimeError (α × List Char)

/-- Whether a character is an ASCII digit. -/
def isDigit (c : Char) : Bool := '0' ≤ c && c ≤ '9'

/-- The largest signed 64-bit number plus one: a number that reaches it is out of range. -/
def numberLimit : Nat := Nat.pow 2 63

/-- Reads at least one digit and at most `hi` of them (all of them when `hi` is `none`). An
empty text is too short and a first character that is no digit is invalid. -/
def number (cs : List Char) (hi : Option Nat) : Scan Nat :=
  match cs with
  | [] => .error .tooShort
  | _ =>
    let window := match hi with
      | some h => cs.take h
      | none => cs
    let ds := window.takeWhile isDigit
    if ds.isEmpty then .error .invalid else
    let v := ds.foldl (fun acc c => acc * 10 + (c.toNat - 48)) 0
    if v ≥ numberLimit then .error .outOfRange else .ok (v, cs.drop ds.length)

/-- Drops leading white space (the Unicode class). -/
def skipBlanks (cs : List Char) : List Char := Text.dropBlanks cs

/-- Reads an expected literal character. -/
def literal (c : Char) (cs : List Char) : Except TimeError (List Char) :=
  match cs with
  | [] => .error .tooShort
  | x :: rest => if x = c then .ok rest else .error .invalid

/-- Keeps a value read for a field whose range is `[lo, hi]`. -/
def inField (lo hi : Int) (v : Int) : Except TimeError Unit :=
  if lo ≤ v ∧ v ≤ hi then .ok () else .error .outOfRange

/-- The bounds of a signed 32-bit year. -/
def yearBound : Int := 2147483648

/-- Reads the year after optional blanks: a sign and any number of digits, or up to four
digits. The year must fit 32 bits. -/
def year (cs : List Char) : Except TimeError (Int × List Char) := do
  let (y, rest) ← match skipBlanks cs with
    | '-' :: rest => (number rest none).map fun (v, r) => (-(v : Int), r)
    | '+' :: rest => (number rest none).map fun (v, r) => ((v : Int), r)
    | cs => (number cs (some 4)).map fun (v, r) => ((v : Int), r)
  inField (-yearBound) (yearBound - 1) y
  pure (y, rest)

/-- Reads a field of up to two digits after optional blanks, in the range `[lo, hi]`. -/
def field (cs : List Char) (lo hi : Nat) : Except TimeError (Nat × List Char) := do
  let (v, rest) ← number (skipBlanks cs) (some 2)
  inField lo hi v
  pure (v, rest)

/-- Reads an optional fraction of a second, as nanoseconds; digits past the ninth are
skipped. -/
def fraction (cs : List Char) : Except TimeError (Nat × List Char) :=
  match cs with
  | '.' :: rest => do
    let (v, r) ← number rest (some 9)
    let used := rest.length - r.length
    let v := v * Nat.pow 10 (9 - used)
    pure (v, r.dropWhile isDigit)
  | _ => .ok (0, cs)

/-- Reads two digits of an offset. Fewer than two bytes left is too short. -/
def offsetDigits (cs : List Char) : Except TimeError (Char × Char) :=
  match cs with
  | a :: b :: _ => .ok (a, b)
  | [a] => if a.utf8Size ≥ 2 then .ok (a, a) else .error .tooShort
  | [] => .error .tooShort

/-- Reads a time-zone offset in seconds east of UTC: `Z`, or a sign, two digits of hours,
optional colons and blanks, and two digits of minutes below 60. -/
def offset (cs : List Char) : Except TimeError (Int × List Char) := do
  match cs with
  | 'Z' :: rest | 'z' :: rest => return (0, rest)
  | _ => pure ()
  let (negative, rest) ← match cs with
    | '+' :: r => pure (false, r)
    | '-' :: r => pure (true, r)
    | '−' :: r => pure (true, r)
    | [] => throw .tooShort
    | _ => throw .invalid
  let (h1, h2) ← offsetDigits rest
  if !(isDigit h1 ∧ isDigit h2) then throw .invalid
  let hours := (h1.toNat - 48) * 10 + (h2.toNat - 48)
  let rest := (rest.drop 2).dropWhile fun c => c = ':' ∨ Text.isBlank c
  let (m1, m2) ← offsetDigits rest
  let minutes ←
    if '0' ≤ m1 ∧ m1 ≤ '5' ∧ isDigit m2 then pure ((m1.toNat - 48) * 10 + (m2.toNat - 48))
    else if '6' ≤ m1 ∧ m1 ≤ '9' ∧ isDigit m2 then throw .outOfRange
    else throw .invalid
  let secs : Int := (hours * 3600 + minutes * 60 : Nat)
  pure (if negative then -secs else secs, rest.drop 2)

/-- The first and the last year of the calendar. -/
def firstYear : Int := -262143
def lastYear : Int := 262142

/-- The first and the last second of the calendar, counted from the epoch. -/
def firstSecond : Int := daysFromCivil firstYear 1 1 * 86400
def lastSecond : Int := daysFromCivil lastYear 12 31 * 86400 + 86399

/-- Whether the first three characters spell `UTC` in any case. -/
def startsWithUtc (cs : List Char) : Bool :=
  (cs.take 3).map Char.toUpper == ['U', 'T', 'C']

/-- Reads an RFC 3339 date and time and converts it to UTC.

Each field is checked against its range as soon as it is read, so a field out of range is
reported before anything wrong after it. The date must exist in a calendar from the year
-262143 to the year 262142, the offset must be less than a day, and the time in UTC must
still lie in that calendar (otherwise no date and time matches). -/
def parse (s : String) : Except TimeError Instant := do
  let cs := s.toList
  let (y, cs) ← year cs
  let cs ← literal '-' (skipBlanks cs)
  let (mo, cs) ← field cs 1 12
  let cs ← literal '-' (skipBlanks cs)
  let (d, cs) ← field cs 1 31
  let cs ← match cs with
    | 'T' :: r | 't' :: r | ' ' :: r => pure r
    | [] => throw .tooShort
    | _ => throw .invalid
  let (h, cs) ← field cs 0 23
  let cs ← literal ':' (skipBlanks cs)
  let (mi, cs) ← field cs 0 59
  let cs ← literal ':' (skipBlanks cs)
  let (sec, cs) ← field cs 0 60
  let (nano, cs) ← fraction cs
  let cs := skipBlanks cs
  let (off, cs) ← if startsWithUtc cs then pure (0, cs.drop 3) else offset cs
  if !(skipBlanks cs).isEmpty then throw .tooLong
  if y < firstYear ∨ y > lastYear ∨ d > monthLength y mo then throw .outOfRange
  if off.natAbs ≥ 86400 then throw .outOfRange
  let (sec, leapNanos) := if sec = 60 then (59, 1000000000) else (sec, 0)
  let localSecs : Int := daysFromCivil y mo d * 86400 + (h * 3600 + mi * 60 + sec : Nat)
  let utcSecs := localSecs - off
  if utcSecs < firstSecond ∨ utcSecs > lastSecond then throw .impossible
  let days := Int.fdiv utcSecs 86400
  pure { days, seconds := (utcSecs - days * 86400).toNat, nanos := nano + leapNanos }

end Instant

end ImageStudio
