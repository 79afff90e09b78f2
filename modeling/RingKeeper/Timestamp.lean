import RingKeeper.Text.Blank

/-!
# Timestamps

A point in time is given by a date, a time of day and an offset from universal time. The reader is
lenient about blanks and about the number of digits; what is written is in universal time, to the
second, in one form only. A second may be a leap second.
-/

namespace RingKeeper

/-- A day of the Gregorian calendar. -/
structure Date where
  year : Int
  month : Nat
  day : Nat
deriving DecidableEq, Repr

namespace Date

def isLeap (year : Int) : Bool :=
  decide (year % 4 = 0) && (decide (year % 100 ≠ 0) || decide (year % 400 = 0))

/-- The number of days of a month; there is no month that has none. -/
def daysOf (year : Int) : (month : Nat) → Nat
  | 2 => if isLeap year then 29 else 28
  | 4 | 6 | 9 | 11 => 30
  | 1 | 3 | 5 | 7 | 8 | 10 | 12 => 31
  | _ => 0

/-- The years that the calendar goes back and forth. -/
def farthest : Int := 262142

/-- Whether there is such a day. -/
def isInCalendar (d : Date) : Bool :=
  1 ≤ d.day && d.day ≤ daysOf d.year d.month && -farthest - 1 ≤ d.year && d.year ≤ farthest

def next (d : Date) : Date :=
  if d.day < daysOf d.year d.month then { d with day := d.day + 1 }
  else if d.month < 12 then { d with month := d.month + 1, day := 1 }
  else ⟨d.year + 1, 1, 1⟩

def previous (d : Date) : Date :=
  if 1 < d.day then { d with day := d.day - 1 }
  else if 1 < d.month then
    { d with month := d.month - 1, day := daysOf d.year (d.month - 1) }
  else ⟨d.year - 1, 12, 31⟩

example : (⟨2024, 2, 28⟩ : Date).next = ⟨2024, 2, 29⟩ := by decide
example : (⟨2023, 3, 1⟩ : Date).previous = ⟨2023, 2, 28⟩ := by decide

end Date

/-- A point in time, in universal time. -/
structure Timestamp where
  date : Date
  /-- The minutes since midnight. -/
  minute : Nat
  second : Nat
deriving DecidableEq, Repr

namespace Timestamp

def minutesPerDay : Nat := 1440

/-- The point in time at which it is this minute of this date where clocks are ahead by `offset`. -/
def ofLocal (date : Date) (minute second : Nat) (offset : Int) : Timestamp :=
  let minutes : Int := minute - offset
  let date :=
    if minutes < 0 then date.previous
    else if minutes < minutesPerDay then date
    else date.next
  ⟨date, (minutes % minutesPerDay).toNat, second⟩

/-! ### Reading -/

/-- The number at the front of a text, of one digit at least and of so many at most. -/
def number? (most : Nat) (s : List Char) : Option (Nat × List Char) :=
  match (s.takeWhile Char.isDigit).take most with
  | [] => none
  | ds => some (ds.foldl (fun n d => 10 * n + (d.toNat - '0'.toNat)) 0, s.drop ds.length)

/-- A year: of four digits at most, or of any number of them behind a sign. -/
def year? (s : List Char) : Option (Int × List Char) :=
  match s with
  | '-' :: s => (number? s.length s).map fun r => (-(r.1 : Int), r.2)
  | '+' :: s => (number? s.length s).map fun r => ((r.1 : Int), r.2)
  | s => (number? 4 s).map fun r => ((r.1 : Int), r.2)

/-- The text behind the blanks and this mark. -/
def behind? (mark : Char) (s : List Char) : Option (List Char) :=
  match Text.skipBlanks s with
  | c :: s => if c = mark then some s else none
  | [] => none

/-- A number of two digits at most, perhaps behind blanks. -/
def field? (s : List Char) : Option (Nat × List Char) := number? 2 (Text.skipBlanks s)

def date? (s : List Char) : Option (Date × List Char) := do
  let (year, s) ← year? (Text.skipBlanks s)
  let (month, s) ← field? (← behind? '-' s)
  let (day, s) ← field? (← behind? '-' s)
  some (⟨year, month, day⟩, s)

/-- The text behind a fraction of a second, if there is one. -/
def skipFraction? : List Char → Option (List Char)
  | '.' :: s => if (s.takeWhile Char.isDigit).isEmpty then none else some (s.dropWhile Char.isDigit)
  | s => some s

/-- The hour, minute and second of a time of day. -/
def clock? (s : List Char) : Option ((Nat × Nat × Nat) × List Char) := do
  let (hour, s) ← field? s
  let (minute, s) ← field? (← behind? ':' s)
  let (second, s) ← field? (← behind? ':' s)
  let s ← skipFraction? s
  if hour < 24 ∧ minute < 60 ∧ second ≤ 60 then some ((hour, minute, second), Text.skipBlanks s)
  else none

/-- The number of exactly two digits at the front of a text. -/
def twoDigits? : List Char → Option (Nat × List Char)
  | a :: b :: s =>
    if a.isDigit && b.isDigit then
      some (10 * (a.toNat - '0'.toNat) + (b.toNat - '0'.toNat), s)
    else none
  | _ => none

/-- An offset of hours and minutes, in minutes; colons and blanks may stand between the two. -/
def offset? (s : List Char) : Option (Nat × List Char) := do
  let (hours, s) ← twoDigits? s
  let (minutes, s) ← twoDigits? (s.dropWhile fun c => decide (c = ':') || Text.isBlank c)
  if hours < 24 ∧ minutes < 60 then some (60 * hours + minutes, s) else none

/-- The offset from universal time, in minutes, which may be given by a name. -/
def zone? : List Char → Option (Int × List Char)
  | '+' :: s => (offset? s).map fun r => ((r.1 : Int), r.2)
  | '-' :: s => (offset? s).map fun r => (-(r.1 : Int), r.2)
  | '\u2212' :: s => (offset? s).map fun r => (-(r.1 : Int), r.2)
  | 'Z' :: s => some (0, s)
  | 'z' :: s => some (0, s)
  | u :: t :: c :: s =>
    if [u, t, c].map Char.toUpper = ['U', 'T', 'C'] then some (0, s) else none
  | _ => none

/-- The point in time that a text gives, if it gives one. -/
def ofText? (text : String) : Option Timestamp := do
  let (date, s) ← date? text.toList
  match s with
  | c :: s =>
    if c = 't' ∨ c = 'T' ∨ c = ' ' then
      let ((hour, minute, second), s) ← clock? s
      let (offset, s) ← zone? s
      let t := ofLocal date (60 * hour + minute) second offset
      if date.isInCalendar && t.date.isInCalendar && (Text.skipBlanks s).isEmpty then some t else none
    else none
  | [] => none

/-! ### Writing -/

/-- The number in at least so many digits. -/
def padded (digits n : Nat) : String :=
  let s := toString n
  String.ofList (List.replicate (digits - s.length) '0') ++ s

/-- The year in at least four digits, and with a sign if it has more or is negative. -/
def yearText (year : Int) : String :=
  let digits := padded 4 year.natAbs
  if year < 0 then "-" ++ digits else if 9999 < year then "+" ++ digits else digits

def text (t : Timestamp) : String :=
  yearText t.date.year ++ "-" ++ padded 2 t.date.month ++ "-" ++ padded 2 t.date.day ++ "T"
    ++ padded 2 (t.minute / 60) ++ ":" ++ padded 2 (t.minute % 60) ++ ":" ++ padded 2 t.second
    ++ "Z"

end Timestamp

end RingKeeper
