/-! # Date-times

A date-time has a date, a time of day, or both, and with both it may say how far
it is from universal time. Its text is the normal form of the Internet date
format: a `T` between date and time, and no trailing zeros in a fraction.
-/

namespace RadioAdapter

/-- A day of the calendar. -/
structure Date where
  year : Nat
  month : Nat
  day : Nat
deriving DecidableEq, Repr

/-- A time of day; a leap second counts as second 60. -/
structure TimeOfDay where
  hour : Nat
  minute : Nat
  second : Nat
  nanosecond : Nat := 0
deriving DecidableEq, Repr

/-- The distance from universal time. -/
inductive ZoneOffset where
  | universal
  | minutes (ahead : Int)
deriving DecidableEq, Repr

/-- A date, a time of day, or both. -/
structure DateTime where
  date : Option Date := none
  time : Option TimeOfDay := none
  offset : Option ZoneOffset := none
deriving DecidableEq, Repr

/-! ## Validity -/

/-- Whether a year has a leap day. -/
def Date.isLeapYear (year : Nat) : Bool := year % 4 == 0 && (year % 100 != 0 || year % 400 == 0)

/-- The number of days of a month. -/
def Date.daysInMonth (year month : Nat) : Nat :=
  if month = 2 then (if isLeapYear year then 29 else 28)
  else if month = 4 ∨ month = 6 ∨ month = 9 ∨ month = 11 then 30
  else 31

/-- Whether the calendar has this day. -/
def Date.isValid (date : Date) : Bool :=
  1 ≤ date.month && date.month ≤ 12 && 1 ≤ date.day &&
    date.day ≤ daysInMonth date.year date.month

/-- Whether the clock shows this time. -/
def TimeOfDay.isValid (time : TimeOfDay) : Bool :=
  time.hour ≤ 23 && time.minute ≤ 59 && time.second ≤ 60

/-! ## Text -/

/-- A number in decimal with at least the given count of digits. -/
def paddedDigits (width n : Nat) : List Char :=
  let digits := Nat.toDigits 10 n
  List.replicate (width - digits.length) '0' ++ digits

/-- A list without the zeros at its end. -/
def dropTrailingZeros (digits : List Char) : List Char :=
  (digits.reverse.dropWhile (· == '0')).reverse

def Date.text (date : Date) : List Char :=
  paddedDigits 4 date.year ++ '-' :: (paddedDigits 2 date.month ++ '-' :: paddedDigits 2 date.day)

def TimeOfDay.text (time : TimeOfDay) : List Char :=
  paddedDigits 2 time.hour ++ ':' :: (paddedDigits 2 time.minute ++
    ':' :: (paddedDigits 2 time.second ++
      if time.nanosecond = 0 then []
      else '.' :: dropTrailingZeros (paddedDigits 9 time.nanosecond)))

def ZoneOffset.text : ZoneOffset → List Char
  | .universal => ['Z']
  | .minutes ahead =>
      let distance := ahead.natAbs
      (if ahead < 0 then '-' else '+') ::
        (paddedDigits 2 (distance / 60) ++ ':' :: paddedDigits 2 (distance % 60))

def DateTime.text (value : DateTime) : String :=
  let date := value.date.elim [] Date.text
  let time := value.time.elim [] TimeOfDay.text
  let between := if value.date.isSome && value.time.isSome then ['T'] else []
  String.ofList (date ++ between ++ time ++ value.offset.elim [] ZoneOffset.text)

end RadioAdapter
