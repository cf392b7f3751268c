import RadioAdapter.Data.DateTime
import RadioAdapter.Toml.Scan

/-! # Reading date-times

A date, a time of day, or a date and a time with a `T` or a space between them;
a time that follows a date may have a distance from universal time. The digits
of a fraction beyond the ninth are dropped.
-/

namespace RadioAdapter.Toml

/-- Read a number of exactly this many digits. -/
def readCount (width : Nat) : Reader Nat := fun text =>
  let digits := text.take width
  if digits.length = width ∧ digits.all Char.isDigit then
    some (Nat.ofDigitChars 10 digits 0, text.drop width)
  else none

def readChar (wanted : Char) : Reader Unit
  | c :: rest => if c = wanted then some ((), rest) else none
  | [] => none

def readDate : Reader Date := fun text => do
  let (year, text) ← readCount 4 text
  let (_, text) ← readChar '-' text
  let (month, text) ← readCount 2 text
  let (_, text) ← readChar '-' text
  let (day, text) ← readCount 2 text
  let date : Date := { year, month, day }
  if date.isValid then return (date, text) else none

/-- The nanoseconds that the digits of a fraction of a second make. -/
def nanoseconds (digits : List Char) : Nat :=
  let kept := digits.take 9
  Nat.ofDigitChars 10 kept 0 * Nat.pow 10 (9 - kept.length)

/-- Read a fraction of a second, if there is one. -/
def readNanoseconds : Reader Nat
  | '.' :: rest =>
      let (digits, rest) := rest.span Char.isDigit
      if digits.isEmpty then none else some (nanoseconds digits, rest)
  | text => some (0, text)

def readTimeOfDay : Reader TimeOfDay := fun text => do
  let (hour, text) ← readCount 2 text
  let (_, text) ← readChar ':' text
  let (minute, text) ← readCount 2 text
  let (_, text) ← readChar ':' text
  let (second, text) ← readCount 2 text
  let (nanosecond, text) ← readNanoseconds text
  let time : TimeOfDay := { hour, minute, second, nanosecond }
  if time.isValid then return (time, text) else none

/-- Read a distance in hours and minutes, of which neither overflows. -/
def readDistance : Reader Nat := fun text => do
  let (hour, text) ← readCount 2 text
  let (_, text) ← readChar ':' text
  let (minute, text) ← readCount 2 text
  if hour ≤ 23 ∧ minute ≤ 59 then return (60 * hour + minute, text) else none

def readOffset : Reader ZoneOffset
  | c :: rest =>
      if c = 'Z' ∨ c = 'z' then some (.universal, rest)
      else if c = '+' then (readDistance rest).map fun (n, rest) => (.minutes n, rest)
      else if c = '-' then (readDistance rest).map fun (n, rest) => (.minutes (-n), rest)
      else none
  | [] => none

/-- Read the time that may follow a date, after a `T` or a space. -/
def readTimeAfterDate : Reader TimeOfDay
  | c :: rest => if c = 'T' ∨ c = 't' ∨ c = ' ' then readTimeOfDay rest else none
  | [] => none

def readDateTime : Reader DateTime := fun text =>
  match readDate text with
  | some (date, text) =>
      match readTimeAfterDate text with
      | none => some ({ date := some date }, text)
      | some (time, text) =>
          match readOffset text with
          | none => some ({ date := some date, time := some time }, text)
          | some (offset, text) =>
              some ({ date := some date, time := some time, offset := some offset }, text)
  | none => (readTimeOfDay text).map fun (time, text) => ({ time := some time }, text)

end RadioAdapter.Toml
