import HostBridge.Text.Digits
import HostBridge.Text.Split

/-!
# Dates of cookies

The moment at which a cookie expires, in one of the notations that are in use: the date before the
time with blanks or hyphens between its parts and `GMT` at the end, or the month before the day and
the year at the end.  The day of the week in front may be missing, and is not compared with the
date.  Moments are counted in seconds since the beginning of 1970.
-/

namespace HostBridge.Web

/-- The days of the week. -/
def dayNames : List String :=
  ["Monday", "Tuesday", "Wednesday", "Thursday", "Friday", "Saturday", "Sunday"]

/-- The short names of the months. -/
def monthNames : List String :=
  ["Jan", "Feb", "Mar", "Apr", "May", "Jun", "Jul", "Aug", "Sep", "Oct", "Nov", "Dec"]

/-- Whether a year has a day more. -/
def isLeapYear (year : Int) : Bool := year % 4 = 0 && (year % 100 ≠ 0 || year % 400 = 0)

/-- The number of days of a month, counted from 1. -/
def daysInMonth (year : Int) (month : Nat) : Nat :=
  if month = 2 then (if isLeapYear year then 29 else 28)
  else if [4, 6, 9, 11].contains month then 30
  else 31

/-- The number of days from 1970 to a date of the Gregorian calendar, with months counted from 1. -/
def daysFromEpoch (year month day : Int) : Int :=
  let shifted := if month ≤ 2 then year - 1 else year
  let era := Int.fdiv shifted 400
  let yearOfEra := shifted - era * 400
  let dayOfYear := (153 * (month + (if 2 < month then -3 else 9)) + 2) / 5 + day - 1
  era * 146097 + yearOfEra * 365 + yearOfEra / 4 - yearOfEra / 100 + dayOfYear - 719468

/-- What is left of a text behind another one. -/
def behind? (front cs : List Char) : Option (List Char) :=
  if front.isPrefixOf cs then some (cs.drop front.length) else none

/-- What is left of a text behind the first of several others that it begins with, and which one
that is. -/
def behindOne? (fronts : List String) (cs : List Char) : Option (Nat × List Char) :=
  (fronts.findIdx? (fun front => front.toList.isPrefixOf cs)).map (fun index =>
    (index, cs.drop (fronts.getD index "").length))

/-- What is left behind a day of the week and a sign, if both are there. -/
def skipDayName (names : List String) (sign : String) (cs : List Char) : List Char :=
  (((behindOne? names cs).bind (fun found => behind? sign.toList found.2))).getD cs

/-- The number that so many digits at the start write, and what is left. -/
def readFixed? (digits : Nat) (cs : List Char) : Option (Nat × List Char) :=
  let front := cs.take digits
  if front.length = digits && front.all Char.isDigit then
    (Text.readNatWith? 10 0 front).map (fun n => (n, cs.drop digits))
  else none

/-- A month at the start, counted from 1, and what is left. -/
def readMonth? (cs : List Char) : Option (Nat × List Char) :=
  (behindOne? monthNames cs).map (fun found => (found.1 + 1, found.2))

/-- A day at the start, with a blank in place of a first zero if `blank` allows it, and what is
left. -/
def readDay? (blank : Bool) (cs : List Char) : Option (Nat × List Char) :=
  match cs with
  | ' ' :: rest => if blank then readFixed? 1 rest else none
  | _ => readFixed? 2 cs

/-- A year at the start, of one to four digits that may have a sign, and what is left. -/
def readYear? (cs : List Char) : Option (Int × List Char) :=
  let unsigned (cs : List Char) : Option (Int × List Char) :=
    let digits := (cs.take 4).takeWhile Char.isDigit
    if digits.isEmpty then none
    else
      (Text.readNatWith? 10 0 digits).map (fun n => ((n : Int), cs.drop digits.length))
  match cs with
  | '-' :: rest => (unsigned rest).map (fun found => (-found.1, found.2))
  | '+' :: rest => unsigned rest
  | _ => unsigned cs

/-- A year at the start, of two digits, and what is left. -/
def readShortYear? (cs : List Char) : Option (Int × List Char) :=
  (readFixed? 2 cs).map (fun found => ((found.1 : Int), found.2))

/-- The year that is meant: a year before 100 is one of the years from 1970 to 2069. -/
def fullYear (year : Int) : Int :=
  if 0 ≤ year ∧ year < 70 then 2000 + year
  else if 70 ≤ year ∧ year < 100 then 1900 + year
  else year

/-- A time of the day at the start in seconds, and what is left. -/
def readTime? (cs : List Char) : Option (Nat × List Char) := do
  let (hour, cs) ← readFixed? 2 cs
  let cs ← behind? [':'] cs
  let (minute, cs) ← readFixed? 2 cs
  let cs ← behind? [':'] cs
  let (second, cs) ← readFixed? 2 cs
  if hour < 24 ∧ minute < 60 ∧ second < 60 then
    return (hour * 3600 + minute * 60 + second, cs)
  else none

/-- The moment of a date and a time; none if there is no such day. -/
def momentOf? (year : Int) (month day seconds : Nat) : Option Int :=
  let year := fullYear year
  if 1 ≤ day ∧ day ≤ daysInMonth year month then
    some (daysFromEpoch year month day * 86400 + seconds)
  else none

/-- Read a date before the time, with a sign between its parts and a notation of the year. -/
def readDateFirst? (sign : Char) (year? : List Char → Option (Int × List Char)) (cs : List Char) :
    Option Int := do
  let (day, cs) ← readDay? false cs
  let cs ← behind? [sign] cs
  let (month, cs) ← readMonth? cs
  let cs ← behind? [sign] cs
  let (year, cs) ← year? cs
  let cs ← behind? [' '] cs
  let (seconds, cs) ← readTime? cs
  if cs = " GMT".toList then momentOf? year month day seconds else none

/-- Read a date with the year behind the time. -/
def readYearLast? (cs : List Char) : Option Int := do
  let (month, cs) ← readMonth? cs
  let cs ← behind? [' '] cs
  let (day, cs) ← readDay? true cs
  let cs ← behind? [' '] cs
  let (seconds, cs) ← readTime? cs
  let cs ← behind? [' '] cs
  let (year, cs) ← readYear? cs
  if cs.isEmpty then momentOf? year month day seconds else none

/-- The short names of the days of the week. -/
def shortDayNames : List String := dayNames.map (fun name => String.ofList (name.toList.take 3))

/-- The moment that a date stands for. -/
def readCookieDate? (text : String) : Option Int :=
  let cs := text.toList
  let afterShort := skipDayName shortDayNames ", " cs
  (readDateFirst? ' ' readYear? afterShort).or
    ((readDateFirst? '-' readShortYear? (skipDayName dayNames ", " cs)).or
      ((readYearLast? (skipDayName shortDayNames " " cs)).or
        (readDateFirst? '-' readYear? afterShort)))

end HostBridge.Web
