import Pipeline.Script.Call

/-! `date`: moments in time, counted in seconds, and how they are written. -/

namespace Pipeline.Script.Dates

/-- A moment, as a calendar and a clock show it. -/
structure Moment where
  seconds : Int
  year : Int
  month : Nat
  day : Nat
  hour : Nat
  minute : Nat
  second : Nat
  /-- The day of the week, from Sunday on. -/
  weekday : Nat
  /-- The day of the year. -/
  yearDay : Nat

/-- The number of days from the start of 1970 to a day, counted in years that start in March. -/
def daysTo (year : Int) (month day : Nat) : Int :=
  let year := if month ≤ 2 then year - 1 else year
  let era := year / 400
  let yearOfEra := year - era * 400
  let shifted := if month > 2 then month - 3 else month + 9
  let dayOfYear : Int := ((153 * shifted + 2) / 5 + day : Nat) - 1
  era * 146097 + yearOfEra * 365 + yearOfEra / 4 - yearOfEra / 100 + dayOfYear - 719468

/-- The moment so many seconds after the start of 1970. -/
def moment (seconds : Int) : Moment :=
  let days := seconds / 86400
  let rest := (seconds % 86400).toNat
  let shifted := days + 719468
  let era := shifted / 146097
  let dayOfEra := shifted - era * 146097
  let yearOfEra := (dayOfEra - dayOfEra / 1460 + dayOfEra / 36524 - dayOfEra / 146096) / 365
  let dayOfYear := dayOfEra - (365 * yearOfEra + yearOfEra / 4 - yearOfEra / 100)
  let part := (5 * dayOfYear + 2) / 153
  let day := (dayOfYear - (153 * part + 2) / 5 + 1).toNat
  let month := (if part < 10 then part + 3 else part - 9).toNat
  let year := yearOfEra + era * 400 + if month ≤ 2 then 1 else 0
  ⟨seconds, year, month, day, rest / 3600, rest / 60 % 60, rest % 60, ((days + 4) % 7).toNat,
    (days - daysTo year 1 1 + 1).toNat⟩

/-- The names of the days. -/
def dayNames : List String :=
  ["Sunday", "Monday", "Tuesday", "Wednesday", "Thursday", "Friday", "Saturday"]

/-- The names of the months. -/
def monthNames : List String :=
  ["January", "February", "March", "April", "May", "June", "July", "August", "September",
    "October", "November", "December"]

/-- A number with something in front of it up to a width. -/
def fill (c : Char) (width : Nat) (n : Int) : Octets :=
  let digits := Octets.ofInt n
  List.replicate (width - digits.length) c ++ digits

/-- A moment as a format asks. -/
def format (m : Moment) : Nat → Octets → Octets
  | 0, _ => []
  | fuel + 1, cs =>
    let two (n : Nat) : Octets := fill '0' 2 n
    let name (names : List String) (i : Nat) : Octets := ((names[i]?).getD "").toList
    match cs with
    | '%' :: c :: rest =>
      let twelve := if m.hour % 12 = 0 then 12 else m.hour % 12
      let again (text : String) : Octets := format m fuel text.toList
      (match c with
      | 'Y' => Octets.ofInt m.year
      | 'y' => two (m.year % 100).toNat
      | 'm' => two m.month
      | 'd' => two m.day
      | 'e' => fill ' ' 2 m.day
      | 'H' => two m.hour
      | 'I' => two twelve
      | 'M' => two m.minute
      | 'S' => two m.second
      | 'N' => List.replicate 9 '0'
      | 's' => Octets.ofInt m.seconds
      | 'j' => fill '0' 3 m.yearDay
      | 'a' => (name dayNames m.weekday).take 3
      | 'A' => name dayNames m.weekday
      | 'b' | 'h' => (name monthNames (m.month - 1)).take 3
      | 'B' => name monthNames (m.month - 1)
      | 'p' => (if m.hour < 12 then "AM" else "PM").toList
      | 'u' => Octets.ofInt (if m.weekday = 0 then 7 else m.weekday)
      | 'w' => Octets.ofInt m.weekday
      | 'Z' => "UTC".toList
      | 'z' => "+0000".toList
      | 'F' => again "%Y-%m-%d"
      | 'T' => again "%H:%M:%S"
      | 'R' => again "%H:%M"
      | 'D' => again "%m/%d/%y"
      | 'n' => ['\n']
      | 't' => ['\t']
      | '%' => ['%']
      | c => ['%', c]) ++ format m fuel rest
    | c :: rest => c :: format m fuel rest
    | [] => []

/-- The seconds of a day and a time that a text writes. -/
def read? (text : Octets) : Option Int :=
  let number (digits : Octets) : Option Nat := (String.ofList digits).toNat?
  match text with
  | '@' :: digits => (String.ofList digits).toInt?
  | text =>
    let parts := text.splitOnP fun c => c = ' ' || c = 'T'
    let day (text : Octets) : Option Int :=
      match (text.splitOn '-').mapM number with
      | some [year, month, day] =>
        if 1 ≤ month && month ≤ 12 && 1 ≤ day && day ≤ 31 then some (daysTo year month day * 86400)
        else none
      | _ => none
    let time (text : Octets) : Option Int :=
      match ((text.filter (· ≠ 'Z')).splitOn ':').mapM number with
      | some [hour, minute] => some (hour * 3600 + minute * 60 : Nat)
      | some [hour, minute, second] => some (hour * 3600 + minute * 60 + second : Nat)
      | _ => none
    match parts with
    | [date] => day date
    | date :: clock :: _ => do return (← day date) + (← time clock)
    | [] => none

/-- The moment at which all scripts run. -/
def now : Int := 1767225600

end Dates

namespace Tool

/-- `date`. -/
def date (call : Call) : Effect :=
  let request := call.request ['d', 'r'] [("utc", 'u'), ("date", 'd'), ("universal", 'u')]
  let seconds := match request.value? 'd' with
    | some ['n', 'o', 'w'] => some Dates.now
    | some text => Dates.read? text
    | none => some Dates.now
  match seconds with
  | none => call.fails ("invalid date '" ++ ((request.value? 'd').getD []).toText ++ "'") 1
  | some seconds =>
    let layout := match request.operands with
      | ('+' :: layout) :: _ => layout
      | _ => (if request.has 'I' then "%F" else "%a %b %e %H:%M:%S %Z %Y").toList
    call.prints (Dates.format (Dates.moment seconds) (2 * layout.length + 8) layout ++ ['\n'])

end Tool

end Pipeline.Script
