import HidDescriptor.Numeral

/-!
# Points in time

A date, or a date with the time of day, is a value of its own in table files.

- `Timestamp`, `Clock`: a date, the time of day and its zone
- `Timestamp.quote`, `Timestamp.display`: the text of a point in time in messages and in names
- `Timestamp.read?`: the point in time that a text stands for
-/

namespace HidDescriptor

/-- A time of day. The zone is given in minutes ahead of universal time. -/
structure Clock where
  hour : Nat
  minute : Nat
  second : Nat
  microsecond : Nat
  zone : Option Int
  deriving DecidableEq, Repr

structure Timestamp where
  year : Nat
  month : Nat
  day : Nat
  clock : Option Clock
  deriving DecidableEq, Repr

namespace Timestamp

/-! ## Text -/

def padded (width n : Nat) : String :=
  String.ofList (Numeral.padLeft width '0' (Numeral.decimal n).toList)

def span (seconds : Int) : String :=
  let days := seconds / 86400
  let rest := seconds % 86400
  let parts :=
    (if days = 0 then [] else ["days=" ++ Numeral.decimal days]) ++
      (if rest = 0 then [] else ["seconds=" ++ Numeral.decimal rest])
  "datetime.timedelta(" ++ ", ".intercalate parts ++ ")"

/-- The numbers of a time of day. Seconds and their fraction are left out at the end if they are
zero. -/
def clockNumbers (c : Clock) : List Nat :=
  [c.hour, c.minute] ++
    (if c.second = 0 && c.microsecond = 0 then []
    else if c.microsecond = 0 then [c.second]
    else [c.second, c.microsecond])

def zoneQuote (zone : Int) : String :=
  if zone = 0 then "datetime.timezone.utc" else "datetime.timezone(" ++ span (60 * zone) ++ ")"

def quote (t : Timestamp) : String :=
  let numbers (ns : List Nat) : String := ", ".intercalate (ns.map fun (n : Nat) => Numeral.decimal n)
  match t.clock with
  | none => "datetime.date(" ++ numbers [t.year, t.month, t.day] ++ ")"
  | some c =>
      "datetime.datetime(" ++ numbers ([t.year, t.month, t.day] ++ clockNumbers c) ++
        (match c.zone with
        | none => ""
        | some zone => ", tzinfo=" ++ zoneQuote zone) ++ ")"

def display (t : Timestamp) : String :=
  padded 4 t.year ++ "-" ++ padded 2 t.month ++ "-" ++ padded 2 t.day ++
    match t.clock with
    | none => ""
    | some c =>
        " " ++ padded 2 c.hour ++ ":" ++ padded 2 c.minute ++ ":" ++ padded 2 c.second ++
          (if c.microsecond = 0 then "" else "." ++ padded 6 c.microsecond) ++
          match c.zone with
          | none => ""
          | some zone =>
              (if zone < 0 then "-" else "+") ++ padded 2 (zone.natAbs / 60) ++ ":" ++
                padded 2 (zone.natAbs % 60)

/-! ## Validity -/

/-- Why numbers are no point in time. -/
inductive Defect
  | year (n : Nat)
  | month
  | day
  | hour
  | minute
  | second
  | zone (minutes : Int)
  deriving DecidableEq, Repr

def Defect.message : Defect → String
  | year n => "year " ++ Numeral.decimal n ++ " is out of range"
  | month => "month must be in 1..12"
  | day => "day is out of range for month"
  | hour => "hour must be in 0..23"
  | minute => "minute must be in 0..59"
  | second => "second must be in 0..59"
  | zone minutes =>
      "offset must be a timedelta strictly between -timedelta(hours=24) and timedelta(hours=24)" ++
        ", not " ++ span (60 * minutes) ++ "."

def isLeap (year : Nat) : Bool :=
  year % 4 = 0 && (year % 100 != 0 || year % 400 = 0)

def daysIn (year month : Nat) : Nat :=
  if month = 2 then (if isLeap year then 29 else 28)
  else if month = 4 || month = 6 || month = 9 || month = 11 then 30
  else 31

def clockDefect? (c : Clock) : Option Defect :=
  if 23 < c.hour then some .hour
  else if 59 < c.minute then some .minute
  else if 59 < c.second then some .second
  else none

/-- The first defect of a point in time. The zone is looked at first. -/
def defect? (t : Timestamp) : Option Defect :=
  let zone := (t.clock.bind (·.zone)).getD 0
  if 1440 ≤ zone.natAbs then some (.zone zone)
  else if t.year = 0 then some (.year t.year)
  else if t.month = 0 || 12 < t.month then some .month
  else if t.day = 0 || daysIn t.year t.month < t.day then some .day
  else t.clock.bind clockDefect?

/-! ## Reading -/

/-- A number of at least `least` and at most `most` digits, and what follows. -/
def number? (least most : Nat) (cs : List Char) : Option (Nat × List Char) :=
  let ds := ((cs.takeWhile Char.isDigit).take most).filterMap Numeral.decimalDigit?
  if least ≤ ds.length then some (Numeral.value 10 ds, cs.drop ds.length) else none

def skip? (c : Char) : List Char → Option (List Char)
  | [] => none
  | d :: rest => if d = c then some rest else none

/-- Whether a character parts the date, the time of day and the zone. -/
def isGap (c : Char) : Bool := c = ' ' || c = '\t'

def date? (least : Nat) (cs : List Char) : Option (Nat × Nat × Nat × List Char) := do
  let (year, cs) ← number? 4 4 cs
  let cs ← skip? '-' cs
  let (month, cs) ← number? least 2 cs
  let cs ← skip? '-' cs
  let (day, cs) ← number? least 2 cs
  some (year, month, day, cs)

def microseconds (cs : List Char) : Nat :=
  let ds := (cs.take 6).filterMap Numeral.decimalDigit?
  Numeral.value 10 (ds ++ List.replicate (6 - ds.length) 0)

def zone? (cs : List Char) : Option (Option Int) :=
  match cs with
  | [] => some none
  | _ =>
      match cs.dropWhile isGap with
      | ['Z'] => some (some 0)
      | sign :: cs => do
          if sign != '+' && sign != '-' then none
          else
            let (hours, cs) ← number? 1 2 cs
            let minutes ←
              match cs with
              | [] => some 0
              | _ => do
                  let (minutes, cs) ← number? 2 2 (← skip? ':' cs)
                  if cs.isEmpty then some minutes else none
            let total : Int := 60 * hours + minutes
            some (some (if sign = '-' then -total else total))
      | [] => none

def clock? (cs : List Char) : Option Clock := do
  let (hour, cs) ← number? 1 2 cs
  let (minute, cs) ← number? 2 2 (← skip? ':' cs)
  let (second, cs) ← number? 2 2 (← skip? ':' cs)
  let (fraction, cs) :=
    match cs with
    | '.' :: rest => (rest.takeWhile Char.isDigit, rest.dropWhile Char.isDigit)
    | cs => ([], cs)
  let zone ← zone? cs
  some ⟨hour, minute, second, microseconds fraction, zone⟩

def afterDate? : List Char → Option (List Char)
  | [] => none
  | c :: rest =>
      if c = 'T' || c = 't' then some rest
      else if isGap c then some (rest.dropWhile isGap)
      else none

/-- The numbers of a point in time that a text stands for. A date alone has two digits for month and
day. -/
def numbers? (cs : List Char) : Option Timestamp :=
  match date? 2 cs with
  | some (year, month, day, []) => some ⟨year, month, day, none⟩
  | _ => do
      let (year, month, day, cs) ← date? 1 cs
      let clock ← clock? (← afterDate? cs)
      some ⟨year, month, day, some clock⟩

/-- The point in time that a text stands for, or what is wrong with its numbers. -/
def read? (cs : List Char) : Option (Except Defect Timestamp) :=
  (numbers? cs).map fun t =>
    match t.defect? with
    | none => .ok t
    | some defect => .error defect

end Timestamp
end HidDescriptor
