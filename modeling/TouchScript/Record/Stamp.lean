import TouchScript.Json.Escape
import TouchScript.Text.Blank
import TouchScript.Text.Decimal

namespace TouchScript

/-- An identifier of 128 bits. It is written in lower-case groups of 8, 4, 4, 4 and 12 digits, and
read more generously. -/
structure RecordId where
  value : Nat
deriving DecidableEq

namespace RecordId

/-- The `n` lowest hexadecimal digits of a number. -/
def hexDigits : Nat → Nat → List Char
  | 0, _ => []
  | n + 1, value => hexDigits n (value / 16) ++ [Json.Escape.hexDigit (value % 16)]

def text (id : RecordId) : String :=
  let digits := hexDigits 32 id.value
  let part (skip size : Nat) := String.ofList ((digits.drop skip).take size)
  s!"{part 0 8}-{part 8 4}-{part 12 4}-{part 16 4}-{part 20 12}"

/-- Reads exactly 32 hexadecimal digits. -/
def ofHex? (digits : List Char) : Option RecordId :=
  if digits.length = 32 then
    (digits.mapM Json.Escape.hexValue?).map fun values =>
      ⟨values.foldl (fun value digit => value * 16 + digit) 0⟩
  else none

/-- Reads digits in groups with hyphens between them. -/
def ofGroups? (s : List Char) : Option RecordId :=
  let groups := s.splitOnP (· == '-')
  if groups.map List.length = [8, 4, 4, 4, 12] then ofHex? groups.flatten else none

/-- Reads an identifier: 32 digits, or groups, or groups in braces or after `urn:uuid:` in letters
of either case. -/
def read? (s : String) : Option RecordId :=
  let chars := s.toList
  let named := "urn:uuid:".toList
  if chars.length = 32 then ofHex? chars
  else if chars.length = 36 then ofGroups? chars
  else if chars.length = 38 ∧ chars.head? = some '\x7b' ∧ chars.getLast? = some '\x7d' then
    ofGroups? chars.tail.dropLast
  else if chars.length = 45 ∧ (chars.take named.length).map Char.toLower = named then
    ofGroups? (chars.drop named.length)
  else none

/-- The identifier made of 16 random bytes, of which six bits are fixed and say that it is one. -/
def ofRandom (bytes : List UInt8) : RecordId :=
  let marked := (bytes.modify 6 fun b => b % 16 + 64).modify 8 fun b => b % 64 + 128
  ⟨marked.foldl (fun value b => value * 256 + b.toNat) 0⟩

end RecordId

/-- A day of the calendar. -/
structure Date where
  year : Int
  month : Nat
  day : Nat
deriving DecidableEq

namespace Date

def isLeap (year : Int) : Bool :=
  year % 4 == 0 && (year % 100 != 0 || year % 400 == 0)

def daysIn (year : Int) (month : Nat) : Nat :=
  if month = 2 then if isLeap year then 29 else 28
  else if month = 4 ∨ month = 6 ∨ month = 9 ∨ month = 11 then 30
  else 31

def hasYear (year : Int) : Bool :=
  decide (-262143 ≤ year) && decide (year ≤ 262142)

/-- Whether the calendar has the day. -/
def isValid (d : Date) : Bool :=
  hasYear d.year && decide (1 ≤ d.month) && decide (d.month ≤ 12) && decide (1 ≤ d.day) &&
    decide (d.day ≤ daysIn d.year d.month)

def next (d : Date) : Date :=
  if d.day < daysIn d.year d.month then { d with day := d.day + 1 }
  else if d.month < 12 then ⟨d.year, d.month + 1, 1⟩
  else ⟨d.year + 1, 1, 1⟩

def previous (d : Date) : Date :=
  if 1 < d.day then { d with day := d.day - 1 }
  else if 1 < d.month then ⟨d.year, d.month - 1, daysIn d.year (d.month - 1)⟩
  else ⟨d.year - 1, 12, 31⟩

/-- The day that comes `n` days after another. -/
def after : Nat → Date → Date
  | 0, d => d
  | n + 1, d => after n d.next

end Date

/-- A moment in universal time. The second is 60 in a leap second. -/
structure RecordTime where
  date : Date
  minuteOfDay : Nat
  second : Nat
  nanosecond : Nat
deriving DecidableEq

namespace RecordTime

def padded (width n : Nat) : String :=
  let digits := Nat.toDigits 10 n
  String.ofList (List.replicate (width - digits.length) '0' ++ digits)

/-- A year of four digits, with a sign if it needs more or is negative. -/
def yearText (year : Int) : String :=
  if year < 0 then "-" ++ padded 4 year.natAbs
  else if 9999 < year then "+" ++ padded 4 year.natAbs
  else padded 4 year.natAbs

/-- The fraction of a second in as many groups of three decimals as it needs. -/
def fractionText (nanosecond : Nat) : String :=
  if nanosecond = 0 then ""
  else if nanosecond % 1000000 = 0 then "." ++ padded 3 (nanosecond / 1000000)
  else if nanosecond % 1000 = 0 then "." ++ padded 6 (nanosecond / 1000)
  else "." ++ padded 9 nanosecond

def text (t : RecordTime) : String :=
  let date := s!"{yearText t.date.year}-{padded 2 t.date.month}-{padded 2 t.date.day}"
  let hour := padded 2 (t.minuteOfDay / 60)
  let minute := padded 2 (t.minuteOfDay % 60)
  s!"{date}T{hour}:{minute}:{padded 2 t.second}{fractionText t.nanosecond}Z"

/-- Reads a number of at most `width` digits, which blanks may precede. -/
def number? (width : Nat) (s : List Char) : Option (Nat × List Char) :=
  let s := Chars.trimStart s
  let digits := (s.take width).takeWhile Char.isDigit
  (Chars.natural? digits).map fun n => (n, s.drop digits.length)

/-- Reads a year: at most four digits, or any number of them after a sign. -/
def year? (s : List Char) : Option (Int × List Char) :=
  let signed (sign : Int) (s : List Char) : Option (Int × List Char) :=
    (Chars.natural? (s.takeWhile Char.isDigit)).map fun n => (sign * n, s.dropWhile Char.isDigit)
  match Chars.trimStart s with
  | '-' :: s => signed (-1) s
  | '+' :: s => signed 1 s
  | s => (number? 4 s).map fun (n, s) => ((n : Int), s)

/-- Reads one of the given characters from the front of a text. -/
def mark? (allowed : List Char) : List Char → Option (List Char)
  | c :: s => if c ∈ allowed then some s else none
  | [] => none

/-- Reads a mark and a number of at most two digits, with blanks before each. -/
def part? (mark : Char) (s : List Char) : Option (Nat × List Char) :=
  (mark? [mark] (Chars.trimStart s)).bind (number? 2)

/-- Reads the fraction of a second; decimals after the ninth are dropped. -/
def fraction? : List Char → Option (Nat × List Char)
  | '.' :: s =>
    let digits := s.takeWhile Char.isDigit
    let nine := (digits ++ List.replicate 9 '0').take 9
    if digits.isEmpty then none
    else some (Nat.ofDigitChars 10 nine 0, s.dropWhile Char.isDigit)
  | s => some (0, s)

/-- Reads exactly two digits from the front of a text. -/
def twoDigits? : List Char → Option (Nat × List Char)
  | c :: d :: s => (Chars.natural? [c, d]).map fun n => (n, s)
  | _ => none

/-- Reads the hours and minutes of an offset, with colons and blanks between them, in minutes. -/
def clockOffset? (s : List Char) : Option (Nat × List Char) := do
  let (hours, s) ← twoDigits? s
  let (minutes, s) ← twoDigits? (s.dropWhile fun c => c == ':' || Chars.isBlank c)
  if hours < 24 ∧ minutes < 60 then some (hours * 60 + minutes, s) else none

/-- Reads the offset from universal time in minutes: `UTC`, `Z`, or hours and minutes with a
sign. -/
def offset? (s : List Char) : Option (Int × List Char) :=
  if (s.take 3).map Char.toUpper = ['U', 'T', 'C'] then some (0, s.drop 3)
  else
    match s with
    | 'Z' :: s | 'z' :: s => some (0, s)
    | '+' :: s => (clockOffset? s).map fun (n, s) => ((n : Int), s)
    | '-' :: s | '−' :: s => (clockOffset? s).map fun (n, s) => (-(n : Int), s)
    | _ => none

/-- The moment in universal time of a local date and time with the given offset, if the calendar
has its day. -/
def ofLocal? (date : Date) (minute : Nat) (offset : Int) (second nanosecond : Nat) :
    Option RecordTime :=
  let universal : Int := minute - offset
  let (date, minute) :=
    if universal < 0 then (date.previous, universal + 1440)
    else if 1440 ≤ universal then (date.next, universal - 1440)
    else (date, universal)
  if date.isValid then some ⟨date, minute.toNat, second, nanosecond⟩ else none

/-- Reads a moment: date, time of day with an optional fraction, and offset. -/
def read? (s : String) : Option RecordTime := do
  let (year, rest) ← year? s.toList
  let (month, rest) ← part? '-' rest
  let (day, rest) ← part? '-' rest
  let (hour, rest) ← (mark? ['T', 't', ' '] rest).bind (number? 2)
  let (minute, rest) ← part? ':' rest
  let (second, rest) ← part? ':' rest
  let (nanosecond, rest) ← fraction? rest
  let (offset, rest) ← offset? (Chars.trimStart rest)
  let date : Date := ⟨year, month, day⟩
  if date.isValid ∧ hour < 24 ∧ minute < 60 ∧ second ≤ 60 ∧ Chars.trimStart rest = [] then
    ofLocal? date (hour * 60 + minute) offset second nanosecond
  else none

/-- The moment that lies a number of nanoseconds after the beginning of 1970. -/
def ofEpoch (nanoseconds : Nat) : RecordTime :=
  let seconds := nanoseconds / 1000000000
  let date := Date.after (seconds / 86400) ⟨1970, 1, 1⟩
  ⟨date, seconds % 86400 / 60, seconds % 60, nanoseconds % 1000000000⟩

end RecordTime

end TouchScript
