/-!
# Dates and times in settings files

A settings file may hold an offset date-time, a local date-time, a local date or a local
time, in the form of RFC 3339 with the freedoms TOML allows: `T`, `t` or a space between
date and time, `Z` or `z` for UTC, and seconds that may be left out.

A text is cut into pieces (runs of digits, and the marks `-`, `:`, `.`, `+`, `Z`, `T`
and space) and read piece by piece: first the date or the hour, then the time, then the
offset. Every field is checked for its width and its range, a day against the length of
its month in its year. The first failure names what was being read and what was
expected there (`invalid date, expected day between 01 and 28`).

A value that reads becomes text in its usual form: `T` between date and time, `Z` for
UTC, an offset as a signed `HH:MM` of its minutes, and a fraction of a second cut to
nine digits and written without trailing zeros (as `.0` when it is zero).
-/

namespace HttpCall.Datetime

/-- The pieces a date or time is made of. -/
inductive Piece where
  | digits (text : List Char)
  | dash
  | colon
  | dot
  | plus
  | zulu
  | timeMark
  | space
  | other (c : Char)
  deriving DecidableEq, Repr, Inhabited

/-- The piece a single character makes, for a character that is not a digit. -/
def markOf (c : Char) : Piece :=
  match c with
  | '-' => .dash
  | ':' => .colon
  | '.' => .dot
  | '+' => .plus
  | 'Z' | 'z' => .zulu
  | 'T' | 't' => .timeMark
  | ' ' => .space
  | c => .other c

/-- Cut a text into pieces: each run of digits is one piece, every other character one
piece of its own. -/
def pieces : List Char → List Piece
  | [] => []
  | c :: rest =>
    if c.isDigit then
      let run := rest.takeWhile Char.isDigit
      have : (rest.dropWhile Char.isDigit).length < rest.length + 1 := by
        have := (List.dropWhile_suffix Char.isDigit (l := rest)).length_le
        omega
      .digits (c :: run) :: pieces (rest.dropWhile Char.isDigit)
    else markOf c :: pieces rest
termination_by cs => cs.length

/-- Why a text is not a date or time: what was being read and what was expected. -/
structure Problem where
  what : Option String := none
  expected : Option String := none
  deriving DecidableEq, Repr, Inhabited

namespace Problem

/-- The words of a problem. -/
def message (p : Problem) : String :=
  match p.what, p.expected with
  | some w, some e => "invalid " ++ w ++ ", expected " ++ e
  | some w, none => "invalid " ++ w
  | none, some e => "invalid datetime, expected " ++ e
  | none, none => "invalid datetime"

/-- A problem while reading `what`. -/
def reading (what expected : String) : Problem := ⟨some what, some expected⟩

end Problem

/-- The next piece, which must be digits. -/
def takeDigits (ps : List Piece) (p : Problem) : Except Problem (List Char × List Piece) :=
  match ps with
  | .digits ds :: rest => .ok (ds, rest)
  | _ => .error p

/-- The pieces after the next one, which must be `q`. -/
def takeMark (ps : List Piece) (q : Piece) (p : Problem) : Except Problem (List Piece) :=
  match ps with
  | r :: rest => if r = q then .ok rest else .error p
  | [] => .error p

/-- The value of decimal digits. -/
def digitsValue (ds : List Char) : Nat :=
  ds.foldl (fun acc c => acc * 10 + (c.toNat - 48)) 0

/-- Fail with `p` unless `ok`. -/
def check (ok : Bool) (p : Problem) : Except Problem Unit :=
  if ok then .ok () else .error p

/-- Is a year a leap year of the Gregorian calendar? -/
def isLeapYear (year : Nat) : Bool :=
  year % 4 == 0 && (year % 100 != 0 || year % 400 == 0)

/-- The greatest day of a month of a year. -/
def monthLength (year month : Nat) : Nat :=
  if month = 2 then (if isLeapYear year then 29 else 28)
  else if month = 4 ∨ month = 6 ∨ month = 9 ∨ month = 11 then 30
  else 31

/-- A two-digit number with a leading zero. -/
def twoDigits (n : Nat) : String :=
  if n < 10 then "0" ++ toString n else toString n

/-- Read the date after its year, up to the end of the day: its text and the pieces
after it. -/
def readDate (year : List Char) (ps : List Piece) : Except Problem (String × List Piece) := do
  let (month, ps) ← takeDigits ps (.reading "date" "month")
  let ps ← takeMark ps .dash (.reading "date" "`-` (MM-DD)")
  let (day, ps) ← takeDigits ps (.reading "date" "day")
  check (year.length == 4) (.reading "date" "a four-digit year (YYYY)")
  check (month.length == 2) (.reading "date" "a two-digit month (MM)")
  check (day.length == 2) (.reading "date" "a two-digit day (DD)")
  let m := digitsValue month
  check (1 ≤ m && m ≤ 12) (.reading "date" "month between 01 and 12")
  let last := monthLength (digitsValue year) m
  check (1 ≤ digitsValue day && digitsValue day ≤ last)
    (.reading "date" ("day between 01 and " ++ toString last))
  pure (String.ofList year ++ "-" ++ String.ofList month ++ "-" ++ String.ofList day, ps)

/-- The text of a fraction of a second: its first nine digits as nanoseconds, without
trailing zeros, and a single zero when they are all zero. -/
def fractionText (ds : List Char) : String :=
  let nine := (ds.take 9) ++ List.replicate (9 - min 9 ds.length) '0'
  let kept := (nine.reverse.dropWhile (· == '0')).reverse
  if kept.isEmpty then ".0" else "." ++ String.ofList kept

/-- Read a time from its hour: its text and the pieces after it. -/
def readTime (ps : List Piece) : Except Problem (String × List Piece) := do
  let (hour, ps) ← takeDigits ps (.reading "time" "hour")
  let ps ← takeMark ps .colon (.reading "time" "`:` (HH:MM)")
  let (minute, ps) ← takeDigits ps (.reading "time" "minute")
  let (second, ps) ← match ps with
    | .colon :: rest => do
      let (s, rest) ← takeDigits rest (.reading "time" "second")
      pure (some s, rest)
    | _ => pure (none, ps)
  let (fraction, ps) ← match second, ps with
    | some _, .dot :: rest => do
      let (f, rest) ← takeDigits rest (.reading "time" "nanosecond")
      pure (some f, rest)
    | _, _ => pure (none, ps)
  check (hour.length == 2) (.reading "time" "a two-digit hour (HH)")
  check (minute.length == 2) (.reading "time" "a two-digit minute (MM)")
  check (second.all (·.length == 2)) (.reading "time" "a two-digit second (SS)")
  check (digitsValue hour ≤ 23) (.reading "time" "hour between 00 and 23")
  check (digitsValue minute ≤ 59) (.reading "time" "minute between 00 and 59")
  check (second.all (digitsValue · ≤ 60)) (.reading "time" "second between 00 and 60")
  let secondText := match second with
    | some s => ":" ++ String.ofList s
    | none => ""
  let fracText := match fraction with
    | some f => fractionText f
    | none => ""
  pure (String.ofList hour ++ ":" ++ String.ofList minute ++ secondText ++ fracText, ps)

/-- Read the offset after a date and time, if any: its text and the pieces after it. -/
def readOffset (ps : List Piece) : Except Problem (String × List Piece) :=
  match ps with
  | [] => .ok ("", [])
  | .zulu :: rest => .ok ("Z", rest)
  | sign :: rest =>
    if sign = .plus ∨ sign = .dash then do
      let (hours, rest) ← takeDigits rest (.reading "offset" "hour")
      let rest ← takeMark rest .colon (.reading "offset" "`:` (HH:MM)")
      let (minutes, rest) ← takeDigits rest (.reading "offset" "minute")
      check (hours.length == 2) (.reading "offset" "a two-digit hour (HH)")
      check (minutes.length == 2) (.reading "offset" "a two-digit minute (MM)")
      let h := digitsValue hours
      let m := digitsValue minutes
      check (h ≤ 23) (.reading "offset" "hours between 00 and 23")
      check (m ≤ 59) (.reading "offset" "minutes between 00 and 59")
      let total := h * 60 + m
      let mark := if sign = .dash ∧ total ≠ 0 then "-" else "+"
      pure (mark ++ twoDigits h ++ ":" ++ twoDigits m, rest)
    else .error (.reading "offset" "`Z`, +OFFSET, -OFFSET")

/-- Read a date, a time, or a date and time, and write it in its usual form. -/
def normalize (text : List Char) : Except Problem String := do
  let ps := pieces text
  let (first, rest) ← takeDigits ps { expected := some "year or hour" }
  let (out, rest) ← match rest with
    | .dash :: rest => do
      let (date, rest) ← readDate first rest
      match rest with
      | [] => pure (date, [])
      | sep :: more =>
        if sep = .timeMark ∨ sep = .space then do
          let (time, more) ← readTime more
          let (offset, more) ← readOffset more
          pure (date ++ "T" ++ time ++ offset, more)
        else .error (.reading "date-time" "`T` between date and time")
    | .colon :: _ => readTime ps
    | _ => .error { expected := some "`-` (YYYY-MM) or `:` (HH:MM)" }
  if rest.isEmpty then pure out else .error {}

end HttpCall.Datetime
