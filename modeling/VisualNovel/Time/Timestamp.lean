/-
  VisualNovel.Time.Timestamp

  Timestamps as text. Writing gives one form: offset zero as `Z`, a fraction of
  0, 3, 6 or 9 digits, as few as are exact, a leap second as second 60, and a
  sign in front of years outside 0 to 9999. Reading is more liberal: fields may
  have fewer digits and blanks in front, the date and the time may be set apart
  by `T`, `t` or a space, and the offset may be written in several ways.
-/

import VisualNovel.Text.Blank
import VisualNovel.Text.Letter
import VisualNovel.Text.Numeral
import VisualNovel.Time.Instant

namespace VisualNovel.Time

open Text

/-! ## Writing -/

/-- A year: four digits, or a sign and at least four digits. -/
def yearText (year : Int) : List Char :=
  if 0 ≤ year ∧ year ≤ 9999 then Numeral.padded 4 year.toNat
  else (if year < 0 then '-' else '+') :: Numeral.padded 4 year.natAbs

/-- A date as year, month and day. -/
def Date.text (d : Date) : List Char :=
  yearText d.year ++ '-' :: (Numeral.padded 2 d.month ++ '-' :: Numeral.padded 2 d.day)

/-- A fraction of a second, in nanoseconds. -/
def fractionText (nano : Nat) : List Char :=
  if nano = 0 then []
  else if nano % 1000000 = 0 then '.' :: Numeral.padded 3 (nano / 1000000)
  else if nano % 1000 = 0 then '.' :: Numeral.padded 6 (nano / 1000)
  else '.' :: Numeral.padded 9 nano

/-- The hour and minute of an instant. -/
def Instant.clockText (t : Instant) : List Char :=
  Numeral.padded 2 (t.second / 3600) ++ ':' :: Numeral.padded 2 (t.second / 60 % 60)

/-- An instant as a timestamp. -/
def Instant.text (t : Instant) : List Char :=
  t.date.text ++ 'T' :: (t.clockText ++
    ':' :: (Numeral.padded 2 (t.second % 60 + t.nano / 1000000000) ++
      (fractionText (t.nano % 1000000000) ++ ['Z'])))

/-- An instant to the minute. -/
def Instant.minuteText (t : Instant) : List Char :=
  t.date.text ++ ' ' :: (t.clockText ++ [' ', 'U', 'T', 'C'])

/-! ## Reading -/

/-- Why a text is no timestamp. -/
inductive TimestampError
  | tooShort
  | tooLong
  | malformed
  | outOfRange
  | impossible
  deriving DecidableEq, Repr

/-- The wording of an error. -/
def TimestampError.message : TimestampError → String
  | tooShort => "premature end of input"
  | tooLong => "trailing input"
  | malformed => "input contains invalid characters"
  | outOfRange => "input is out of range"
  | impossible => "no possible date and time matching input"

/-- A step of reading: a result and the text after it. -/
abbrev Step (α : Type) := Except TimestampError (α × List Char)

/-- Reads at least one and at most `limit` digits. -/
def readDigits (limit : Nat) (cs : List Char) : Step (List Char) :=
  let ds := (cs.take limit).takeWhile Char.isDigit
  if cs = [] then .error .tooShort
  else if ds = [] then .error .malformed
  else .ok (ds, cs.drop ds.length)

/-- Reads a number of at most two digits between two bounds, after blanks. -/
def readField (low high : Nat) (cs : List Char) : Step Nat :=
  (readDigits 2 (trimStart cs)).bind fun (ds, cs) =>
    let n := Numeral.value ds
    if low ≤ n ∧ n ≤ high then .ok (n, cs) else .error .outOfRange

/-- Reads a year, after blanks: up to four digits, or a sign and any number of digits. -/
def readYear (cs : List Char) : Step Int :=
  let signed (negative : Bool) (cs : List Char) : Step Int :=
    (readDigits cs.length cs).bind fun (ds, cs) =>
      let year : Int := if negative then -(Numeral.value ds : Int) else Numeral.value ds
      if -2147483648 ≤ year ∧ year ≤ 2147483647 then .ok (year, cs) else .error .outOfRange
  match trimStart cs with
  | '-' :: cs => signed true cs
  | '+' :: cs => signed false cs
  | cs => (readDigits 4 cs).map fun (ds, cs) => ((Numeral.value ds : Int), cs)

/-- Reads one given character. -/
def readChar (c : Char) : List Char → Step Unit
  | [] => .error .tooShort
  | d :: cs => if d = c then .ok ((), cs) else .error .malformed

/-- Reads a fraction, if there is one: digits after the ninth are dropped. -/
def readFraction (cs : List Char) : Step Nat :=
  match cs with
  | '.' :: cs =>
    (readDigits 9 cs).map fun (ds, cs) =>
      -- Missing digits count as zeros.
      (Numeral.value ds * Nat.pow 10 (9 - ds.length), cs.dropWhile Char.isDigit)
  | cs => .ok (0, cs)

/-- Reads two digits at the front of a text. -/
def readPair : List Char → Step Nat
  | [] => .error .tooShort
  | [c] => .error (if c.toNat < 0x80 then .tooShort else .malformed)
  | c :: d :: cs =>
    if c.isDigit ∧ d.isDigit then .ok (Numeral.value [c, d], cs) else .error .malformed

/-- Reads an offset in seconds: `Z`, `UTC`, or a sign, two digits, perhaps a colon, two digits. -/
def readOffset (cs : List Char) : Step Int :=
  if foldCase (cs.take 3) = ['u', 't', 'c'] then .ok (0, cs.drop 3)
  else
    let signed (negative : Bool) (cs : List Char) : Step Int :=
      (readPair cs).bind fun (hours, cs) =>
        (readPair (cs.dropWhile fun c => c == ':' || isBlank c)).bind fun (minutes, cs) =>
          let seconds : Int := hours * 3600 + minutes * 60
          if minutes < 60 then .ok (if negative then -seconds else seconds, cs)
          else .error .outOfRange
    match cs with
    | [] => .error .tooShort
    | c :: cs =>
      if c = 'Z' ∨ c = 'z' then .ok (0, cs)
      else if c = '+' then signed false cs
      else if c = '-' ∨ c = '\u2212' then signed true cs
      else .error .malformed

/-- Reads year, month and day. -/
def readDate (cs : List Char) : Step (Int × Nat × Nat) :=
  (readYear cs).bind fun (year, cs) =>
    (readChar '-' (trimStart cs)).bind fun (_, cs) =>
      (readField 1 12 cs).bind fun (month, cs) =>
        (readChar '-' (trimStart cs)).bind fun (_, cs) =>
          (readField 1 31 cs).map fun (day, cs) => ((year, month, day), cs)

/-- Reads the sign between date and time. -/
def readSeparator : List Char → Step Unit
  | [] => .error .tooShort
  | c :: cs => if c = 'T' ∨ c = 't' ∨ c = ' ' then .ok ((), cs) else .error .malformed

/-- Reads a time of day: its second and nanosecond. Second 60 is a leap second. -/
def readTime (cs : List Char) : Step (Nat × Nat) :=
  (readField 0 23 cs).bind fun (hour, cs) =>
    (readChar ':' (trimStart cs)).bind fun (_, cs) =>
      (readField 0 59 cs).bind fun (minute, cs) =>
        (readChar ':' (trimStart cs)).bind fun (_, cs) =>
          (readField 0 60 cs).bind fun (second, cs) =>
            (readFraction cs).map fun (nano, cs) =>
              let (second, nano) := if second = 60 then (59, nano + 1000000000) else (second, nano)
              ((hour * 3600 + minute * 60 + second, nano), cs)

/-- Reads a timestamp. -/
def Instant.ofText (cs : List Char) : Except TimestampError Instant :=
  (readDate cs).bind fun ((year, month, day), cs) =>
    (readSeparator cs).bind fun (_, cs) =>
      (readTime cs).bind fun ((second, nano), cs) =>
        (readOffset (trimStart cs)).bind fun (offset, cs) =>
          -- Only a text that ends here is looked at as a date.
          if trimStart cs ≠ [] then .error .tooLong
          else
            match Date.of? year month day with
            | none => .error .outOfRange
            | some date =>
              if offset.natAbs < 86400 then
                match Instant.atOffset? date second nano offset with
                | some t => .ok t
                | none => .error .impossible
              else .error .outOfRange

end VisualNovel.Time
