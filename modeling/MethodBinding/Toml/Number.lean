import MethodBinding.Toml.Text

/-!
# Numbers, dates and times

Integers are decimal, or without a sign hexadecimal, octal or binary, and fit a signed word of 64
bits. A floating point number has a fraction or an exponent; one so large that it would be read as
infinity is refused, while a negative one is not. Single underscores may stand between digits.
Dates and times must exist in the calendar and on the clock.
-/

namespace MethodBinding.Toml

/-! ## Digits -/

/-- Digits that satisfy `p`, with single underscores between them. -/
def digits (p : Char → Bool) : Reader (List Char) := do
  let first ← Reader.char p
  return first :: (← Reader.many (Reader.char p <|> (do Reader.text "_"; Reader.char p)))

def sign : Reader Bool := do
  match ← Reader.optional (Reader.char fun c => c == '+' || c == '-') with
  | some c => return c == '-'
  | none => return false

/-- Decimal digits without a leading zero. -/
def wholeDigits : Reader (List Char) := do
  let ds ← digits (·.isDigit)
  if ds.head? = some '0' ∧ ds.length ≠ 1 then failure else return ds

/-! ## Integers -/

/-- A number that fits a signed word, which is one that the word gives back. -/
def toWord (n : Int) : Reader Int64 :=
  if (Int64.ofInt n).toInt = n then pure (Int64.ofInt n) else failure

/-- An integer in a base that a mark names. -/
def integerIn (mark : String) (base : Nat) (p : Char → Bool) : Reader Int64 := do
  Reader.text mark
  toWord (ofDigits base (← digits p))

def integer : Reader Int64 :=
  integerIn "0x" 16 isHexDigit <|>
  integerIn "0o" 8 (fun c => '0' ≤ c && c ≤ '7') <|>
  integerIn "0b" 2 (fun c => c == '0' || c == '1') <|> do
    let negative ← sign
    let n := ofDigits 10 (← wholeDigits)
    toWord (if negative then -(n : Int) else n)

/-! ## Floating point numbers -/

/-- Whether `coefficient * 10 ^ exponent` is nearer to infinity than to any finite number: the last
finite number is `2 ^ 1024 - 2 ^ 971`, and halfway above it lies `2 ^ 1024 - 2 ^ 970`. -/
def overflows (coefficient : Nat) (exponent : Int) : Bool :=
  if coefficient = 0 then false
  else
    let places := (Nat.toDigits 10 coefficient).length + exponent
    if places < 300 then false
    else if 400 < places then true
    else
      let bound := Nat.pow 2 1024 - Nat.pow 2 970
      bound * Nat.pow 10 (-exponent).toNat ≤ coefficient * Nat.pow 10 exponent.toNat

/-- A floating point number, of which nothing but its form is kept. -/
def float : Reader Unit := do
  let negative ← sign
  (Reader.text "inf" <|> Reader.text "nan") <|> do
    let whole ← wholeDigits
    let fraction ← Reader.optional (do Reader.text "."; digits (·.isDigit))
    let exponent ← Reader.optional do
      Reader.text "e" <|> Reader.text "E"
      let down ← sign
      let n := ofDigits 10 (← digits (·.isDigit))
      return if down then -(n : Int) else n
    if fraction.isNone && exponent.isNone then failure
    let behind := fraction.getD []
    let coefficient := ofDigits 10 (whole ++ behind)
    if !negative && overflows coefficient (exponent.getD 0 - behind.length) then failure

/-! ## Dates and times -/

/-- A number of exactly `n` decimal digits between two bounds. -/
def field (n low high : Nat) : Reader Nat := do
  let ds ← Reader.upTo (Reader.char (·.isDigit)) n
  let value := ofDigits 10 ds
  if ds.length = n ∧ low ≤ value ∧ value ≤ high then return value else failure

def isLeapYear (year : Nat) : Bool := year % 4 == 0 && (year % 100 != 0 || year % 400 == 0)

def daysInMonth (year month : Nat) : Nat :=
  if month = 2 then (if isLeapYear year then 29 else 28)
  else if month = 4 ∨ month = 6 ∨ month = 9 ∨ month = 11 then 30
  else 31

def date : Reader Unit := do
  let year ← field 4 0 9999
  Reader.text "-"
  let month ← field 2 1 12
  Reader.text "-"
  discard (field 2 1 (daysInMonth year month))

/-- A time of day; a minute may have a leap second. -/
def time : Reader Unit := do
  discard (field 2 0 23)
  Reader.text ":"
  discard (field 2 0 59)
  Reader.text ":"
  discard (field 2 0 60)
  discard (Reader.optional do
    Reader.text "."
    Reader.takeWhile1 (·.isDigit))

/-- The distance from universal time. -/
def offset : Reader Unit :=
  discard (Reader.char fun c => c == 'Z' || c == 'z') <|> do
    discard (Reader.char fun c => c == '+' || c == '-')
    discard (field 2 0 23)
    Reader.text ":"
    discard (field 2 0 59)

/-- A date, a time, or both. -/
def dateTime : Reader Unit :=
  (do
    date
    discard (Reader.optional do
      discard (Reader.char fun c => c == 'T' || c == 't' || c == ' ')
      time
      discard (Reader.optional offset))) <|> time

end MethodBinding.Toml
