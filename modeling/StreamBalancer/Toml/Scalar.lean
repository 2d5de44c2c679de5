import StreamBalancer.Text.Decimal
import StreamBalancer.Text.Split
import StreamBalancer.Toml.Value

/-!
# StreamBalancer.Toml.Scalar

Values that are written as one word: booleans, integers, floats and date-times.
A word is read as a whole, so nothing of it is left over.

1. Digits may be grouped by single underscores, each between two digits.
2. Decimal numbers have no leading zeros and may have a sign; the prefixes `0x`,
   `0o` and `0b` are lower case and stand without a sign.
3. Integers are 64-bit and signed.
4. A float has a fraction, an exponent or both; one too large for a double is an
   error, unless it is negative.
5. Dates exist in the calendar; times allow a leap second.
-/

namespace StreamBalancer.Toml

/-! ## Digits -/

/-- The value of a digit in bases up to sixteen. -/
def hexDigit? (c : Char) : Option Nat :=
  if '0' ≤ c ∧ c ≤ '9' then some (c.toNat - '0'.toNat)
  else if 'a' ≤ c ∧ c ≤ 'f' then some (c.toNat - 'a'.toNat + 10)
  else if 'A' ≤ c ∧ c ≤ 'F' then some (c.toNat - 'A'.toNat + 10)
  else none

/-- The value of a digit in a base. -/
def digitIn? (base : Nat) (c : Char) : Option Nat := (hexDigit? c).filter (· < base)

/-- Take the underscores out of grouped digits.  `after` says that a digit has
just gone by. -/
def ungroup? (base : Nat) : (after : Bool) → List Char → Option (List Char)
  | after, [] => if after then some [] else none
  | after, c :: cs =>
    if c = '_' then if after then ungroup? base false cs else none
    else if (digitIn? base c).isSome then (ungroup? base true cs).map (c :: ·)
    else none

/-- The number that digits of a base write. -/
def ofDigits (base : Nat) (cs : List Char) : Nat :=
  cs.foldl (fun n c => base * n + (digitIn? base c).getD 0) 0

/-- The number that grouped digits of a base write. -/
def grouped? (base : Nat) (cs : List Char) : Option Nat :=
  (ungroup? base false cs).map (ofDigits base)

/-- Split a sign off; `true` for a minus. -/
def sign (cs : List Char) : Bool × List Char :=
  match cs with
  | '-' :: rest => (true, rest)
  | '+' :: rest => (false, rest)
  | _ => (false, cs)

/-- Whether grouped decimal digits have no leading zero. -/
def hasNoLeadingZero : List Char → Bool
  | '0' :: _ :: _ => false
  | _ => true

/-- The number that a decimal integer without a sign writes. -/
def decimal? (cs : List Char) : Option Nat :=
  if hasNoLeadingZero cs then grouped? 10 cs else none

/-! ## Integers -/

/-- Keep an integer that 64 bits with a sign can hold. -/
def inRange? (n : Int) : Option Int :=
  if -9223372036854775808 ≤ n ∧ n ≤ 9223372036854775807 then some n else none

/-- Read an integer. -/
def integer? (cs : List Char) : Option Int :=
  match cs with
  | '0' :: 'x' :: rest => (grouped? 16 rest).bind fun n => inRange? n
  | '0' :: 'o' :: rest => (grouped? 8 rest).bind fun n => inRange? n
  | '0' :: 'b' :: rest => (grouped? 2 rest).bind fun n => inRange? n
  | _ =>
    match sign cs with
    | (negative, digits) =>
      (decimal? digits).bind fun n => inRange? (if negative then -(n : Int) else n)

/-! ## Floats -/

/-- Whether the decimal `digits × 10 ^ exponent` rounds to infinity as a double:
it is at least half a unit above the largest finite one. -/
def overflows (digits : List Char) (exponent : Int) : Bool :=
  let significant := digits.dropWhile (· == '0')
  let magnitude : Int := significant.length + exponent
  if significant.isEmpty || magnitude < 300 then false
  else if 400 < magnitude then true
  else
    let limit := Nat.pow 2 1024 - Nat.pow 2 970
    let n := ofDigits 10 significant
    if 0 ≤ exponent then limit ≤ n * Nat.pow 10 exponent.toNat
    else limit * Nat.pow 10 (-exponent).toNat ≤ n

/-- Cut a float into the part before the exponent and the exponent. -/
def cutExponent (cs : List Char) : List Char × Option (List Char) :=
  let mantissa := cs.takeWhile fun c => c != 'e' && c != 'E'
  match cs.drop mantissa.length with
  | [] => (mantissa, none)
  | _ :: exponent => (mantissa, some exponent)

/-- The value of an exponent, `none` if it is badly written. -/
def exponent? : Option (List Char) → Option Int
  | none => some 0
  | some cs =>
    match sign cs with
    | (negative, digits) =>
      (grouped? 10 digits).map fun n => if negative then -(n : Int) else n

/-- Whether a word is a float. -/
def isFloat (cs : List Char) : Bool :=
  match sign cs with
  | (negative, body) =>
    body == ['i', 'n', 'f'] || body == ['n', 'a', 'n'] ||
      match cutExponent body with
      | (mantissa, exponent) =>
        match Text.cutAtFirst ['.'] mantissa, exponent? exponent with
        | some (whole, fraction), some e =>
          match decimal? whole, ungroup? 10 false whole, ungroup? 10 false fraction with
          | some _, some whole, some fraction =>
            negative || !overflows (whole ++ fraction) (e - fraction.length)
          | _, _, _ => false
        | none, some e =>
          match decimal? mantissa, ungroup? 10 false mantissa with
          | some _, some whole => exponent.isSome && (negative || !overflows whole e)
          | _, _ => false
        | _, none => false

/-! ## Date-times -/

/-- The number that exactly `n` digits at the front write, and what follows. -/
def fixedDigits? (n : Nat) (cs : List Char) : Option (Nat × List Char) :=
  let front := cs.take n
  if front.length = n ∧ front.all fun c => (Text.digit? c).isSome then
    some (ofDigits 10 front, cs.drop n)
  else none

/-- What follows an expected character. -/
def expect? (c : Char) : List Char → Option (List Char)
  | [] => none
  | d :: rest => if c = d then some rest else none

/-- Number of days in a month. -/
def daysIn (year month : Nat) : Nat :=
  if month = 2 then
    if year % 4 = 0 ∧ (year % 100 ≠ 0 ∨ year % 400 = 0) then 29 else 28
  else if month = 4 ∨ month = 6 ∨ month = 9 ∨ month = 11 then 30
  else 31

/-- What follows a date. -/
def afterDate? (cs : List Char) : Option (List Char) := do
  let (year, cs) ← fixedDigits? 4 cs
  let (month, cs) ← fixedDigits? 2 (← expect? '-' cs)
  let (day, cs) ← fixedDigits? 2 (← expect? '-' cs)
  if 1 ≤ month ∧ month ≤ 12 ∧ 1 ≤ day ∧ day ≤ daysIn year month then some cs else none

/-- What follows hours and minutes. -/
def afterMinutes? (cs : List Char) : Option (List Char) := do
  let (hour, cs) ← fixedDigits? 2 cs
  let (minute, cs) ← fixedDigits? 2 (← expect? ':' cs)
  if hour ≤ 23 ∧ minute ≤ 59 then some cs else none

/-- What follows a fraction of a second, if there is one. -/
def afterFraction? (cs : List Char) : Option (List Char) :=
  match cs with
  | '.' :: rest =>
    let after := rest.dropWhile fun c => (Text.digit? c).isSome
    if after.length < rest.length then some after else none
  | _ => some cs

/-- What follows a time. -/
def afterTime? (cs : List Char) : Option (List Char) := do
  let (second, cs) ← fixedDigits? 2 (← expect? ':' (← afterMinutes? cs))
  if second ≤ 60 then afterFraction? cs else none

/-- What follows an offset from universal time, if there is one. -/
def afterOffset? (cs : List Char) : Option (List Char) :=
  match cs with
  | 'Z' :: rest | 'z' :: rest => some rest
  | '+' :: rest | '-' :: rest => afterMinutes? rest
  | _ => some cs

/-- Whether a word is a date, a time, or both with or without an offset. -/
def isDatetime (cs : List Char) : Bool :=
  afterTime? cs == some [] ||
    match afterDate? cs with
    | some [] => true
    | some (delimiter :: rest) =>
      (delimiter == 'T' || delimiter == 't' || delimiter == ' ') &&
        (afterTime? rest).bind afterOffset? == some []
    | none => false

/-! ## Words -/

/-- Read a word. -/
def scalar? (cs : List Char) : Option Value :=
  if cs = ['t', 'r', 'u', 'e'] then some (.boolean true)
  else if cs = ['f', 'a', 'l', 's', 'e'] then some (.boolean false)
  else
    match integer? cs with
    | some n => some (.integer n)
    | none => if isDatetime cs then some .datetime else if isFloat cs then some .float else none

/-- Whether a word can contain a character. -/
def isWordChar (c : Char) : Bool :=
  c.isAlphanum || c == '_' || c == '+' || c == '-' || c == '.' || c == ':'

/-- The word at the front, and what follows.  A date takes in a time after one
space. -/
def word (cs : List Char) : List Char × List Char :=
  let front := cs.takeWhile isWordChar
  let rest := cs.drop front.length
  match afterDate? front, rest with
  | some [], ' ' :: next =>
    let time := next.takeWhile isWordChar
    if (fixedDigits? 2 time).isSome then (front ++ ' ' :: time, next.drop time.length)
    else (front, rest)
  | _, _ => (front, rest)

end StreamBalancer.Toml
