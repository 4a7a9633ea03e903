import Mathlib

namespace ReactOs

/-- `isspace`. -/
def isSpace (c : Char) : Bool :=
  c = ' ' || c = '\t' || c = '\n' || c = '\x0B' || c = '\x0C' || c = '\r'

/-- The value of a run of decimal digits, most significant first. -/
def decimalValue (ds : List Char) : Nat :=
  ds.foldl (fun n d => 10 * n + (d.toNat - '0'.toNat)) 0

/-- `LONG_MIN` and `LONG_MAX` of a 64-bit `long`, where `strtol` clamps its value. -/
def clampLong (v : Int) : Int :=
  max (-2 ^ 63) (min (2 ^ 63 - 1) v)

/-- The digits of `strtol(s, &endptr, 10)` after the sign, `u`: without a digit the value is 0
and `endptr` is `s` itself. -/
def strtolDigits (s : List Char) (neg : Bool) (u : List Char) : Int × List Char :=
  let ds := u.takeWhile Char.isDigit
  if ds = [] then (0, s)
  else (clampLong (if neg then -(decimalValue ds : Int) else decimalValue ds),
    u.dropWhile Char.isDigit)

/-- `strtol(s, &endptr, 10)`: white space, an optional sign, then the longest run of digits.
The value, and the characters from `endptr` on. -/
def strtol (s : List Char) : Int × List Char :=
  match s.dropWhile isSpace with
  | '-' :: u => strtolDigits s true u
  | '+' :: u => strtolDigits s false u
  | u => strtolDigits s false u

/-- The conversion of a `long` to `int`, implementation-defined: gcc keeps the low 32 bits. -/
def longToInt (v : Int) : Int :=
  (v + 2 ^ 31) % 2 ^ 32 - 2 ^ 31

/-- `atoi` as glibc defines it, `(int) strtol(s, NULL, 10)`: a value past the range of `long`
is clamped to it, then cut to its low 32 bits. -/
def atoi (s : String) : Int :=
  longToInt (strtol s.toList).1

end ReactOs
