import Greenhouse.Numeric.F64

/-!
# Decimal text of numbers

The texts the standard formatter prints. `fixed p q` is `{:.p}` (ties to even, as for
an exactly represented value); `display` is `{}`, the shortest decimal of the value,
which here is its exact expansion, cut at 17 places; `formatG` is `%g` and `pyFloat` the text of
a Python float. `F64.toJson` is a number as JSON writes it.
-/

namespace Greenhouse.Numeric

/-- `q` rounded to the nearest integer, ties to even. -/
def roundHalfEven (q : ℚ) : Int :=
  let n := ⌊q⌋
  let r := q - n
  if r < 1 / 2 then n
  else if 1 / 2 < r then n + 1
  else if n % 2 = 0 then n else n + 1

/-- The decimal digits of `n`, padded with zeros on the left to length `width`. -/
def padded (width n : Nat) : List Char :=
  let digits := (toString n).toList
  List.replicate (width - digits.length) '0' ++ digits

/-- A magnitude with exactly `places` decimal places. -/
def fixedAbs (places : Nat) (q : ℚ) : List Char :=
  let scaled := (roundHalfEven (q * 10 ^ places)).toNat
  let whole := (toString (scaled / 10 ^ places)).toList
  if places = 0 then whole else whole ++ '.' :: padded places (scaled % 10 ^ places)

def signed (q : ℚ) (magnitude : List Char) : String :=
  String.ofList (if q < 0 then '-' :: magnitude else magnitude)

/-- Drop trailing zeros of the fraction, and the point when nothing is left of it. -/
def trimZeros (s : List Char) : List Char :=
  let kept := (s.reverse.dropWhile (· == '0'))
  (if kept.head? = some '.' then kept.tail else kept).reverse

namespace F64

/-- `{:.places}`. -/
def fixed (places : Nat) : F64 → String
  | .nan => "NaN"
  | .negInf => "-inf"
  | .posInf => "inf"
  | .fin q => signed q (fixedAbs places |q|)

/-- `{}`. -/
def display : F64 → String
  | .nan => "NaN"
  | .negInf => "-inf"
  | .posInf => "inf"
  | .fin q => signed q (trimZeros (fixedAbs 17 |q|))

example : (F64.fin (85 / 4)).fixed 1 = "21.2" := by decide +kernel

example : (F64.fin (-41 / 2)).display = "-20.5" := by decide +kernel

end F64

/-! ## The verb `%g` -/

/-- The exponent of the leading digit of a positive number, at least `-400`. -/
def exponent10 (q : ℚ) : Int :=
  if 1 ≤ q then (toString ⌊q⌋.toNat).length - 1
  else -((List.range 400).find? fun k => 1 ≤ q * 10 ^ k).getD 400

/-- `%g`: plain for exponents from `-4` to `5`, else in exponent form. -/
def formatG (q : ℚ) : String :=
  if q = 0 then "0"
  else
    let e := exponent10 |q|
    if -4 ≤ e ∧ e < 6 then signed q (trimZeros (fixedAbs 17 |q|))
    else
      let mantissa := trimZeros (fixedAbs 17 (|q| / (10 : ℚ) ^ e))
      signed q (mantissa ++ ['e', if e < 0 then '-' else '+'] ++ padded 2 e.natAbs)

example : formatG (-41 / 2) = "-20.5" := by decide +kernel

example : formatG 2147483648 = "2.147483648e+09" := by decide +kernel

/-! ## Python floats -/

/-- `str` of a float: plain for exponents from `-4` to `15`, with a fraction. -/
def pyFloat (q : ℚ) : String :=
  if q = 0 then "0.0"
  else
    let e := exponent10 |q|
    if -4 ≤ e ∧ e < 16 then
      let digits := trimZeros (fixedAbs 17 |q|)
      signed q (if '.' ∈ digits then digits else digits ++ ['.', '0'])
    else
      let mantissa := trimZeros (fixedAbs 17 (|q| / (10 : ℚ) ^ e))
      signed q (mantissa ++ ['e', if e < 0 then '-' else '+'] ++ padded 2 e.natAbs)

example : pyFloat 60 = "60.0" := by decide +kernel

/-- `{:g}` of a float: six significant digits. -/
def pyGeneral (q : ℚ) : String :=
  if q = 0 then "0"
  else
    let e := exponent10 |q|
    -- rounding to six digits may carry into the next power of ten
    let e := if roundHalfEven (|q| / (10 : ℚ) ^ (e - 5)) = 1000000 then e + 1 else e
    let trimmed (places : Nat) (r : ℚ) : List Char :=
      if places = 0 then fixedAbs 0 r else trimZeros (fixedAbs places r)
    if -4 ≤ e ∧ e < 6 then signed q (trimmed (5 - e).toNat |q|)
    else signed q (trimmed 5 (|q| / (10 : ℚ) ^ e)
      ++ ['e', if e < 0 then '-' else '+'] ++ padded 2 e.natAbs)

example : pyGeneral 90 = "90" := by decide +kernel

/-! ## Numbers in JSON -/

/-- The JSON scalars an error echoes back. -/
inductive Json where
  | null
  | number (q : ℚ)
  | string (s : String)
  deriving DecidableEq

/-- A number in JSON; a non-finite one is written as `null`. -/
def F64.toJson : F64 → Json
  | .fin q => .number q
  | _ => .null

end Greenhouse.Numeric
