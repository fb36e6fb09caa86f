-- SUMMARY: Decimal text for binary floating-point numbers, read and written exactly.

/-! # Decimals

A finite floating-point number of 64 bits is a whole number of units, where the unit
is a power of two. Reading takes the number that is nearest to the decimal. Of two
numbers equally near it takes the one with an even count of units. Writing takes the
shortest decimal that reads back, and of the shortest ones the nearest. If two of those are
equally near, the format decides between them. All of the arithmetic here is exact and
works on natural numbers. -/

namespace AudioPolicy.Decimal

/-- A power of two. -/
def pow2 (n : Nat) : Nat := Nat.pow 2 n

/-- A power of ten. -/
def pow10 (n : Nat) : Nat := Nat.pow 10 n

/-! ## Rounding -/

/-- The quotient of two numbers rounded to the nearest whole number, halves to even. -/
def roundDiv (num den : Nat) : Nat :=
  let quotient := num / den
  let remainder := num % den
  if 2 * remainder > den || (2 * remainder == den && quotient % 2 == 1) then quotient + 1
  else quotient

/-- The positive number of `units` units of size `2 ^ exponent`, where the count takes
    at most 53 bits and fewer only for the smallest unit. -/
def assemble (units : Nat) (exponent : Int) : Float :=
  if units < pow2 52 then Float.ofBits units.toUInt64
  else
    let bits := (exponent + 1075).toNat * pow2 52 + (units - pow2 52)
    Float.ofBits (min bits (2047 * pow2 52)).toUInt64

/-- The number nearest to `num / den`, for positive `num` and `den`. -/
def ofRatio (num den : Nat) : Float :=
  let scale (exponent : Int) : Nat × Nat :=
    if 0 ≤ exponent then (num, den * pow2 exponent.toNat) else (num * pow2 (-exponent).toNat, den)
  let guess : Int := (num.log2 : Int) - (den.log2 : Int) - 52
  let (n, d) := scale guess
  let exponent := max (if n / d < pow2 52 then guess - 1 else guess) (-1074)
  let (n, d) := scale exponent
  assemble (roundDiv n d) exponent

/-- The number nearest to `digits * 10 ^ exponent`. Far outside the range of numbers
    the answer is known without the powers. -/
def toFloat (digits : Nat) (exponent : Int) : Float :=
  if digits = 0 then 0.0
  else if 400 < exponent then Float.ofBits 0x7FF0000000000000
  else if exponent < -400 - (digits.log2 : Int) then 0.0
  else if 0 ≤ exponent then ofRatio (digits * pow10 exponent.toNat) 1
  else ofRatio digits (pow10 (-exponent).toNat)

/-! ## Reading -/

/-- The value of a run of ASCII digits in front of which `value` was read, the count of
    digits, and the rest. -/
def digitRun (value count : Nat) : List Char → Nat × Nat × List Char
  | [] => (value, count, [])
  | c :: cs =>
    if '0' ≤ c ∧ c ≤ '9' then digitRun (10 * value + (c.toNat - '0'.toNat)) (count + 1) cs
    else (value, count, c :: cs)

/-- A sign and the text behind it. -/
def sign : List Char → Bool × List Char
  | '-' :: cs => (true, cs)
  | '+' :: cs => (false, cs)
  | cs => (false, cs)

/-- The exponent part of a decimal, to the end of the text. -/
def exponent? : List Char → Option Int
  | [] => some 0
  | c :: cs =>
    if c = 'e' ∨ c = 'E' then
      let (negative, cs) := sign cs
      match digitRun 0 0 cs with
      | (value, count, []) => if count = 0 then none else some (if negative then -value else value)
      | _ => none
    else none

/-- The digits and the exponent of an unsigned decimal. The point may stand anywhere,
    and there has to be a digit. -/
def unsigned? (cs : List Char) : Option (Nat × Int) :=
  let (whole, count, rest) := digitRun 0 0 cs
  let (digits, total, places, rest) :=
    match rest with
    | '.' :: rest =>
      let (digits, total, rest) := digitRun whole count rest
      (digits, total, total - count, rest)
    | rest => (whole, count, 0, rest)
  if total = 0 then none else (exponent? rest).map fun e => (digits, e - places)

/-- The lower-case form of an ASCII letter. -/
def lower (c : Char) : Char := if 'A' ≤ c ∧ c ≤ 'Z' then Char.ofNat (c.toNat + 32) else c

/-- Reads a decimal, an infinity or a text for no number, with whether it was negative. -/
def read? (text : String) : Option (Bool × Float) :=
  let (negative, cs) := sign text.toList
  let word := String.ofList (cs.map lower)
  let magnitude : Option Float :=
    if word = "inf" ∨ word = "infinity" then some (Float.ofBits 0x7FF0000000000000)
    else if word = "nan" then some (Float.ofBits 0x7FF8000000000000)
    else (unsigned? cs).map fun (digits, e) => toFloat digits e
  magnitude.map fun x => (negative, if negative then -x else x)

/-! ## Writing -/

/-- The units and the exponent of the unit of a finite number, without its sign. -/
def units (x : Float) : Nat × Int :=
  let bits := x.toBits.toNat % pow2 63
  let fraction := bits % pow2 52
  let exponent : Nat := bits / pow2 52
  if exponent = 0 then (fraction, -1074) else (fraction + pow2 52, (exponent : Int) - 1075)

/-- Whether the sign bit of a number is set. -/
def isNegative (x : Float) : Bool := x.toBits.toNat ≥ pow2 63

/-- The count of decimal digits of a number. -/
def width (n : Nat) : Nat := (Nat.toDigits 10 n).length

/-- The least `k` with `num / den < 10 ^ k`, for positive `num` and `den`. -/
def decade (num den : Nat) : Int :=
  if den ≤ num then width (num / den)
  else
    let k := width (den / num)
    if den ≤ num * pow10 (k - 1) then 2 - k else 1 - k

/-- Which one of two decimals that are equally near is written. -/
inductive Tie
  /-- The one with an even last digit. -/
  | even
  /-- The one further from zero. -/
  | up
  deriving DecidableEq, Repr

/-- The decimal with `n` digits that is nearest to the value among those between the
    bounds. Value, lower and upper bound are fractions over `den`, and `closed` says
    whether the bounds belong to the interval. -/
def withDigits? (tie : Tie) (value lower upper den : Nat) (closed : Bool) (k : Int) (n : Nat) :
    Option (Nat × Int) :=
  let e := k - n
  let up := if e < 0 then pow10 (-e).toNat else 1
  let step := if e < 0 then den else den * pow10 e.toNat
  let below := value * up / step
  let above := below + 1
  let belowFits := lower * up < below * step || (closed && lower * up == below * step)
  let aboveFits := above * step < upper * up || (closed && above * step == upper * up)
  let belowIsNearer :=
    2 * (value * up) < (below + above) * step
      || (2 * (value * up) == (below + above) * step && tie == .even && below % 2 == 0)
  if belowFits && (belowIsNearer || !aboveFits) then some (below, e)
  else if aboveFits then some (above, e)
  else none

/-- Moves the zeros at the end of the digits into the exponent. -/
def withoutZeros : Nat → Nat × Int → Nat × Int
  | 0, d => d
  | fuel + 1, (digits, e) =>
    if digits % 10 = 0 && digits != 0 then withoutZeros fuel (digits / 10, e + 1) else (digits, e)

/-- The digits and the exponent of the shortest decimal that reads back as the positive
    finite number `x`. -/
def shortest (tie : Tie) (x : Float) : Nat × Int :=
  let (m, q) := units x
  let lower := if m = pow2 52 ∧ -1074 < q then 4 * m - 1 else 4 * m - 2
  let up := if 2 ≤ q then pow2 (q - 2).toNat else 1
  let den := if q < 2 then pow2 (2 - q).toNat else 1
  let k := decade (4 * m * up) den
  let found := (List.range 17).findSome? fun n =>
    withDigits? tie (4 * m * up) (lower * up) ((4 * m + 2) * up) den (m % 2 == 0) k (n + 1)
  withoutZeros 20 (found.getD (m, q))

/-- The digits with a point `places` digits before their end. -/
def pointed (digits : String) (places : Nat) : String :=
  let cs := digits.toList
  if places < cs.length then
    String.ofList (cs.take (cs.length - places) ++ '.' :: cs.drop (cs.length - places))
  else "0." ++ String.ofList (List.replicate (places - cs.length) '0') ++ digits

/-- The digits with zeros behind them. -/
def padded (digits : String) (zeros : Nat) : String :=
  digits ++ String.ofList (List.replicate zeros '0')

/-- The texts for a number that has no digits of its own. -/
def special? (x : Float) : Option String :=
  if x.isNaN then some "NaN"
  else if x.isInf then some (if isNegative x then "-inf" else "inf")
  else none

/-- The positional text of a number: no exponent, and no point if there is nothing
    behind it. A tie goes up. -/
def positional (x : Float) : String :=
  match special? x with
  | some text => text
  | none =>
    let body :=
      if (units x).1 = 0 then "0"
      else
        let (digits, e) := shortest .up x
        if 0 ≤ e then padded (toString digits) e.toNat else pointed (toString digits) (-e).toNat
    if isNegative x then "-" ++ body else body

/-- The text of a finite number in a document. It is positional with at least one place
    for exponents up to 16 and down to -5, and has an exponent elsewhere. A tie goes to the
    even digit. -/
def scientific (x : Float) : String :=
  let body :=
    if (units x).1 = 0 then "0.0"
    else
      let (digits, e) := shortest .even x
      let text := toString digits
      let point : Int := text.length + e
      if 0 ≤ e ∧ point ≤ 16 then padded text e.toNat ++ ".0"
      else if e < 0 ∧ -5 < point ∧ point ≤ 16 then pointed text (-e).toNat
      else
        let mantissa := if text.length = 1 then text else pointed text (text.length - 1)
        mantissa ++ "e" ++ toString (point - 1)
  if isNegative x then "-" ++ body else body

end AudioPolicy.Decimal
