/-!
The fewest decimal digits that read back as a given binary64 number, and two ways to lay them out.
-/

namespace BlockVolumes.Decimal

/-- `digits` tenfold `exponent` times. -/
structure Digits where
  digits : Nat
  exponent : Int

/-- A quarter of `point` times two to the power `scale`; the numbers that round to it reach from
`low` to `high` quarters, ends included if `closed`. -/
structure Interval where
  low : Nat
  point : Nat
  high : Nat
  scale : Int
  closed : Bool

def Interval.ofBits (bits : UInt64) : Interval :=
  let field : Nat := bits.toNat >>> 52 % 1 <<< 11
  let fraction := bits.toNat % 1 <<< 52
  let m := if field = 0 then fraction else fraction + 1 <<< 52
  let scale : Int := (if field = 0 then 1 else field : Nat) - 1077
  let low := if fraction = 0 && 1 < field then 4 * m - 1 else 4 * m - 2
  ⟨low, 4 * m, 4 * m + 2, scale, m % 2 == 0⟩

/-- `digits` at ten to the power `k` and `quarters` at two to the power `scale`, over a common
denominator. -/
def common (digits : Nat) (k : Int) (quarters : Nat) (scale : Int) : Nat × Nat :=
  ((digits * Nat.pow 10 k.toNat) <<< (-scale).toNat,
    (quarters * Nat.pow 10 (-k).toNat) <<< scale.toNat)

def Interval.holds (i : Interval) (digits : Nat) (k : Int) : Bool :=
  let (d, low) := common digits k i.low i.scale
  let (_, high) := common digits k i.high i.scale
  if i.closed then low ≤ d && d ≤ high else low < d && d < high

def Interval.below (i : Interval) (k : Int) : Nat :=
  let (unit, point) := common 1 k i.point i.scale
  point / unit

def Interval.distance (i : Interval) (digits : Nat) (k : Int) : Nat :=
  let (d, point) := common digits k i.point i.scale
  (d - point) + (point - d)

def Interval.magnitude (i : Interval) : Int :=
  let shift := 400
  let (unit, point) := common 1 (-shift) i.point i.scale
  ((Nat.toDigits 10 (point / unit)).length : Int) - 1 - shift

/-- Tries the grids with ever more digits; of two neighbours on the first grid that has one inside,
the nearer one, and the even one of equally near ones. -/
def Interval.search (i : Interval) : (tries : Nat) → (k : Int) → Digits
  | 0, k => ⟨i.below k, k⟩
  | tries + 1, k =>
    let down := i.below k
    let up := down + 1
    match i.holds down k, i.holds up k with
    | true, false => ⟨down, k⟩
    | false, true => ⟨up, k⟩
    | true, true =>
      let toDown := i.distance down k
      let toUp := i.distance up k
      if toDown < toUp || (toDown == toUp && down % 2 == 0) then ⟨down, k⟩ else ⟨up, k⟩
    | false, false => i.search tries (k - 1)

def Digits.trimmed (d : Digits) : Digits :=
  if d.digits % 10 = 0 ∧ 0 < d.digits then trimmed ⟨d.digits / 10, d.exponent + 1⟩ else d
termination_by d.digits

/-- Seventeen digits always suffice. -/
def shortest (bits : UInt64) : Digits :=
  let i := Interval.ofBits bits
  if i.point = 0 then ⟨0, 0⟩ else (i.search 17 i.magnitude).trimmed

def zeros (n : Int) : List Char := List.replicate n.toNat '0'

/-- Every digit up to the units, a point, and at least one digit after it. -/
def Digits.positional (d : Digits) : List Char :=
  let ds := Nat.toDigits 10 d.digits
  if 0 ≤ d.exponent then ds ++ zeros d.exponent ++ ['.', '0']
  else
    let lead := ds.length + d.exponent
    if 0 < lead then ds.take lead.toNat ++ '.' :: ds.drop lead.toNat
    else '0' :: '.' :: (zeros (-lead) ++ ds)

def Digits.scientific (d : Digits) : List Char :=
  let ds := Nat.toDigits 10 d.digits
  let power := d.exponent + ds.length - 1
  let size := Nat.toDigits 10 power.natAbs
  let lead := match ds with
    | [] => []
    | [c] => [c]
    | c :: rest => c :: '.' :: rest
  lead ++ 'e' :: (if power < 0 then '-' else '+') ::
    (if size.length < 2 then '0' :: size else size)

def isNegative (bits : UInt64) : Bool := 1 <<< 63 ≤ bits.toNat

def signed (bits : UInt64) (text : List Char) : List Char :=
  if isNegative bits then '-' :: text else text

/-- Positional from 0.00001 up to ten to the sixteenth, scientific elsewhere. -/
def general (bits : UInt64) : List Char :=
  let d := shortest bits
  let power := d.exponent + (Nat.toDigits 10 d.digits).length - 1
  signed bits (if -5 ≤ power ∧ power ≤ 15 then d.positional else d.scientific)

def plain (bits : UInt64) : List Char :=
  let field := bits.toNat >>> 52 % 1 <<< 11
  if field = 2047 then
    if bits.toNat % 1 <<< 52 = 0 then signed bits ['i', 'n', 'f'] else ['N', 'a', 'N']
  else signed bits (shortest bits).positional

end BlockVolumes.Decimal
