/-!
The text of a double in messages. A double is a pair of naturals `m · 2 ^ q`; the decimals that read
back as it fill an interval around it, and the text uses the fewest digits of any decimal in that
interval, the nearest one if there are several. The text always has a point; it is in positional
notation for magnitudes from `10 ^ -5` up to `10 ^ 16`, and has one digit before the point and an
exponent outside that range.
-/

set_option autoImplicit false

namespace RestGraph.Decimal

/-- A finite double without its sign: `significand · 2 ^ exponent`. The gap to the next smaller
double is half as wide as the one above exactly when `narrow` holds. -/
structure Binary where
  significand : Nat
  exponent : Int
  narrow : Bool
  deriving DecidableEq

structure Scientific where
  digits : Nat
  exponent : Int
  deriving DecidableEq

def Binary.ofBits (bits : UInt64) : Binary :=
  let leading := Nat.pow 2 52
  let fraction := bits.toNat % leading
  let field := bits.toNat / leading % Nat.pow 2 11
  if field = 0 then ⟨fraction, -1074, false⟩
  else ⟨leading + fraction, (field : Int) - 1075, fraction == 0 && decide (1 < field)⟩

/-- The interval of the reals that read back as a double, over a common denominator: the value and
the distances to its two ends are the naturals divided by `unit`. -/
structure Interval where
  value : Nat
  below : Nat
  above : Nat
  unit : Nat
  closed : Bool

def Binary.interval (b : Binary) : Interval :=
  let up := Nat.pow 2 b.exponent.toNat
  let down := Nat.pow 2 (-b.exponent).toNat
  ⟨4 * b.significand * up, if b.narrow then up else 2 * up, 2 * up, 4 * down,
    b.significand % 2 == 0⟩

def Interval.holds (i : Interval) (d : Nat) (k : Int) : Bool :=
  let point := d * Nat.pow 10 k.toNat * i.unit
  let scale := Nat.pow 10 (-k).toNat
  let low := (i.value - i.below) * scale
  let high := (i.value + i.above) * scale
  if i.closed then decide (low ≤ point) && decide (point ≤ high)
  else decide (low < point) && decide (point < high)

/-- The decimal with the exponent `k` that is nearest to the value among its two neighbours on the
grid of that exponent, if one of them reads back. An exact tie goes to the even digit. -/
def Interval.onGrid? (i : Interval) (k : Int) : Option Scientific :=
  let num := i.value * Nat.pow 10 (-k).toNat
  let den := i.unit * Nat.pow 10 k.toNat
  let floor := num / den
  let rest := 2 * (num % den)
  let nearer := if rest < den ∨ (rest = den ∧ floor % 2 = 0) then floor else floor + 1
  let farther := if nearer = floor then floor + 1 else floor
  if i.holds nearer k && decide (0 < nearer) then some ⟨nearer, k⟩
  else if i.holds farther k && decide (0 < farther) then some ⟨farther, k⟩
  else none

/-- The first grid, from the coarsest on, on which the double has a decimal. -/
def Interval.search (i : Interval) : Nat → Int → Scientific
  | 0, k => ⟨i.value / i.unit, k⟩
  | steps + 1, k =>
    match i.onGrid? k with
    | some d => d
    | none => i.search steps (k - 1)

def Binary.shortest (b : Binary) : Scientific :=
  b.interval.search 700 309

def stripZeros : List Char → List Char × Nat
  | [] => ([], 0)
  | c :: rest =>
    match stripZeros rest with
    | ([], zeros) => if c = '0' then ([], zeros + 1) else ([c], zeros)
    | (kept, zeros) => (c :: kept, zeros)

/-- Lays out decimal digits whose point stands `point` places after their start. -/
def layout (digits : List Char) (point : Int) : List Char :=
  let count : Int := digits.length
  if count ≤ point ∧ point ≤ 16 then
    digits ++ List.replicate (point - count).toNat '0' ++ ['.', '0']
  else if 0 < point ∧ point ≤ 16 then
    digits.take point.toNat ++ '.' :: digits.drop point.toNat
  else if -5 < point ∧ point ≤ 0 then
    '0' :: '.' :: (List.replicate (-point).toNat '0' ++ digits)
  else
    let mark := if 0 < point - 1 then ['e', '+'] else ['e', '-']
    let exponent := mark ++ Nat.toDigits 10 (point - 1).natAbs
    match digits with
    | [] => exponent
    | [d] => d :: exponent
    | d :: rest => d :: '.' :: (rest ++ exponent)

def text (bits : UInt64) : String :=
  let sign := if bits.toNat < Nat.pow 2 63 then [] else ['-']
  let magnitude := Binary.ofBits bits
  if magnitude.significand = 0 then String.ofList (sign ++ ['0', '.', '0'])
  else
    let shortest := magnitude.shortest
    let (digits, zeros) := stripZeros (Nat.toDigits 10 shortest.digits)
    String.ofList (sign ++ layout digits (digits.length + shortest.exponent + zeros))

end RestGraph.Decimal
