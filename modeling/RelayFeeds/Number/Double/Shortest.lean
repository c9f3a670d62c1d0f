import RelayFeeds.Number.Double

/-! # Shortest decimals — the fewest digits that read back

The text of a double has the fewest significant digits among the decimals that round to it, and the
nearest of those. They are found on decimal grids `10 ^ k`, from the coarsest down: the first grid
with a point in the interval of the reals that round to the double wins. Digits are written
positionally for decimal exponents from −5 to 15, always with a fraction, and with an explicitly
signed exponent elsewhere. -/

namespace RelayFeeds.Double

/-- The point nearest to a positive magnitude on the grid `10 ^ grid`, if it rounds to it. -/
def gridPoint? (magnitude : Nat) (grid : Int) : Option Nat :=
  let m := significand magnitude
  let value := ratioOf (4 * m) (exponent magnitude - 2)
  let num := value.1 * (match grid with
    | .ofNat _ => 1
    | .negSucc k => Nat.pow 10 (k + 1))
  let den := value.2 * (match grid with
    | .ofNat k => Nat.pow 10 k
    | .negSucc _ => 1)
  -- half a unit down and half a unit up round to the double, a quarter down at a power of two
  let quarter := num / (4 * m)
  let below := if m = leadingWeight && exponent magnitude != -1074 then quarter else 2 * quarter
  let low := num - below
  let high := num + 2 * quarter
  let inside := fun (point : Nat) =>
    if m % 2 = 0 then low ≤ point * den && point * den ≤ high
    else low < point * den && point * den < high
  let floor := num / den
  let remainder := num % den
  let upFirst := den < 2 * remainder || (den == 2 * remainder && floor % 2 == 1)
  let candidates := if upFirst then [floor + 1, floor] else [floor, floor + 1]
  candidates.find? inside

/-- The first grid at or below a power of ten that has a point rounding to a positive magnitude,
with that point; the grids tried are counted down. -/
def coarsest (magnitude : Nat) (grid : Int) : Nat → Nat × Int
  | 0 => (0, grid)
  | tries + 1 =>
    match gridPoint? magnitude grid with
    | some point => (point, grid)
    | none => coarsest magnitude (grid - 1) tries

/-- The shortest decimal `digits · 10 ^ exponent` that rounds to a positive magnitude. A double has
at most 17 significant digits, and the first grid is at most two above its leading digit. -/
def shortest (magnitude : Nat) : Nat × Int :=
  let leading := exponent magnitude + Int.ofNat (significand magnitude).log2
  coarsest magnitude (Int.fdiv ((leading + 2) * 30103) 100000 + 1) 22

/-- The text of a positive decimal `digits · 10 ^ exponent`. -/
def decimalText (digits : List Char) (exponent : Int) : List Char :=
  let leading := exponent + Int.ofNat digits.length - 1
  if -5 ≤ leading && leading ≤ 15 then
    if 0 ≤ exponent then digits ++ List.replicate exponent.toNat '0' ++ ['.', '0']
    else if 0 ≤ leading then
      digits.take (leading + 1).toNat ++ '.' :: digits.drop (leading + 1).toNat
    else '0' :: '.' :: List.replicate (-leading - 1).toNat '0' ++ digits
  else
    let fraction := match digits with
      | first :: second :: rest => first :: '.' :: second :: rest
      | short => short
    let sign := if leading < 0 then '-' else '+'
    fraction ++ 'e' :: sign :: Nat.toDigits 10 leading.natAbs

/-- The shortest text of a finite double. -/
def text (x : Double) : List Char :=
  let sign := if x.isNegative then ['-'] else []
  if x.magnitude = 0 then sign ++ ['0', '.', '0']
  else
    let decimal := shortest x.magnitude
    sign ++ decimalText (Nat.toDigits 10 decimal.1) decimal.2

end RelayFeeds.Double
