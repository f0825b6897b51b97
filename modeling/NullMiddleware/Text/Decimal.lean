/-!
Decimal numbers: what a run of digits stands for, and the digits of a fraction without its
trailing zeros.
-/

namespace NullMiddleware.Text

def isDigit (c : Char) : Bool := '0' ≤ c && c ≤ '9'

def digitValue (c : Char) : Nat := c.toNat - '0'.toNat

/-- The number written by a run of digits, the most significant first. -/
def ofDigits (ds : List Char) : Nat :=
  ds.foldl (fun n c => 10 * n + digitValue c) 0

/-- Reads one or more digits and nothing else. Leading zeros are allowed. -/
def readNat? (s : List Char) : Option Nat :=
  if s ≠ [] ∧ s.all isDigit then some (ofDigits s) else none

/-- `n` in `places` digits, zeros in front. -/
def padded (places n : Nat) : List Char :=
  let ds := Nat.toDigits 10 n
  List.replicate (places - ds.length) '0' ++ ds

/-- `whole` and the decimal part `part / 10 ^ places`, with no trailing zero and no dot that
nothing follows. -/
def fixed (whole places part : Nat) : String :=
  let ds := ((padded places part).reverse.dropWhile (· == '0')).reverse
  if ds.isEmpty then toString whole else toString whole ++ "." ++ String.ofList ds

end NullMiddleware.Text
