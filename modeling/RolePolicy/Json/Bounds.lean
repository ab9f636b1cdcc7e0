import RolePolicy.Json

/-! What a value may hold if all of it is kept, read or not: legible texts, numbers that a double
can hold, and arrays and objects nested to a limit. -/

namespace RolePolicy

def roundToDouble (n : Nat) : Nat :=
  let unit := 1 <<< (n.log2 + 1 - 53)
  let rest := n % unit
  let whole := n / unit
  (if unit < 2 * rest ∨ unit = 2 * rest ∧ whole % 2 = 1 then whole + 1 else whole) * unit

def overflowBound : Nat := (1 <<< 1024) - (1 <<< 970)

namespace Numeral

def shortened (n : Numeral) : Numeral :=
  if n.digits < 1 <<< 64 then n
  else shortened { n with digits := n.digits / 10, exponent := n.exponent + 1 }
termination_by n.digits

/-- The numeral is too large for a double. Its value is taken as the product of its rounded digits
and the rounded power of ten. -/
def overflows (n : Numeral) : Bool :=
  let s := n.shortened
  s.digits ≠ 0 && 0 ≤ s.exponent && (308 < s.exponent ||
    overflowBound ≤ roundToDouble s.digits * roundToDouble (.pow 10 s.exponent.toNat))

end Numeral

namespace Json

mutual

def isBounded : Nat → Json → Bool
  | _, null | _, bool _ | _, string _ => true
  | _, number n => !n.overflows
  | depth + 1, array items => areBounded depth items
  | depth + 1, object members => membersBounded depth members
  | 0, array _ | 0, object _ | _, illegible => false

def areBounded (depth : Nat) : List Json → Bool
  | [] => true
  | a :: as => isBounded depth a && areBounded depth as

def membersBounded (depth : Nat) : List (String × Json) → Bool
  | [] => true
  | (_, a) :: as => isBounded depth a && membersBounded depth as

end

def nestingLimit : Nat := 127

end Json

end RolePolicy
