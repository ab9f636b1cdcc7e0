namespace RolePolicy.Text

/-- The code points `first`, `first + step`, and so on up to `last`. -/
structure Span where
  first : Nat
  last : Nat
  step : Nat

def Span.contains (s : Span) (n : Nat) : Bool :=
  s.first ≤ n && n ≤ s.last && (n - s.first) % s.step == 0

def inSpans (spans : List Span) (c : Char) : Bool := spans.any (·.contains c.toNat)

end RolePolicy.Text
