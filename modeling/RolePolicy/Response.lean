import RolePolicy.Callback

namespace RolePolicy

inductive Polarity
  | allow
  | deny
deriving DecidableEq

namespace Polarity

def grants : Polarity → Bool
  | allow => true
  | deny => false

def negate : Polarity → Polarity
  | allow => deny
  | deny => allow

end Polarity

inductive Response (χ : Type)
  | allow
  | deny
  | unset
  | predicate (p : Predicate χ)
deriving DecidableEq

namespace Response

variable {χ : Type}

def ofBool (b : Bool) : Response χ := if b then allow else deny

def ofOption : Option Bool → Response χ
  | none => unset
  | some b => ofBool b

def ofPolarity (p : Polarity) : Response χ := ofBool p.grants

def isUnset : Response χ → Bool
  | unset => true
  | _ => false

def evaluate [Callbacks χ] : Response χ → Request → Consulted χ (Option Bool)
  | allow, _ => pure (some true)
  | deny, _ => pure (some false)
  | unset, _ => pure none
  | predicate p, q => ⟨p.call q, [⟨p, q⟩]⟩

end Response

inductive Condition (χ : Type)
  | ifHolds (check : χ)
  | unlessHolds (check : χ)
deriving DecidableEq

namespace Condition

variable {χ : Type}

def check : Condition χ → χ
  | ifHolds c | unlessHolds c => c

def expected (p : Polarity) : Condition χ → Bool
  | ifHolds _ => p.grants
  | unlessHolds _ => p.negate.grants

def respond (c : Condition χ) (p : Polarity) (origin : Origin) : Response χ :=
  .predicate (.condition origin c.check (c.expected p))

/-- Uses the origin up: the next condition gets the one behind it. -/
def compile (c : Condition χ) (p : Polarity) (origin : Origin) : Response χ × Origin :=
  (c.respond p origin, origin.next)

end Condition

end RolePolicy
