import Std.Data.ExtTreeMap

/-! JSON values. An object keeps its members as written, repeated names included. -/

namespace RolePolicy

/-- A decimal numeral: `digits · 10 ^ exponent`, with a sign. -/
structure Numeral where
  negative : Bool
  digits : Nat
  exponent : Int
deriving DecidableEq

inductive Json
  | null
  | bool (b : Bool)
  | number (n : Numeral)
  | string (s : String)
  | array (items : List Json)
  | object (members : List (String × Json))
  /-- A text with half a surrogate pair in it, or an object with such a member name. It can be
  passed over, but nothing can be read from it. -/
  | illegible
deriving Inhabited

namespace Json

mutual

def same : Json → Json → Bool
  | null, null => true
  | bool a, bool b => a == b
  | number a, number b => a == b
  | string a, string b => a == b
  | array a, array b => sameItems a b
  | object a, object b => sameMembers a b
  | illegible, illegible => true
  | _, _ => false

def sameItems : List Json → List Json → Bool
  | [], [] => true
  | a :: as, b :: bs => same a b && sameItems as bs
  | _, _ => false

def sameMembers : List (String × Json) → List (String × Json) → Bool
  | [], [] => true
  | (m, a) :: as, (n, b) :: bs => m == n && same a b && sameMembers as bs
  | _, _ => false

end

mutual

theorem same_self : (a : Json) → same a a = true
  | null | bool _ | number _ | string _ | illegible => by simp [same]
  | array items => by simp [same, sameItems_self items]
  | object members => by simp [same, sameMembers_self members]

theorem sameItems_self : (as : List Json) → sameItems as as = true
  | [] => by simp [sameItems]
  | a :: as => by simp [sameItems, same_self a, sameItems_self as]

theorem sameMembers_self : (as : List (String × Json)) → sameMembers as as = true
  | [] => by simp [sameMembers]
  | (_, a) :: as => by simp [sameMembers, same_self a, sameMembers_self as]

end

mutual

theorem eq_of_same : {a b : Json} → same a b = true → a = b
  | null, null, _ | illegible, illegible, _ => rfl
  | bool _, bool _, h | number _, number _, h | string _, string _, h => by simpa [same] using h
  | array _, array _, h => by simpa using eq_of_sameItems (by simpa [same] using h)
  | object _, object _, h => by simpa using eq_of_sameMembers (by simpa [same] using h)

theorem eq_of_sameItems : {as bs : List Json} → sameItems as bs = true → as = bs
  | [], [], _ => rfl
  | a :: as, b :: bs, h => by
    simp only [sameItems, Bool.and_eq_true] at h
    rw [eq_of_same h.1, eq_of_sameItems h.2]

theorem eq_of_sameMembers : {as bs : List (String × Json)} → sameMembers as bs = true → as = bs
  | [], [], _ => rfl
  | (m, a) :: as, (n, b) :: bs, h => by
    simp only [sameMembers, Bool.and_eq_true, beq_iff_eq] at h
    rw [h.1.1, eq_of_same h.1.2, eq_of_sameMembers h.2]

end

instance : DecidableEq Json := fun a b =>
  if h : same a b = true then .isTrue (eq_of_same h)
  else .isFalse fun e => h (e ▸ same_self a)

mutual

def canonical : Json → Json
  | array items => array (canonicalItems items)
  | object members => object (canonicalMembers members).toList
  | j => j

def canonicalItems : List Json → List Json
  | [] => []
  | a :: as => canonical a :: canonicalItems as

def canonicalMembers : List (String × Json) → Std.ExtTreeMap String Json
  | [] => ∅
  | (name, a) :: as => (canonicalMembers as).insertIfNew name (canonical a)

end

def nat (n : Nat) : Json := number ⟨false, n, 0⟩

def strings (l : List String) : Json := array (l.map string)

def ofOption {α : Type} (f : α → Json) : Option α → Json
  | none => null
  | some a => f a

end Json

end RolePolicy
