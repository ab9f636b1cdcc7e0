import RolePolicy.Action
import RolePolicy.Actor

/-! Callbacks of an application, the predicates that rules make of them, and answers that come with
the list of predicates consulted for them. -/

namespace RolePolicy

structure Request where
  actor : Actor
  resource : Resource
  action : Action

/-- The meaning of an application's callbacks: as the check of a condition, and as a predicate,
which may have no opinion. -/
class Callbacks (χ : Type) where
  holds : χ → Request → Bool
  ask : χ → Request → Option Bool

/-- When a condition was compiled: in which build of a role, and after how many others there. -/
structure Origin where
  build : Nat
  rank : Nat := 0
deriving DecidableEq

def Origin.next (o : Origin) : Origin := { o with rank := o.rank + 1 }

/-- A predicate is a callback, or a compiled condition: a check and the outcome under which it
grants. What is compiled is an instance of its own, known by its origin. -/
inductive Predicate (χ : Type)
  | callback (c : χ)
  | condition (origin : Origin) (check : χ) (expected : Bool)
deriving DecidableEq

def Predicate.call {χ : Type} [Callbacks χ] : Predicate χ → Request → Option Bool
  | callback c, q => Callbacks.ask c q
  | condition _ check expected, q => some (Callbacks.holds check q == expected)

def Predicate.source {χ : Type} : Predicate χ → χ
  | callback c => c
  | condition _ check _ => check

structure Call (χ : Type) where
  predicate : Predicate χ
  request : Request

structure Consulted (χ α : Type) where
  answer : α
  calls : List (Call χ)

namespace Consulted

variable {χ α β : Type}

instance : Monad (Consulted χ) where
  pure a := ⟨a, []⟩
  bind x f := ⟨(f x.answer).answer, x.calls ++ (f x.answer).calls⟩

@[simp] theorem answer_pure (a : α) : (pure a : Consulted χ α).answer = a := rfl

@[simp] theorem calls_pure (a : α) : (pure a : Consulted χ α).calls = [] := rfl

@[simp] theorem answer_bind (x : Consulted χ α) (f : α → Consulted χ β) :
    (x >>= f).answer = (f x.answer).answer := rfl

@[simp] theorem calls_bind (x : Consulted χ α) (f : α → Consulted χ β) :
    (x >>= f).calls = x.calls ++ (f x.answer).calls := rfl

instance : LawfulMonad (Consulted χ) :=
  LawfulMonad.mk' _ (fun x => congrArg (mk x.answer) (List.append_nil x.calls)) (fun _ _ => rfl)
    (fun x _ _ => congrArg (mk _) (List.append_assoc x.calls _ _))

@[simp] theorem answer_map (f : α → β) (x : Consulted χ α) : (f <$> x).answer = f x.answer := rfl

@[simp] theorem calls_map (f : α → β) (x : Consulted χ α) : (f <$> x).calls = x.calls :=
  List.append_nil _

end Consulted

end RolePolicy
