import Mathlib.Tactic.Lemma
import RolePolicy.Codec.Trace

/-! The JSON form that the declaration of a type gives its values, by rules that look only at the
declared names and at what is declared about the fields. Encoders written out agree with it. -/

namespace RolePolicy

class Derived (α : Type) where
  derived : α → Json

export Derived (derived)

instance : Derived Bool := ⟨.bool⟩

instance : Derived String := ⟨.string⟩

instance {α : Type} [Derived α] : Derived (Option α) where
  derived
    | none => .null
    | some a => derived a

instance {α : Type} [Derived α] : Derived (List α) where
  derived as := .array (as.map derived)

namespace Declared

def snakeCase (name : String) : String :=
  match name.toList with
  | [] => ""
  | c :: cs =>
    String.ofList (c.toLower :: cs.flatMap fun d => if d.isUpper then ['_', d.toLower] else [d])

structure Field where
  name : String
  value : Json
  skipped : Bool

def Field.of {α : Type} [Derived α] (name : String) (a : α) : Field := ⟨name, derived a, false⟩

def Field.skipNone {α : Type} [Derived α] (name : String) (a : Option α) : Field :=
  ⟨name, derived a, a.isNone⟩

def record (fields : List Field) : Json :=
  .object ((fields.filter (!·.skipped)).map fun f => (f.name, f.value))

def unitVariant (name : String) : Json := .string (snakeCase name)

def valueVariant {α : Type} [Derived α] (name : String) (a : α) : Json :=
  .object [(snakeCase name, derived a)]

def taggedVariant (tag name : String) (fields : List Field) : Json :=
  record (.of tag (snakeCase name) :: fields)

end Declared

open Declared

instance : Derived Action where
  derived a := derived a.name

instance : Derived ResourceKey where
  derived
    | .named id => valueVariant "Named" id
    | .other => unitVariant "Other"

instance : Derived MatchSource where
  derived
    | .resource => unitVariant "Resource"
    | .wildcard => unitVariant "Wildcard"
    | .action => unitVariant "Action"
    | .default => unitVariant "Default"

instance : Derived TraceStep where
  derived s :=
    record [.of "role" s.role, .skipNone "matched" s.matched, .of "result" s.result]

instance : Derived DecisionSource where
  derived
    | .rule role matched => taggedVariant "kind" "Rule" [.of "role" role, .of "matched" matched]
    | .noRole => taggedVariant "kind" "NoRole" []
    | .fallback => taggedVariant "kind" "Fallback" []

instance : Derived TraceRecord where
  derived r :=
    record [
      .of "id" r.id,
      .of "started_at" r.startedAt,
      .of "actor_role" r.trace.actorRole,
      .of "resource" r.trace.resource,
      .of "action" r.trace.action,
      .of "steps" r.trace.steps,
      .of "decision" r.trace.decision,
      .of "source" r.trace.source]

lemma Action.encode_eq_derived (a : Action) : encode a = derived a := rfl

lemma ResourceKey.encode_eq_derived (k : ResourceKey) : encode k = derived k := by
  cases k <;> rfl

lemma MatchSource.encode_eq_derived (m : MatchSource) : encode m = derived m := by
  cases m <;> rfl

lemma ofOption_string_eq_derived (s : Option String) : Json.ofOption .string s = derived s := by
  cases s <;> rfl

lemma TraceStep.encode_eq_derived (s : TraceStep) : encode s = derived s := by
  obtain ⟨role, matched, result⟩ := s
  rcases matched with _ | m
  · cases result <;> rfl
  · cases m <;> cases result <;> rfl

lemma DecisionSource.encode_eq_derived (s : DecisionSource) : encode s = derived s := by
  cases s with
  | rule role matched => cases matched <;> rfl
  | noRole => rfl
  | fallback => rfl

lemma TraceRecord.encode_eq_derived (r : TraceRecord) : encode r = derived r := by
  have hs : (encode : TraceStep → Json) = derived := funext TraceStep.encode_eq_derived
  show Json.object
    ([("id", .string r.id), ("started_at", .string r.startedAt)] ++ r.trace.members) = derived r
  rw [Trace.members, ofOption_string_eq_derived, ofOption_string_eq_derived,
    Action.encode_eq_derived, hs, DecisionSource.encode_eq_derived]
  rfl

end RolePolicy
