import RolePolicy.Codec.Rule
import RolePolicy.Json.Bounds
import RolePolicy.Trace

namespace RolePolicy

def TraceStep.ofJson? (j : Json) : Option TraceStep := do
  let [role, matched, result] ← j.allFields? ["role", "matched", "result"] | none
  return {
    role := ← Json.required? Json.string? role
    matched := ← Json.optional? Codec.decode matched
    result := ← Json.optional? Json.bool? result }

instance : Codec TraceStep where
  encode s := .object (
    [("role", Json.string s.role)] ++
    (match s.matched with
      | none => []
      | some m => [("matched", encode m)]) ++
    [("result", Json.ofOption .bool s.result)])
  decode := TraceStep.ofJson?

theorem TraceStep.decode_encode (s : TraceStep) : Codec.decode (encode s) = some s := by
  obtain ⟨role, matched, result⟩ := s
  rcases matched with _ | m
  · cases result <;> rfl
  · cases m <;> cases result <;> rfl

def isBlankContent : Json → Bool
  | .null | .object [] => true
  | _ => false

def DecisionSource.rule? (role matched : Option Json) : Option DecisionSource := do
  let role ← Json.required? Json.string? role
  let matched ← matched.bind (Json.variant? isBlankContent)
  return rule role (← MatchSource.ofText? matched)

def DecisionSource.ofKind? : Json → Option DecisionSource
  | .object members => do
    match ← Json.member? members "kind" with
    | some (.string "rule") =>
      rule? (← Json.member? members "role") (← Json.member? members "matched")
    | some (.string "no_role") => return noRole
    | some (.string "fallback") => return fallback
    | _ => none
  | .array [.string "rule", role, matched] => rule? (some role) (some matched)
  | .array [.string "no_role"] => some noRole
  | .array [.string "fallback"] => some fallback
  | _ => none

def DecisionSource.ofJson? (depth : Nat) (j : Json) : Option DecisionSource :=
  if j.isBounded depth then ofKind? j else none

instance : Codec DecisionSource where
  encode
    | .rule role matched =>
      .object [("kind", .string "rule"), ("role", .string role), ("matched", encode matched)]
    | .noRole => .object [("kind", .string "no_role")]
    | .fallback => .object [("kind", .string "fallback")]
  decode := DecisionSource.ofJson? Json.nestingLimit

theorem DecisionSource.ofJson?_encode (depth : Nat) (s : DecisionSource) :
    ofJson? (depth + 1) (encode s) = some s := by
  cases s with
  | rule role matched => cases matched <;> rfl
  | noRole => rfl
  | fallback => rfl

theorem DecisionSource.decode_encode (s : DecisionSource) : Codec.decode (encode s) = some s :=
  ofJson?_encode _ s

def Trace.members (t : Trace) : List (String × Json) := [
  ("actor_role", Json.ofOption .string t.actorRole),
  ("resource", Json.ofOption .string t.resource),
  ("action", encode t.action),
  ("steps", .array (t.steps.map encode)),
  ("decision", .bool t.decision),
  ("source", encode t.source)]

def stepsOfJson? : Json → Option (List TraceStep)
  | .array items => items.mapM Codec.decode
  | _ => none

theorem stepsOfJson?_encode (steps : List TraceStep) :
    stepsOfJson? (.array (steps.map encode)) = some steps := by
  show (steps.map encode).mapM (Codec.decode (α := TraceStep)) = some steps
  induction steps with
  | nil => rfl
  | cons s steps ih =>
    rw [List.map_cons, List.mapM_cons, TraceStep.decode_encode, ih]
    rfl

def TraceRecord.fieldNames : List String :=
  ["id", "started_at", "actor_role", "resource", "action", "steps", "decision", "source"]

def TraceRecord.ofJson? (j : Json) : Option TraceRecord := do
  let [id, startedAt, actorRole, resource, action, steps, decision, source] ←
    j.allFields? fieldNames | none
  return {
    id := ← Json.required? Json.string? id
    startedAt := ← Json.required? Json.string? startedAt
    trace := {
      actorRole := ← Json.optional? Json.string? actorRole
      resource := ← Json.optional? Json.string? resource
      action := ← Json.required? Codec.decode action
      steps := ← Json.required? stepsOfJson? steps
      decision := ← Json.required? Json.bool? decision
      source := ← Json.required? (DecisionSource.ofJson? (Json.nestingLimit - 1)) source } }

instance : Codec TraceRecord where
  encode r :=
    .object ([("id", .string r.id), ("started_at", .string r.startedAt)] ++ r.trace.members)
  decode := TraceRecord.ofJson?

theorem TraceRecord.allFields?_encode (r : TraceRecord) :
    (encode r).allFields? fieldNames = some [
      some (.string r.id), some (.string r.startedAt), some (.ofOption .string r.trace.actorRole),
      some (.ofOption .string r.trace.resource), some (encode r.trace.action),
      some (.array (r.trace.steps.map encode)), some (.bool r.trace.decision),
      some (encode r.trace.source)] := rfl

theorem TraceRecord.decode_encode (r : TraceRecord) : Codec.decode (encode r) = some r := by
  show ofJson? (encode r) = some r
  have hs : Json.required? stepsOfJson? (some (.array (r.trace.steps.map encode))) =
      some r.trace.steps := stepsOfJson?_encode _
  have hd : Json.required? (DecisionSource.ofJson? (Json.nestingLimit - 1))
      (some (encode r.trace.source)) = some r.trace.source := DecisionSource.ofJson?_encode _ _
  simp only [ofJson?, allFields?_encode, Option.bind_eq_bind, Option.bind_some,
    Json.optional?_ofOption, hs, hd]
  rfl

end RolePolicy
