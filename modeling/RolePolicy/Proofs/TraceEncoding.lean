import RolePolicy.Proofs.DerivedForms
import RolePolicy.Proofs.MemberOrder

/-! Traces and their parts survive encoding: they are written in the declared form and read back
from it, as written or with sorted members. -/

namespace RolePolicy

variable {α ι τ : Type}

structure Faithful (write declared : α → Json) (read? : Json → Option α) : Prop where
  declares (a : α) : write a = declared a
  back (a : α) : read? (write a) = some a
  back_sorted (a : α) : read? (write a).canonical = some a
  apart {a b : α} : (write a).canonical = (write b).canonical → a = b
  settles {j : Json} {a : α} : read? j = some a →
    read? (write a) = some a ∧ read? (write a).canonical = some a

def EncodedFaithfully (α : Type) [Codec α] [Derived α] : Prop :=
  Faithful (encode : α → Json) derived Codec.decode

structure Stamp (α : Type) where
  write : α → String
  read? : String → Option α

def Stamp.Lossless (s : Stamp α) : Prop := ∀ a, s.read? (s.write a) = some a

structure StampedTrace (ι τ : Type) where
  id : ι
  startedAt : τ
  trace : Trace
deriving DecidableEq

namespace StampedTrace

variable (ids : Stamp ι) (times : Stamp τ)

def record (t : StampedTrace ι τ) : TraceRecord :=
  ⟨ids.write t.id, times.write t.startedAt, t.trace⟩

def toJson (t : StampedTrace ι τ) : Json := encode (t.record ids times)

def declared (t : StampedTrace ι τ) : Json := derived (t.record ids times)

def ofRecord? (r : TraceRecord) : Option (StampedTrace ι τ) := do
  return ⟨← ids.read? r.id, ← times.read? r.startedAt, r.trace⟩

def ofJson? (j : Json) : Option (StampedTrace ι τ) := do
  let r ← Codec.decode j
  ofRecord? ids times r

end StampedTrace

lemma Action.decode_encode (a : Action) : Codec.decode (encode a) = some a := rfl

lemma Action.decode_canonical (a : Action) : Codec.decode (encode a).canonical = some a := rfl

lemma MatchSource.canonical_encode (m : MatchSource) : (encode m).canonical = encode m := rfl

lemma MatchSource.decode_canonical (m : MatchSource) :
    Codec.decode (encode m).canonical = some m := by
  rw [m.canonical_encode, m.decode_encode]

lemma ResourceKey.decode_canonical (k : ResourceKey) :
    Codec.decode (encode k).canonical = some k := by
  cases k <;> rfl

namespace TraceStep

def members (s : TraceStep) : List (String × Json) :=
  [("role", Json.string s.role)] ++
    (match s.matched with
      | none => []
      | some m => [("matched", encode m)]) ++
    [("result", Json.ofOption .bool s.result)]

lemma distinctNames_members (s : TraceStep) : Json.DistinctNames s.members := by
  obtain ⟨role, matched, result⟩ := s
  cases matched with
  | none => exact (by decide : ["role", "result"].Nodup)
  | some m => exact (by decide : ["role", "matched", "result"].Nodup)

lemma decode_canonical (s : TraceStep) : Codec.decode (encode s).canonical = some s := by
  show ofJson? (Json.object s.members).canonical = some s
  rw [ofJson?, Json.allFields?_canonical s.distinctNames_members]
  obtain ⟨role, matched, result⟩ := s
  rcases matched with _ | m
  · cases result <;> rfl
  · cases m <;> cases result <;> rfl

end TraceStep

namespace DecisionSource

def members : DecisionSource → List (String × Json)
  | rule role matched =>
    [("kind", .string "rule"), ("role", .string role), ("matched", encode matched)]
  | noRole => [("kind", .string "no_role")]
  | fallback => [("kind", .string "fallback")]

lemma encode_eq_object (s : DecisionSource) : encode s = .object s.members := by
  cases s <;> rfl

lemma distinctNames_members (s : DecisionSource) : Json.DistinctNames s.members := by
  cases s with
  | rule role matched => exact (by decide : ["kind", "role", "matched"].Nodup)
  | noRole | fallback => exact (by decide : ["kind"].Nodup)

lemma isBounded_canonical (depth : Nat) (s : DecisionSource) :
    (encode s).canonical.isBounded (depth + 1) := by
  -- All members are texts, so that one level is enough.
  rw [encode_eq_object, Json.isBounded_canonical s.distinctNames_members]
  cases s <;> simp [members, encode, Json.canonical, Json.isBounded]

lemma ofKind?_canonical (s : DecisionSource) : ofKind? (encode s).canonical = some s := by
  rw [encode_eq_object, Json.canonical, ofKind?]
  simp only [Json.member?_canonical s.distinctNames_members]
  cases s with
  | rule role matched => cases matched <;> rfl
  | noRole => rfl
  | fallback => rfl

lemma ofJson?_canonical (depth : Nat) (s : DecisionSource) :
    ofJson? (depth + 1) (encode s).canonical = some s := by
  rw [ofJson?, if_pos (s.isBounded_canonical depth), s.ofKind?_canonical]

end DecisionSource

lemma stepsOfJson?_canonical (steps : List TraceStep) :
    stepsOfJson? (Json.array (steps.map encode)).canonical = some steps := by
  rw [Json.canonical, Json.canonicalItems_eq_map]
  show ((steps.map encode).map Json.canonical).mapM Codec.decode = some steps
  induction steps with
  | nil => rfl
  | cons s steps ih =>
    rw [List.map_cons, List.map_cons, List.mapM_cons, s.decode_canonical, ih]
    rfl

namespace TraceRecord

def members (r : TraceRecord) : List (String × Json) :=
  [("id", .string r.id), ("started_at", .string r.startedAt)] ++ r.trace.members

lemma distinctNames_members (r : TraceRecord) : Json.DistinctNames r.members :=
  (by decide : fieldNames.Nodup)

lemma allFields?_canonical (r : TraceRecord) :
    (encode r).canonical.allFields? fieldNames = some [
      some (.string r.id), some (.string r.startedAt),
      some (Json.ofOption .string r.trace.actorRole).canonical,
      some (Json.ofOption .string r.trace.resource).canonical, some (encode r.trace.action),
      some (Json.array (r.trace.steps.map encode)).canonical, some (.bool r.trace.decision),
      some (encode r.trace.source).canonical] := by
  show (Json.object r.members).canonical.allFields? fieldNames = _
  rw [Json.allFields?_canonical r.distinctNames_members]
  rfl

lemma decode_canonical (r : TraceRecord) : Codec.decode (encode r).canonical = some r := by
  show ofJson? (encode r).canonical = some r
  have hs : Json.required? stepsOfJson?
      (some (Json.array (r.trace.steps.map encode)).canonical) = some r.trace.steps :=
    stepsOfJson?_canonical _
  have hd : Json.required? (DecisionSource.ofJson? (Json.nestingLimit - 1))
      (some (encode r.trace.source).canonical) = some r.trace.source :=
    DecisionSource.ofJson?_canonical _ _
  simp only [ofJson?, allFields?_canonical, Json.canonical_ofOption_string, Option.bind_eq_bind,
    Option.bind_some, Json.optional?_ofOption, hs, hd]
  rfl

end TraceRecord

lemma Faithful.of_back {write declared : α → Json} {read? : Json → Option α}
    (hd : ∀ a, write a = declared a) (hb : ∀ a, read? (write a) = some a)
    (hs : ∀ a, read? (write a).canonical = some a) : Faithful write declared read? where
  declares := hd
  back := hb
  back_sorted := hs
  apart {a b} h := Option.some_inj.mp (by rw [← hs a, h, hs b])
  settles {_ a} _ := ⟨hb a, hs a⟩

namespace StampedTrace

variable {ids : Stamp ι} {times : Stamp τ}

lemma ofRecord?_record (hi : ids.Lossless) (ht : times.Lossless) (t : StampedTrace ι τ) :
    ofRecord? ids times (t.record ids times) = some t := by
  rw [ofRecord?, record, hi, ht]
  rfl

lemma ofJson?_eq (hi : ids.Lossless) (ht : times.Lossless) {t : StampedTrace ι τ} {j : Json}
    (h : Codec.decode j = some (t.record ids times)) : ofJson? ids times j = some t := by
  rw [ofJson?, h]
  exact ofRecord?_record hi ht t

theorem encoded_faithfully (ids : Stamp ι) (times : Stamp τ)
    (hi : ids.Lossless) (ht : times.Lossless) :
    Faithful (toJson ids times) (declared ids times) (ofJson? ids times) ∧
      EncodedFaithfully Action ∧ EncodedFaithfully ResourceKey ∧ EncodedFaithfully MatchSource ∧
      EncodedFaithfully TraceStep ∧ EncodedFaithfully DecisionSource := by
  refine ⟨?traces, ?actions, ?keys, ?sources, ?steps, ?decisions⟩
  case traces =>
    exact .of_back (fun t => (t.record ids times).encode_eq_derived)
      (fun t => ofJson?_eq hi ht (t.record ids times).decode_encode)
      (fun t => ofJson?_eq hi ht (t.record ids times).decode_canonical)
  case actions =>
    exact .of_back Action.encode_eq_derived Action.decode_encode Action.decode_canonical
  case keys =>
    exact .of_back ResourceKey.encode_eq_derived ResourceKey.decode_encode
      ResourceKey.decode_canonical
  case sources =>
    exact .of_back MatchSource.encode_eq_derived MatchSource.decode_encode
      MatchSource.decode_canonical
  case steps =>
    exact .of_back TraceStep.encode_eq_derived TraceStep.decode_encode TraceStep.decode_canonical
  case decisions =>
    exact .of_back DecisionSource.encode_eq_derived DecisionSource.decode_encode
      (DecisionSource.ofJson?_canonical _)

def plainText : Stamp String := ⟨fun s => s, some⟩

def wildcardGrant : StampedTrace String String where
  id := "0190c3a8-2f6e-7cc4-9a57-3d0b7b1f4e21"
  startedAt := "2024-07-18T09:30:00Z"
  trace := {
    actorRole := some "employee"
    resource := none
    action := ⟨"view"⟩
    steps := [⟨"employee", none, none⟩, ⟨"staff", some .wildcard, some true⟩]
    decision := true
    source := .rule "staff" .wildcard }

theorem wildcardGrant_encoded_faithfully :
    plainText.Lossless ∧
      toJson plainText plainText wildcardGrant = declared plainText plainText wildcardGrant ∧
      ofJson? plainText plainText (toJson plainText plainText wildcardGrant).canonical =
        some wildcardGrant ∧
      (encode (ResourceKey.named "other")).canonical ≠ (encode ResourceKey.other).canonical := by
  have h : plainText.Lossless := fun _ => rfl
  obtain ⟨traces, -, keys, -⟩ := encoded_faithfully plainText plainText h h
  exact ⟨h, traces.declares _, traces.back_sorted _, fun e => nomatch keys.apart e⟩

end StampedTrace

end RolePolicy
