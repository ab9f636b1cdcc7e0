import RolePolicy.Codec
import RolePolicy.Config
import RolePolicy.RuleSet

namespace RolePolicy

instance : Codec Action where
  encode a := .string a.name
  decode j := j.string?.map Action.mk

def Polarity.text : Polarity → String
  | allow => "allow"
  | deny => "deny"

def Polarity.ofText? : String → Option Polarity
  | "allow" => some allow
  | "deny" => some deny
  | _ => none

instance : Codec Polarity where
  encode p := .string p.text
  decode j := (j.variant? Json.isNull).bind Polarity.ofText?

theorem Polarity.decode_encode (p : Polarity) : Codec.decode (encode p) = some p := by
  cases p <;> rfl

def MatchSource.text : MatchSource → String
  | resource => "resource"
  | wildcard => "wildcard"
  | action => "action"
  | default => "default"

def MatchSource.ofText? : String → Option MatchSource
  | "resource" => some resource
  | "wildcard" => some wildcard
  | "action" => some action
  | "default" => some default
  | _ => none

instance : Codec MatchSource where
  encode m := .string m.text
  decode j := (j.variant? Json.isNull).bind MatchSource.ofText?

theorem MatchSource.decode_encode (m : MatchSource) : Codec.decode (encode m) = some m := by
  cases m <;> rfl

def ResourceKey.ofJson? : Json → Option ResourceKey
  | .object [("named", .string id)] => some (named id)
  | j => if j.variant? Json.isNull = some "other" then some other else none

instance : Codec ResourceKey where
  encode
    | .named id => .object [("named", .string id)]
    | .other => .string "other"
  decode := ResourceKey.ofJson?

theorem ResourceKey.decode_encode (k : ResourceKey) : Codec.decode (encode k) = some k := by
  cases k <;> rfl

def MissingParentPolicy.ofName? : String → Option MissingParentPolicy
  | "skip" => some skip
  | "error" => some error
  | _ => none

instance : Codec MissingParentPolicy where
  encode p := .string p.text
  decode j := (j.variant? Json.isNull).bind MissingParentPolicy.ofName?

theorem MissingParentPolicy.decode_encode (p : MissingParentPolicy) :
    Codec.decode (encode p) = some p := by
  cases p <;> rfl

def Config.fieldNames : List String :=
  ["default_query_response", "actor_must_play_role", "all_types_are_resources", "missing_parent"]

def Config.ofJson? (j : Json) : Option Config := do
  let [answer, mustPlay, allTypes, missing] ← j.fields? fieldNames | none
  let standard : Config := {}
  return {
    defaultQueryResponse := ← Json.withDefault? Json.bool? standard.defaultQueryResponse answer
    actorMustPlayRole := ← Json.withDefault? Json.bool? standard.actorMustPlayRole mustPlay
    allTypesAreResources := ← Json.withDefault? Json.bool? standard.allTypesAreResources allTypes
    missingParent := ← Json.withDefault? Codec.decode standard.missingParent missing }

instance : Codec Config where
  encode c := .object [
    ("default_query_response", .bool c.defaultQueryResponse),
    ("actor_must_play_role", .bool c.actorMustPlayRole),
    ("all_types_are_resources", .bool c.allTypesAreResources),
    ("missing_parent", encode c.missingParent)]
  decode := Config.ofJson?

theorem Config.decode_encode (c : Config) : Codec.decode (encode c) = some c := by
  obtain ⟨a, m, t, p⟩ := c
  cases p <;> rfl

end RolePolicy
