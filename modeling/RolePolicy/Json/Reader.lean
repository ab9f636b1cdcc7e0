import RolePolicy.Json.Token

namespace RolePolicy.Json

inductive Frame
  | items (held : List Json)
  | members (held : List (Option String × Json))
  | member (held : List (Option String × Json)) (name : Option String)

inductive Expecting
  | value
  | itemOrEnd
  | nameOrEnd
  | name
  | colon
  | commaOrEnd
  | nothing (read : Json)

structure Reading where
  expecting : Expecting := .value
  stack : List Frame := []

def place? (value : Json) : List Frame → Option Reading
  | [] => some ⟨.nothing value, []⟩
  | .items held :: stack => some ⟨.commaOrEnd, .items (value :: held) :: stack⟩
  | .member held name :: stack => some ⟨.commaOrEnd, .members ((name, value) :: held) :: stack⟩
  | .members _ :: _ => none

def ofMembers (members : List (Option String × Json)) : Json :=
  let named : Option (List (String × Json)) := members.mapM fun (name, value) => name.map (·, value)
  named.elim .illegible .object

def openValue? (stack : List Frame) : Token → Option Reading
  | .string s => place? (s.elim .illegible .string) stack
  | .scalar value => place? value stack
  | .mark .openBracket => some ⟨.itemOrEnd, .items [] :: stack⟩
  | .mark .openBrace => some ⟨.nameOrEnd, .members [] :: stack⟩
  | .mark _ => none

def name? (stack : List Frame) : Token → Option Reading
  | .string s =>
    match stack with
    | .members held :: stack => some ⟨.colon, .member held s :: stack⟩
    | _ => none
  | _ => none

def Reading.next? (r : Reading) (t : Token) : Option Reading :=
  match r.expecting, t, r.stack with
  | .value, t, stack => openValue? stack t
  | .itemOrEnd, .mark .closeBracket, .items _ :: stack => place? (.array []) stack
  | .itemOrEnd, t, stack => openValue? stack t
  | .nameOrEnd, .mark .closeBrace, .members _ :: stack => place? (ofMembers []) stack
  | .nameOrEnd, t, stack => name? stack t
  | .name, t, stack => name? stack t
  | .colon, .mark .colon, stack => some ⟨.value, stack⟩
  | .commaOrEnd, .mark .comma, .items held :: stack => some ⟨.value, .items held :: stack⟩
  | .commaOrEnd, .mark .comma, .members held :: stack => some ⟨.name, .members held :: stack⟩
  | .commaOrEnd, .mark .closeBracket, .items held :: stack => place? (.array held.reverse) stack
  | .commaOrEnd, .mark .closeBrace, .members held :: stack => place? (ofMembers held.reverse) stack
  | _, _, _ => none

def read? (text : String) : Option Json := do
  let r ← (← tokens? text).foldlM Reading.next? {}
  match r.expecting with
  | .nothing value => return value
  | _ => none

end RolePolicy.Json
