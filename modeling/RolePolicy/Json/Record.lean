import RolePolicy.Json

namespace RolePolicy.Json

def bool? : Json → Option Bool
  | bool b => some b
  | _ => none

def string? : Json → Option String
  | string s => some s
  | _ => none

def member? (members : List (String × Json)) (name : String) : Option (Option Json) :=
  match members.filter (·.1 == name) with
  | [] => some none
  | [(_, value)] => some (some value)
  | _ => none

/-- The fields of a record, written as an object, whose other members do not matter, or as an array
in the order of the fields, whose tail may be missing. -/
def fields? (names : List String) : Json → Option (List (Option Json))
  | object members => names.mapM (member? members)
  | array items =>
    if items.length ≤ names.length then
      some (items.map some ++ List.replicate (names.length - items.length) none)
    else none
  | _ => none

def allFields? (names : List String) (j : Json) : Option (List (Option Json)) :=
  match j with
  | array items => if items.length = names.length then fields? names j else none
  | _ => fields? names j

def required? {α : Type} (read : Json → Option α) (field : Option Json) : Option α :=
  field.bind read

def optional? {α : Type} (read : Json → Option α) : Option Json → Option (Option α)
  | none | some null => some none
  | some value => (read value).map some

theorem optional?_ofOption (s : Option String) :
    optional? string? (some (.ofOption string s)) = some s := by
  cases s <;> rfl

def withDefault? {α : Type} (read : Json → Option α) (default : α) : Option Json → Option α
  | none => some default
  | some value => read value

def isNull : Json → Bool
  | null => true
  | _ => false

/-- The name of a variant without content. It stands alone or is the name of a single member whose
value is blank. -/
def variant? (blank : Json → Bool) : Json → Option String
  | string name => some name
  | object [(name, value)] => if blank value then some name else none
  | _ => none

end RolePolicy.Json
