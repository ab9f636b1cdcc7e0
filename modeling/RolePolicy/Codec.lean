import RolePolicy.Json.Record

namespace RolePolicy

class Codec (α : Type) where
  encode : α → Json
  decode : Json → Option α

export Codec (encode)

end RolePolicy
