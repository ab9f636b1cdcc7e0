import RolePolicy.Text.Case

/-! Resource names derived from type names: `app::LineItem<T>` gives `line_item`. -/

namespace RolePolicy.TypeName

def untilColons : List Char → List Char
  | ':' :: ':' :: _ => []
  | c :: cs => c :: untilColons cs
  | [] => []

def segment (path : List Char) : List Char :=
  (untilColons (path.takeWhile (· ≠ '<')).reverse).reverse

/-- A capital starts a word after a small letter or a digit, and after a capital if a small letter
follows. -/
def startsWord (before after : Option Char) : Bool :=
  match before with
  | none => false
  | some b =>
    Text.isLowercase b || b.isDigit || (Text.isUppercase b && after.any Text.isLowercase)

def spell (before : Option Char) : List Char → List Char
  | [] => []
  | c :: cs =>
    if Text.isUppercase c then
      (if startsWord before cs.head? then ['_'] else []) ++ Text.lowercase c ++ spell (some c) cs
    else c :: spell (some c) cs

def derive (path : String) : String := String.ofList (spell none (segment path.toList))

end RolePolicy.TypeName
