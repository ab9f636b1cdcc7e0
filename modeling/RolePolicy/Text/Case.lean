import RolePolicy.Text.CaseTable

namespace RolePolicy.Text

def isUppercase (c : Char) : Bool :=
  if c.toNat < 0x80 then c.isUpper else inSpans uppercaseSpans c

def isLowercase (c : Char) : Bool :=
  if c.toNat < 0x80 then c.isLower else inSpans lowercaseSpans c

/-- The one letter whose lower-case form has two characters keeps its dot as a combining mark. -/
def lowercase (c : Char) : List Char :=
  if c.toNat < 0x80 then [c.toLower]
  else if c = 'İ' then ['i', '\u0307']
  else match lowercaseShifts.find? (·.1.contains c.toNat) with
    | some (_, offset) => [Char.ofNat (c.toNat + offset).toNat]
    | none => [c]

/-- Every character is taken by itself, so a capital sigma gets the ordinary small form also at the
end of a word, where text in lower case has the final form. No word of a setting has either. -/
def lower (s : String) : String := String.ofList (s.toList.flatMap lowercase)

end RolePolicy.Text
