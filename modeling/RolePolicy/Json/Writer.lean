import RolePolicy.Json

namespace RolePolicy.Json

def hexCode (c : Char) : List Char :=
  let digits := Nat.toDigits 16 c.toNat
  List.replicate (4 - digits.length) '0' ++ digits

def writeChar (c : Char) : List Char :=
  if c = '"' || c = '\\' then ['\\', c]
  else if c.toNat < 0x20 then ['\\', 'u'] ++ hexCode c
  else [c]

def writeString (s : String) : String :=
  String.ofList ('"' :: s.toList.flatMap writeChar ++ ['"'])

def writeNumeral (n : Numeral) : String :=
  (if n.negative then "-" else "") ++ toString n.digits ++
    if n.exponent = 0 then "" else "e" ++ toString n.exponent

mutual

def write : Json → String
  | null => "null"
  | bool true => "true"
  | bool false => "false"
  | number n => writeNumeral n
  | string s => writeString s
  | array items => "[" ++ ",".intercalate (writeItems items) ++ "]"
  | object members => "\x7b" ++ ",".intercalate (writeMembers members) ++ "\x7d"
  | illegible => "\"\\ud800\""

def writeItems : List Json → List String
  | [] => []
  | a :: as => write a :: writeItems as

def writeMembers : List (String × Json) → List String
  | [] => []
  | (name, a) :: as => (writeString name ++ ":" ++ write a) :: writeMembers as

end

end RolePolicy.Json
