import RolePolicy.Json

namespace RolePolicy.Json

inductive Mark
  | openBracket
  | closeBracket
  | openBrace
  | closeBrace
  | colon
  | comma
deriving DecidableEq

inductive Token
  | mark (m : Mark)
  | string (s : Option String)
  | scalar (value : Json)
deriving DecidableEq

def mark? : Char → Option Mark
  | '[' => some .openBracket
  | ']' => some .closeBracket
  | '\x7b' => some .openBrace
  | '\x7d' => some .closeBrace
  | ':' => some .colon
  | ',' => some .comma
  | _ => none

def isSpace (c : Char) : Bool := c = ' ' || c = '\n' || c = '\t' || c = '\r'

def decimal (digits : List Char) : Nat :=
  digits.foldl (fun n c => 10 * n + (c.toNat - '0'.toNat)) 0

def fraction? : List Char → Option (List Char × List Char)
  | '.' :: cs =>
    let digits := cs.takeWhile Char.isDigit
    if digits.isEmpty then none else some (digits, cs.dropWhile Char.isDigit)
  | cs => some ([], cs)

def signedExponent? (negative : Bool) (digits : List Char) : Option Int :=
  if digits.isEmpty || !digits.all Char.isDigit then none
  else some (if negative then -(decimal digits : Int) else decimal digits)

def exponent? : List Char → Option Int
  | [] => some 0
  | e :: cs =>
    if e = 'e' || e = 'E' then
      match cs with
      | '-' :: digits => signedExponent? true digits
      | '+' :: digits => signedExponent? false digits
      | digits => signedExponent? false digits
    else none

def unsigned? (negative : Bool) (cs : List Char) : Option Numeral := do
  let whole := cs.takeWhile Char.isDigit
  if whole.isEmpty || (whole.head? = some '0' && whole.length ≠ 1) then none
  let (digits, rest) ← fraction? (cs.dropWhile Char.isDigit)
  let exponent ← exponent? rest
  return ⟨negative, decimal (whole ++ digits), exponent - digits.length⟩

def numeral? : List Char → Option Numeral
  | '-' :: cs => unsigned? true cs
  | cs => unsigned? false cs

def scalar? (word : List Char) : Option Json :=
  match String.ofList word with
  | "null" => some .null
  | "true" => some (.bool true)
  | "false" => some (.bool false)
  | _ => (numeral? word).map .number

/-- Where a scan stands. What is read of a word or a string is kept in reverse, with `none` in the
place of half a surrogate pair. -/
inductive Place
  | between
  | word (read : List Char)
  | inString (read : List (Option Char))
  | escape (read : List (Option Char))
  | code (read : List (Option Char)) (high : Option Nat) (digits value : Nat)
  | lowEscape (read : List (Option Char)) (high : Nat)
  | lowMark (read : List (Option Char)) (high : Nat)

structure Scan where
  place : Place := .between
  tokens : List Token := []

def hexDigit? (c : Char) : Option Nat :=
  if c.isDigit then some (c.toNat - '0'.toNat)
  else if 'a' ≤ c ∧ c ≤ 'f' then some (c.toNat - 'a'.toNat + 10)
  else if 'A' ≤ c ∧ c ≤ 'F' then some (c.toNat - 'A'.toNat + 10)
  else none

def escaped? : Char → Option Char
  | '"' => some '"'
  | '\\' => some '\\'
  | '/' => some '/'
  | 'b' => some '\x08'
  | 'f' => some '\x0c'
  | 'n' => some '\n'
  | 'r' => some '\r'
  | 't' => some '\t'
  | _ => none

def isHigh (code : Nat) : Bool := 0xD800 ≤ code && code < 0xDC00

def isLow (code : Nat) : Bool := 0xDC00 ≤ code && code < 0xE000

def afterCode (read : List (Option Char)) (high : Option Nat) (code : Nat) : Place :=
  match high with
  | none =>
    if isHigh code then .lowEscape read code
    else .inString ((if isLow code then none else some (Char.ofNat code)) :: read)
  | some high =>
    .inString ((if isLow code then
      some (Char.ofNat (0x10000 + (high - 0xD800) * 0x400 + (code - 0xDC00)))
      else none) :: read)

def Scan.start (tokens : List Token) (c : Char) : Scan :=
  if isSpace c then ⟨.between, tokens⟩
  else match mark? c with
    | some m => ⟨.between, .mark m :: tokens⟩
    | none => if c = '"' then ⟨.inString [], tokens⟩ else ⟨.word [c], tokens⟩

def Scan.inString? (tokens : List Token) (read : List (Option Char)) (c : Char) : Option Scan :=
  if c = '"' then
    some ⟨.between, .string ((read.reverse.mapM id).map String.ofList) :: tokens⟩
  else if c = '\\' then some ⟨.escape read, tokens⟩
  else if c.toNat < 0x20 then none
  else some ⟨.inString (some c :: read), tokens⟩

def Scan.escape? (tokens : List Token) (read : List (Option Char)) (c : Char) : Option Scan :=
  if c = 'u' then some ⟨.code read none 0 0, tokens⟩
  else (escaped? c).map fun e => ⟨.inString (some e :: read), tokens⟩

def Scan.next? (s : Scan) (c : Char) : Option Scan :=
  match s.place with
  | .between => some (Scan.start s.tokens c)
  | .word read =>
    if isSpace c || (mark? c).isSome || c = '"' then
      (scalar? read.reverse).map fun value => Scan.start (.scalar value :: s.tokens) c
    else some { s with place := .word (c :: read) }
  | .inString read => Scan.inString? s.tokens read c
  | .escape read => Scan.escape? s.tokens read c
  | .code read high digits value => do
    let value := 16 * value + (← hexDigit? c)
    return { s with place :=
      if digits = 3 then afterCode read high value else .code read high (digits + 1) value }
  | .lowEscape read high =>
    if c = '\\' then some { s with place := .lowMark read high }
    else Scan.inString? s.tokens (none :: read) c
  | .lowMark read high =>
    if c = 'u' then some { s with place := .code read (some high) 0 0 }
    else Scan.escape? s.tokens (none :: read) c

def tokens? (text : String) : Option (List Token) := do
  let s ← text.toList.foldlM Scan.next? {}
  match s.place with
  | .between => return s.tokens.reverse
  | .word read => return ((.scalar (← scalar? read.reverse) : Token) :: s.tokens).reverse
  | _ => none

end RolePolicy.Json
