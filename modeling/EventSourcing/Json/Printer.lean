import EventSourcing.Decimal.Shortest
import EventSourcing.Json.Basic

/-!
# Compact JSON text

Values are written without blanks.  In a string the quotation mark, the
backslash and the control characters below the space are escaped, five of the
latter by their short names; everything else stands for itself.
-/

namespace EventSourcing

namespace Json

def hexDigit (value : Nat) : Char :=
  if value < 10 then Char.ofNat (48 + value) else Char.ofNat (87 + value)

/-- How a character is written inside a string. -/
def escapeChar (char : Char) : List Char :=
  match char with
  | '"' => ['\\', '"']
  | '\\' => ['\\', '\\']
  | '\n' => ['\\', 'n']
  | '\r' => ['\\', 'r']
  | '\t' => ['\\', 't']
  | _ =>
    if char.toNat = 8 then ['\\', 'b']
    else if char.toNat = 12 then ['\\', 'f']
    else if char.toNat < 32 then
      ['\\', 'u', '0', '0', hexDigit (char.toNat / 16), hexDigit (char.toNat % 16)]
    else [char]

def quote (text : String) : String :=
  String.ofList ('"' :: text.toList.flatMap escapeChar ++ ['"'])

def numberText : JsonNumber → String
  | .integer value => toString value
  | .float value => value.jsonText

mutual

def compress : Json → String
  | .null => "null"
  | .bool true => "true"
  | .bool false => "false"
  | .number value => numberText value
  | .string text => quote text
  | .array elements => "[" ++ ",".intercalate (compressElements elements) ++ "]"
  | .object members => "\x7b" ++ ",".intercalate (compressMembers members) ++ "\x7d"

def compressElements : List Json → List String
  | [] => []
  | element :: rest => compress element :: compressElements rest

def compressMembers : List (String × Json) → List String
  | [] => []
  | (key, value) :: rest => (quote key ++ ":" ++ compress value) :: compressMembers rest

end

end Json

end EventSourcing
