import EventSourcing.Json.Basic

/-!
# Reading JSON text

Text is read in two passes, each of which looks at every element once: a
character automaton cuts the text into tokens, and a token automaton with a
stack of open arrays and objects builds the value.  An integer literal of
64 bits is an integer; every other number literal, and minus zero, is a double
precision number.
-/

namespace EventSourcing

namespace Json

/-- A token of JSON text. -/
inductive Token where
  | openArray
  | closeArray
  | openObject
  | closeObject
  | comma
  | colon
  | text (value : String)
  | leaf (value : Json)
deriving Inhabited

namespace Token

def digit? (char : Char) : Option Nat :=
  if char.isDigit then some (char.toNat - 48) else none

def hexDigit? (char : Char) : Option Nat :=
  if char.isDigit then some (char.toNat - 48)
  else if 'a' ≤ char ∧ char ≤ 'f' then some (char.toNat - 87)
  else if 'A' ≤ char ∧ char ≤ 'F' then some (char.toNat - 55)
  else none

/-- The natural number that a nonempty list of digits stands for. -/
def natural? (digits : List Char) : Option Nat :=
  if digits.isEmpty then none
  else digits.foldlM (fun value char => (digit? char).map fun next => 10 * value + next) 0

/-- The exponent behind the mark of a number literal. -/
def exponent? : List Char → Option Int
  | '+' :: digits => (natural? digits).map fun value => (value : Int)
  | '-' :: digits => (natural? digits).map fun value => -(value : Int)
  | digits => (natural? digits).map fun value => (value : Int)

/-- Reads on from a value while the result fits 64 bits; the digits that no
longer fit are left. -/
def keptDigits (value : Nat) : List Char → Nat × List Char
  | [] => (value, [])
  | char :: rest =>
    let next := 10 * value + (char.toNat - 48)
    if next < Nat.pow 2 64 then keptDigits next rest else (value, char :: rest)

/-- The double precision number of a literal.  Only digits that fit 64 bits
count; of the others those in front of the point are places. -/
def float? (negative : Bool) (integerDigits fractionDigits : List Char) (exponent : Int) :
    Option Binary64 :=
  let (whole, places) := keptDigits 0 integerDigits
  let (digits, ignored) := keptDigits whole fractionDigits
  Binary64.ofDecimal? negative digits
    (exponent + places.length + ignored.length - fractionDigits.length)

def magnitude? (negative : Bool) (literal : List Char) : Option JsonNumber := do
  let integerDigits := literal.takeWhile Char.isDigit
  let afterInteger := literal.dropWhile Char.isDigit
  let whole ← natural? integerDigits
  if integerDigits.length > 1 ∧ integerDigits.head? = some '0' then none
  let (fractionDigits, afterFraction) ← match afterInteger with
    | '.' :: rest =>
      let digits := rest.takeWhile Char.isDigit
      if digits.isEmpty then none else some (digits, rest.dropWhile Char.isDigit)
    | rest => some ([], rest)
  let exponent ← match afterFraction with
    | [] => some none
    | mark :: rest => if mark = 'e' ∨ mark = 'E' then (exponent? rest).map some else none
  let value : Int := if negative then -(whole : Int) else whole
  let isInteger := fractionDigits.isEmpty && exponent.isNone
  if isInteger && JsonNumber.fitsInteger value && !(negative && whole == 0) then
    some (.integer value)
  else (float? negative integerDigits fractionDigits (exponent.getD 0)).map .float

/-- The value of a bare word: a literal name or a number. -/
def word? (letters : List Char) : Option Json :=
  match String.ofList letters with
  | "null" => some .null
  | "true" => some (.bool true)
  | "false" => some (.bool false)
  | _ =>
    match letters with
    | '-' :: digits => (magnitude? true digits).map .number
    | digits => (magnitude? false digits).map .number

/-- What the character automaton is in the middle of; characters already read
are in reverse order. -/
inductive Mode where
  | between
  | word (read : List Char)
  | string (read : List Char)
  | escape (read : List Char)
  | unicode (read : List Char) (high : Option Nat) (digits value : Nat)
  | secondUnit (read : List Char) (high : Nat)
  | secondMark (read : List Char) (high : Nat)
deriving Inhabited

/-- Reads a character between tokens; found tokens are in reverse order. -/
def startToken (tokens : List Token) (char : Char) : List Token × Mode :=
  match char with
  | '[' => (.openArray :: tokens, .between)
  | ']' => (.closeArray :: tokens, .between)
  | '\x7b' => (.openObject :: tokens, .between)
  | '\x7d' => (.closeObject :: tokens, .between)
  | ',' => (.comma :: tokens, .between)
  | ':' => (.colon :: tokens, .between)
  | '"' => (tokens, .string [])
  | ' ' | '\n' | '\r' | '\t' => (tokens, .between)
  | _ => (tokens, .word [char])

def endsWord (char : Char) : Bool :=
  char ∈ ['[', ']', '\x7b', '\x7d', ',', ':', '"', ' ', '\n', '\r', '\t']

/-- What a finished `\u` escape means: a character, or the first unit of a pair. -/
def unicodeUnit (read : List Char) (high : Option Nat) (value : Nat) : Option Mode :=
  match high with
  | some first =>
    if 0xdc00 ≤ value ∧ value < 0xe000 then
      some (.string (Char.ofNat (0x10000 + (first - 0xd800) * 0x400 + (value - 0xdc00)) :: read))
    else none
  | none =>
    if 0xd800 ≤ value ∧ value < 0xdc00 then some (.secondUnit read value)
    else if 0xdc00 ≤ value ∧ value < 0xe000 then none
    else some (.string (Char.ofNat value :: read))

def readChar : List Token × Mode → Char → Option (List Token × Mode)
  | (tokens, .between), char => some (startToken tokens char)
  | (tokens, .word read), char =>
    if endsWord char then
      (word? read.reverse).map fun value => startToken (.leaf value :: tokens) char
    else some (tokens, .word (char :: read))
  | (tokens, .string read), char =>
    match char with
    | '"' => some (.text (String.ofList read.reverse) :: tokens, .between)
    | '\\' => some (tokens, .escape read)
    | _ => if char.toNat < 32 then none else some (tokens, .string (char :: read))
  | (tokens, .escape read), char =>
    match char with
    | '"' | '\\' | '/' => some (tokens, .string (char :: read))
    | 'b' => some (tokens, .string (Char.ofNat 8 :: read))
    | 'f' => some (tokens, .string (Char.ofNat 12 :: read))
    | 'n' => some (tokens, .string ('\n' :: read))
    | 'r' => some (tokens, .string ('\r' :: read))
    | 't' => some (tokens, .string ('\t' :: read))
    | 'u' => some (tokens, .unicode read none 0 0)
    | _ => none
  | (tokens, .unicode read high digits value), char => do
    let next ← hexDigit? char
    let value := 16 * value + next
    if digits = 3 then (unicodeUnit read high value).map fun mode => (tokens, mode)
    else some (tokens, .unicode read high (digits + 1) value)
  | (tokens, .secondUnit read high), char =>
    if char = '\\' then some (tokens, .secondMark read high) else none
  | (tokens, .secondMark read high), char =>
    if char = 'u' then some (tokens, .unicode read (some high) 0 0) else none

def ofText? (text : String) : Option (List Token) := do
  let (tokens, mode) ← text.toList.foldlM readChar ([], .between)
  match mode with
  | .between => some tokens.reverse
  | .word read => (word? read.reverse).map fun value => (.leaf value :: tokens).reverse
  | _ => none

end Token

/-- An array or object that is still open; what it holds is in reverse order. -/
inductive OpenValue where
  | array (elements : List Json)
  | object (members : List (String × Json)) (key : String)

/-- What the token automaton expects, under a stack of open values. -/
inductive Expectation where
  | value (stack : List OpenValue)
  | firstElement (stack : List OpenValue)
  | firstKey (stack : List OpenValue)
  | key (members : List (String × Json)) (stack : List OpenValue)
  | colon (members : List (String × Json)) (key : String) (stack : List OpenValue)
  | afterValue (value : Json) (stack : List OpenValue)

def startValue (stack : List OpenValue) : Token → Option Expectation
  | .openArray => some (.firstElement stack)
  | .openObject => some (.firstKey stack)
  | .text value => some (.afterValue (.string value) stack)
  | .leaf value => some (.afterValue value stack)
  | _ => none

def continueValue (value : Json) : List OpenValue → Token → Option Expectation
  | .array elements :: stack, .comma => some (.value (.array (value :: elements) :: stack))
  | .array elements :: stack, .closeArray =>
    some (.afterValue (.array (value :: elements).reverse) stack)
  | .object members key :: stack, .comma => some (.key ((key, value) :: members) stack)
  | .object members key :: stack, .closeObject =>
    some (.afterValue (ofMembers ((key, value) :: members).reverse) stack)
  | _, _ => none

def readToken : Expectation → Token → Option Expectation
  | .value stack, token => startValue stack token
  | .firstElement stack, .closeArray => some (.afterValue (.array []) stack)
  | .firstElement stack, token => startValue (.array [] :: stack) token
  | .firstKey stack, .closeObject => some (.afterValue (.object []) stack)
  | .firstKey stack, .text key => some (.colon [] key stack)
  | .key members stack, .text key => some (.colon members key stack)
  | .colon members key stack, .colon => some (.value (.object members key :: stack))
  | .afterValue value stack, token => continueValue value stack token
  | _, _ => none

def parse? (text : String) : Option Json := do
  match ← (← Token.ofText? text).foldlM readToken (.value []) with
  | .afterValue value [] => some value
  | _ => none

end Json

end EventSourcing
