import EventSourcing.Text.Visible

/-!
# Quoted text and descriptions of values

A description shows a value to a reader of messages: names, fields in braces,
parts in parentheses, lists in brackets.  Texts inside it are quoted so that
every character shows: the quotation mark and the backslash are escaped, and a
character that does not show is written by its code.
-/

namespace EventSourcing

namespace Text

/-- A description escapes a character that does not show by its code. -/
def quotedChar (char : Char) : List Char :=
  match char with
  | '"' => ['\\', '"']
  | '\\' => ['\\', '\\']
  | '\n' => ['\\', 'n']
  | '\r' => ['\\', 'r']
  | '\t' => ['\\', 't']
  | _ =>
    if char.toNat = 0 then ['\\', '0']
    else if isVisible char then [char]
    else ['\\', 'u', '\x7b'] ++ Nat.toDigits 16 char.toNat ++ ['\x7d']

/-- A text between quotation marks in which every character shows. -/
def quoted (text : String) : String :=
  String.ofList ('"' :: text.toList.flatMap quotedChar ++ ['"'])

def braced (name : String) (parts : List String) : String :=
  name ++ " \x7b " ++ ", ".intercalate parts ++ " \x7d"

def record (name : String) (fields : List (String × String)) : String :=
  braced name (fields.map fun field => field.1 ++ ": " ++ field.2)

/-- A description of named fields that leaves some fields out. -/
def openRecord (name : String) (fields : List (String × String)) : String :=
  braced name ((fields.map fun field => field.1 ++ ": " ++ field.2) ++ [".."])

def wrapped (name value : String) : String := name ++ "(" ++ value ++ ")"

def listed (elements : List String) : String := "[" ++ ", ".intercalate elements ++ "]"

def mapping (entries : List (String × String)) : String :=
  "\x7b" ++ ", ".intercalate (entries.map fun entry => entry.1 ++ ": " ++ entry.2) ++ "\x7d"

/-- A description of a value that may be absent. -/
def optional (value : Option String) : String :=
  match value with
  | some text => wrapped "Some" text
  | none => "None"

def flag (value : Bool) : String := if value then "true" else "false"

end Text

end EventSourcing
