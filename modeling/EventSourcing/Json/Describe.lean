import EventSourcing.Json.Printer
import EventSourcing.Text.Quoted

/-!
# Descriptions of JSON values

Messages show a JSON value by the name of its kind and its content.
-/

namespace EventSourcing

namespace Json

mutual

def describe : Json → String
  | .null => "Null"
  | .bool value => Text.wrapped "Bool" (Text.flag value)
  | .number value => Text.wrapped "Number" (numberText value)
  | .string text => Text.wrapped "String" (Text.quoted text)
  | .array elements => "Array " ++ Text.listed (describeElements elements)
  | .object members => "Object " ++ Text.mapping (describeMembers members)

/-- The descriptions of the elements of an array. -/
def describeElements : List Json → List String
  | [] => []
  | element :: rest => describe element :: describeElements rest

/-- The quoted keys and the descriptions of the members of an object. -/
def describeMembers : List (String × Json) → List (String × String)
  | [] => []
  | (key, value) :: rest => (Text.quoted key, describe value) :: describeMembers rest

end

end Json

end EventSourcing
