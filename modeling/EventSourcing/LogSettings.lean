import EventSourcing.Json.Decode

/-!
# Settings of the log

Which messages are written to the log, in which format, and whether each names
the module it comes from.  Settings that are not given have their usual values.
-/

namespace EventSourcing

/-- The format of the log. -/
inductive LogFormat where
  | json
  | compact
deriving DecidableEq, Inhabited

/-- The settings of the log. -/
structure LogSettings where
  defaultFilter : String := "info"
  format : LogFormat := .json
  withTarget : Bool := false
deriving DecidableEq, Inhabited

namespace LogFormat

def describe : LogFormat → String
  | .json => "Json"
  | .compact => "Compact"

/-- Reads a format from its name, which may also be the only key of an object
over null. -/
def decode : Decoder LogFormat
  | .string "json" | .object [("json", .null)] => .ok .json
  | .string "compact" | .object [("compact", .null)] => .ok .compact
  | .string _ => .error (.rejected "unknown log format")
  | other => Decoder.wrongKind other "string or map"

end LogFormat

def LogSettings.decode : Decoder LogSettings := fun json => do
  let found ← Decoder.record "struct TracingConfig"
    [Decoder.defaulted "default_filter" Decoder.string,
     Decoder.defaulted "format" LogFormat.decode,
     Decoder.defaulted "with_target" Decoder.boolean] json
  return { defaultFilter := ← found.getD "default_filter" Decoder.string "info"
           format := ← found.getD "format" LogFormat.decode .json
           withTarget := ← found.getD "with_target" Decoder.boolean false }

end EventSourcing
