import EventSourcing.Json.Decode

/-!
# Tracking tokens

A token marks a place in the order in which all events were stored.  A reader
hands the token of the last event it has seen back to go on behind it.
-/

namespace EventSourcing

/-- A place in the order in which events were stored. -/
structure TrackingToken where
  index : Nat
deriving DecidableEq, Inhabited

namespace TrackingToken

/-- Tokens are ordered by place. -/
instance : Ord TrackingToken := ⟨fun first second => compare first.index second.index⟩

/-- Whether a reader who has seen everything up to the first token has also
seen the event of the second. -/
def covers (first second : TrackingToken) : Bool := second.index ≤ first.index

def text (token : TrackingToken) : String := "#" ++ toString token.index

def describe (token : TrackingToken) : String :=
  Text.wrapped "GlobalIndexToken" (toString token.index)

/-- A token as a JSON value: its place. -/
def toJson (token : TrackingToken) : Json := .ofNat token.index

def decode : Decoder TrackingToken := fun json => TrackingToken.mk <$> Decoder.unsigned64 json

end TrackingToken

end EventSourcing
