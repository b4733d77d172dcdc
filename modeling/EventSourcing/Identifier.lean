import EventSourcing.OrderedMap
import EventSourcing.Json.Printer

/-!
# Identifiers

An event is identified by 128 bits, written as hexadecimal digits in groups of
8, 4, 4, 4 and 12.  Digits may be read in either case, without the hyphens, in
braces, or behind the scheme `urn:uuid:`, also in either case.  An aggregate is identified by any
text.
-/

namespace EventSourcing

/-- The identity of an event. -/
structure EventId where
  value : BitVec 128
deriving DecidableEq, Inhabited

/-- The identity of an aggregate: any text. -/
structure AggregateId where
  text : String
deriving DecidableEq, Inhabited

namespace EventId

/-- Event identities are ordered by their bits as one number. -/
instance : Ord EventId := ⟨compareOn fun id => id.value.toNat⟩

instance : Std.TransOrd EventId :=
  inferInstanceAs (Std.TransCmp (compareOn fun id : EventId => id.value.toNat))

instance : Std.LawfulEqOrd EventId where
  compare_self {id} := by
    change compare id.value.toNat id.value.toNat = .eq
    exact Std.ReflCmp.compare_self
  eq_of_compare {first second} same := by
    change compare first.value.toNat second.value.toNat = .eq at same
    have equal := Std.LawfulEqCmp.eq_of_compare same
    cases first
    cases second
    congr
    exact BitVec.eq_of_toNat_eq equal

def ofNat (number : Nat) : EventId := ⟨BitVec.ofNat 128 number⟩

/-- The thirty-two hexadecimal digits, most significant first. -/
def digits (id : EventId) : List Char :=
  (List.range 32).map fun index => Json.hexDigit (id.value.toNat / Nat.pow 16 (31 - index) % 16)

/-- Digits in groups of the given sizes, separated by hyphens. -/
def grouped : List Nat → List Char → List Char
  | [], digits => digits
  | size :: sizes, digits => digits.take size ++ '-' :: grouped sizes (digits.drop size)

def text (id : EventId) : String := String.ofList (grouped [8, 4, 4, 4] id.digits)

def hexDigit? (char : Char) : Option Nat :=
  if char.isDigit then some (char.toNat - 48)
  else if 'a' ≤ char ∧ char ≤ 'f' then some (char.toNat - 87)
  else if 'A' ≤ char ∧ char ≤ 'F' then some (char.toNat - 55)
  else none

/-- The number that exactly thirty-two hexadecimal digits stand for. -/
def ofDigits? (digits : List Char) : Option EventId :=
  if digits.length = 32 then
    (digits.foldlM (fun value char => (hexDigit? char).map (16 * value + ·)) 0).map ofNat
  else none

/-- Removes the hyphens behind groups of the given sizes; there must be no
others. -/
def ungroup? : List Nat → List Char → Option (List Char)
  | [], digits => some digits
  | size :: sizes, digits =>
    match digits.drop size with
    | '-' :: rest => (ungroup? sizes rest).map (digits.take size ++ ·)
    | _ => none

def ofHyphenated? (text : List Char) : Option EventId :=
  (ungroup? [8, 4, 4, 4] text).bind ofDigits?

/-- Reads an identity in any of its written forms, which differ in length. -/
def ofText? (text : String) : Option EventId :=
  let chars := text.toList
  match chars.length with
  | 32 => ofDigits? chars
  | 36 => ofHyphenated? chars
  | 38 =>
    if chars.head? = some '\x7b' ∧ chars.getLast? = some '\x7d' then
      ofHyphenated? (chars.drop 1).dropLast
    else none
  | 45 =>
    if (chars.take 9).map Char.toLower = "urn:uuid:".toList then ofHyphenated? (chars.drop 9)
    else none
  | _ => none

/-- A version 7 identity: a time in milliseconds, followed by bits that tell
apart the identities of one millisecond. -/
def timeOrdered (milliseconds : BitVec 48) (tail : BitVec 74) : EventId :=
  ⟨milliseconds ++ (0b0111 : BitVec 4) ++ (tail.extractLsb' 62 12) ++ (0b10 : BitVec 2) ++
    (tail.extractLsb' 0 62)⟩

def version (id : EventId) : Nat := id.value.toNat / Nat.pow 2 76 % 16

def describe (id : EventId) : String := "EventId(" ++ id.text ++ ")"

end EventId

namespace AggregateId

/-- Aggregate identities are ordered as texts. -/
instance : Ord AggregateId := ⟨compareOn AggregateId.text⟩

/-- The aggregate identity that has the text of an event identity. -/
def ofEventId (id : EventId) : AggregateId := ⟨id.text⟩

end AggregateId

end EventSourcing
