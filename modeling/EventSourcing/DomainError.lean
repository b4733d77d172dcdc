import EventSourcing.EventStream

/-!
# Errors of the domain

A domain error says what went wrong in a decision, in the declaration of an
aggregate type, or in reading its history.  What the library itself can find
wrong is told by a cause; decisions of an application give a text.
-/

namespace EventSourcing

/-- An expectation on the version of an aggregate: the sequence number of its
last stored event. -/
inductive ExpectedVersion where
  | any
  | exact (version : Nat)
deriving DecidableEq, Inhabited

namespace ExpectedVersion

def describe : ExpectedVersion → String
  | .any => "Any"
  | .exact version => Text.wrapped "Exact" (toString version)

/-- How messages describe a version that may be missing. -/
def describeVersion (version : Option Nat) : String :=
  Text.optional (version.map toString)

/-- Whether an aggregate is at the expected version. -/
def isMetBy : ExpectedVersion → Option Nat → Bool
  | .any, _ => true
  | .exact expected, actual => actual == some expected

end ExpectedVersion

/-- What makes an aggregate type or a use of it incompatible. -/
inductive Incompatibility where
  | noIdentifier (typeName : String)
  | blankTypeIdentifier (typeName : String)
  | eventsWithoutIdentifier (typeIdentifier : String)
  | unassignedIdentifier (typeIdentifier payloadName : String)
  | pendingEvents (typeIdentifier : String) (count : Nat)
  | stated (reason : String)
deriving DecidableEq

def Incompatibility.reason : Incompatibility → String
  | .noIdentifier typeName =>
    "aggregate type " ++ typeName ++ " does not declare an identifier accessor"
  | .blankTypeIdentifier typeName =>
    "aggregate type " ++ typeName ++ " declares an empty type identifier"
  | .eventsWithoutIdentifier typeIdentifier =>
    "aggregate " ++ typeIdentifier ++
      " has events but no identifier; the first event must assign it"
  | .unassignedIdentifier typeIdentifier payloadName =>
    "aggregate " ++ typeIdentifier ++ " identifier still unassigned after handling " ++ payloadName
  | .pendingEvents typeIdentifier count =>
    "cannot replay history into aggregate " ++ typeIdentifier ++ " holding " ++ toString count ++
      " uncommitted events"
  | .stated reason => reason

/-- A failure in the domain. -/
inductive DomainError where
  | validation (reason : String)
  | invariantViolation (reason : String)
  | invalidId (reason : String)
  | notFound
  | versionConflict (expected : ExpectedVersion) (actual : Option Nat)
  | conflict (reason : String)
  | incompatible (cause : Incompatibility)
  | inaccessible (reason : String)
  | stream (error : StreamError)
deriving DecidableEq

namespace DomainError

def versionConflictReason (expected : ExpectedVersion) (actual : Option Nat) : String :=
  "optimistic concurrency check failed (expected: " ++ expected.describe ++ ", actual: " ++
    ExpectedVersion.describeVersion actual ++ ")"

def message : DomainError → String
  | .validation reason => "validation failed: " ++ reason
  | .invariantViolation reason => "invariant violated: " ++ reason
  | .invalidId reason => "invalid identifier: " ++ reason
  | .notFound => "not found"
  | .versionConflict expected actual => "conflict: " ++ versionConflictReason expected actual
  | .conflict reason => "conflict: " ++ reason
  | .incompatible cause => "incompatible aggregate: " ++ cause.reason
  | .inaccessible reason => "inaccessible aggregate state: " ++ reason
  | .stream error => error.message

end DomainError

def ExpectedVersion.check (expected : ExpectedVersion) (actual : Option Nat) :
    Except DomainError Unit :=
  if expected.isMetBy actual then .ok () else .error (.versionConflict expected actual)

end EventSourcing
