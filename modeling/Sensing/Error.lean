/-!
# Errors

Two kinds of failure are told apart. A `Cause` is what a device or a control reports: a chain of
messages, the outermost first. An `EndpointError` is what an endpoint answers its caller; its
constructor says which promise was broken and its text says how. A device's cause becomes a
`transport` error that carries the whole chain.
-/

namespace Sensing

/-- A failure reported from below: what went wrong, and why, and why that. -/
structure Cause where
  outermost : String
  inner : List String := []
  deriving DecidableEq, Repr, Inhabited

namespace Cause

/-- The whole chain on one line. -/
def text (c : Cause) : String := ": ".intercalate (c.outermost :: c.inner)

/-- The chain with a note appended to its innermost message. -/
def noted (note : String) (c : Cause) : Cause :=
  match c.inner.getLast? with
  | none => ⟨c.outermost ++ note, []⟩
  | some last => ⟨c.outermost, c.inner.dropLast ++ [last ++ note]⟩

end Cause

/-- A failed operation of an endpoint. -/
inductive EndpointError where
  /-- The operation was called in the wrong lifecycle state. -/
  | precondition (detail : String)
  /-- The control or information field was never registered. -/
  | notSupported (detail : String)
  /-- No registered pixel format and native mode serve a request. -/
  | profileNotFound (request : String)
  | invalidArgument (detail : String)
  /-- The device could not be powered; the number of its users is unchanged. -/
  | power (detail : String)
  /-- The device failed. -/
  | transport (detail : String)
  deriving DecidableEq, Repr

namespace EndpointError

/-- The name of the error's kind. -/
def kind : EndpointError → String
  | .precondition _ => "Precondition"
  | .notSupported _ => "NotSupported"
  | .profileNotFound _ => "ProfileNotFound"
  | .invalidArgument _ => "InvalidArgument"
  | .power _ => "Power"
  | .transport _ => "Transport"

/-- The text shown to a caller. -/
def message : EndpointError → String
  | .precondition detail => "wrong call sequence: " ++ detail
  | .notSupported detail => "not supported: " ++ detail
  | .profileNotFound request => "no native profile satisfies request " ++ request
  | .invalidArgument detail => "invalid argument: " ++ detail
  | .power detail => "power state transition failed: " ++ detail
  | .transport detail => "transport error: " ++ detail

/-- Whether the error is a misuse of the lifecycle, rather than a missing capability or a failing
device. -/
def isPrecondition : EndpointError → Bool
  | .precondition _ => true
  | _ => false

/-- The error for a failing device. -/
def ofCause (c : Cause) : EndpointError := .transport c.text

/-- The cause that an endpoint's error is for a control that runs through the endpoint. -/
def toCause (e : EndpointError) : Cause := ⟨e.message, []⟩

end EndpointError

end Sensing
