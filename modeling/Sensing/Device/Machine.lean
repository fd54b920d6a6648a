import Sensing.Error

/-!
# Devices that may fail

A device is a state that answers calls. A *machine* is a device whose calls may also fail: a fault
plan decides it for each call, by the call and its place in the order of all calls, and a late
fault lets the call take effect before it fails. The machine keeps a journal of the calls made and
of the device as each call found it.
-/

namespace Sensing

/-- A kind of device: what each call answers, and what it does when nothing goes wrong. -/
class Device (δ : Type) (κ : outParam Type) where
  Reply : κ → Type
  perform : (c : κ) → δ → Except Cause (Reply c) × δ

/-- How one call of a device fails. -/
structure Fault where
  cause : Cause
  /-- Whether the call takes effect before it fails. -/
  late : Bool := false
  deriving DecidableEq

/-- Which calls fail: the first argument counts the calls made before. -/
abbrev FaultPlan (κ : Type) : Type := Nat → κ → Option Fault

namespace FaultPlan

/-- Nothing fails. -/
def sound {κ : Type} : FaultPlan κ := fun _ _ => none

end FaultPlan

/-- A device with its fault plan and the journal of its calls, the latest first. -/
structure Machine (δ κ : Type) where
  device : δ
  plan : FaultPlan κ := .sound
  journal : List (κ × δ) := []

namespace Machine

variable {δ κ : Type} [Device δ κ]

/-- Makes a call. -/
def call (m : Machine δ κ) (c : κ) : Except Cause (Device.Reply δ c) × Machine δ κ :=
  let journal := (c, m.device) :: m.journal
  match m.plan m.journal.length c with
  | none => let (reply, device) := Device.perform c m.device; (reply, { m with device, journal })
  | some fault =>
    let device := if fault.late then (Device.perform c m.device).2 else m.device
    (.error fault.cause, { m with device, journal })

end Machine

end Sensing
