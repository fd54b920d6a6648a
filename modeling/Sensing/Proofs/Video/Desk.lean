import Mathlib.Logic.Relation
import Sensing.Proofs.Video.Consultations

/-!
# Clients at a desk

Clients come with operations that need the modes of a device. Where there are modes in the cache a
client takes them from there; otherwise it has to get the lock of the cache, and whoever has it
looks the modes up. A `Desk` is an endpoint with its clients: the one inside, who has the lock, and
those outside, who have not come to the modes yet or have been answered. The steps of all of them
interleave, and anything else may happen to the endpoint meanwhile that has nothing to do with its
modes.

The lock is the desk's and not the endpoint's: `Rig.modesBy` is what is done with the lock, so it
begins with the second of the two looks into the cache (`Desk.Step.lock`), of which the first is had
outside (`Desk.Step.found`). All that the lock does is to keep two clients from being inside at
once. So what was proved of operations whatever happens between their steps is true with the lock as
well, and only how often the device is asked depends on it.
-/

namespace Sensing

namespace VideoRig

/-- How far a client outside has come with its operation. -/
inductive Place (c : ModesCall) : Type 1 where
  /-- What is left to do before it needs the modes. -/
  | before (rest : Procedure VideoRig (Except EndpointError Unit))
  /-- The consultation that it was answered by, and what is left to do with the answer. -/
  | after (x : Consultation) (rest : Procedure VideoRig (Except EndpointError c.Answer))

/-- One step of a client outside. -/
inductive Place.Step {c : ModesCall} : Place c → VideoRig → Place c → VideoRig → Prop where
  | before {p p' : Procedure VideoRig (Except EndpointError Unit)} {r r' : VideoRig}
      (step : p.Step r p' r') : Place.Step (.before p) r (.before p') r'
  | after {x : Consultation} {p p' : Procedure VideoRig (Except EndpointError c.Answer)}
      {r r' : VideoRig} (step : p.Step r p' r') : Place.Step (.after x p) r (.after x p') r'

/-- A client outside, and the power references that it has taken and not given back. -/
structure Client where
  call : ModesCall
  place : Place call
  references : Int

namespace Client

/-- A client who has just come. -/
def fresh (call : ModesCall) : Client := ⟨call, .before call.before, 0⟩

/-- One that needs the modes now. -/
def asking (call : ModesCall) (references : Int) : Client :=
  ⟨call, .before (.done (.ok ())), references⟩

/-- One that has been answered. -/
def answered (call : ModesCall) (references : Int) (x : Consultation) : Client :=
  ⟨call, .after x (call.after x.answer), references⟩

/-- A client whose operation has come to its answer. -/
inductive Finished : Client → Prop where
  | refused {call : ModesCall} {e : EndpointError} {references : Int} :
    Finished ⟨call, .before (.done (.error e)), references⟩
  | concluded {call : ModesCall} {x : Consultation} {a : Except EndpointError call.Answer}
      {references : Int} : Finished ⟨call, .after x (.done a), references⟩

end Client

/-- The client inside: what it has done there, and what is left to do. -/
structure Visit where
  call : ModesCall
  /-- The references that it had when it came in. -/
  brought : Int
  deeds : Deeds VideoRig := []
  rest : Procedure VideoRig (Except EndpointError (List NativeMode)) := modes.run

/-- An endpoint with its clients. -/
structure Desk where
  rig : VideoRig
  inside : Option Visit := none
  outside : List Client := []
  /-- The consultations so far, the earliest first. -/
  log : List Consultation := []

/-- The power references that the client inside has taken and not given back. -/
def heldInside : Option Visit → Int
  | none => 0
  | some v => v.brought + taken v.deeds

/-- Those of the clients outside. -/
def heldOutside : List Client → Int
  | [] => 0
  | w :: ws => w.references + heldOutside ws

namespace Desk

/-- Those of all clients at the desk. -/
def references (d : Desk) : Int := heldInside d.inside + heldOutside d.outside

/-- One step of somebody. The lock is given back with the last step inside: to keep it for longer
would only keep others waiting. -/
inductive Step : Desk → Desk → Prop where
  | enter {d : Desk} (call : ModesCall) : Step d { d with outside := .fresh call :: d.outside }
  | act {d : Desk} {front back : List Client} {w : Client} {place : Place w.call} {r : VideoRig}
      (outside : d.outside = front ++ w :: back) (step : w.place.Step d.rig place r) :
    Step d { d with
      rig := r
      outside := front ++
        ⟨w.call, place, w.references + (r.own.users - d.rig.own.users)⟩ :: back }
  | leave {d : Desk} {front back : List Client} {w : Client}
      (outside : d.outside = front ++ w :: back) (finished : w.Finished) :
    Step d { d with outside := front ++ back }
  /-- Modes that are in the cache are had without the lock. -/
  | found {d : Desk} {front back : List Client} {call : ModesCall} {references : Int}
      {ms : List NativeMode} (outside : d.outside = front ++ .asking call references :: back)
      (cached : d.rig.core.modes.value = some ms) :
    Step d { d with
      outside := front ++ .answered call references ⟨[(d.rig, d.rig)], .ok ms⟩ :: back
      log := d.log ++ [⟨[(d.rig, d.rig)], .ok ms⟩] }
  | lock {d : Desk} {front back : List Client} {call : ModesCall} {references : Int}
      (free : d.inside = none) (outside : d.outside = front ++ .asking call references :: back) :
    Step d { d with inside := some { call, brought := references }, outside := front ++ back }
  | held {d : Desk} {v : Visit}
      {rest : Procedure VideoRig (Except EndpointError (List NativeMode))} {r : VideoRig}
      (inside : d.inside = some v) (step : v.rest.Step d.rig rest r)
      (unfinished : ∀ a, rest ≠ .done a) :
    Step d { d with
      rig := r
      inside := some { v with rest, deeds := v.deeds ++ [(d.rig, r)] } }
  | unlock {d : Desk} {v : Visit} {x : Consultation} {r : VideoRig} (inside : d.inside = some v)
      (step : v.rest.Step d.rig (.done x.answer) r) (deeds : x.deeds = v.deeds ++ [(d.rig, r)]) :
    Step d
      { rig := r
        outside := .answered v.call (v.brought + taken x.deeds) x :: d.outside
        log := d.log ++ [x] }
  /-- Whoever else does something leaves the modes alone, and the references of others. -/
  | beside {d : Desk} {r : VideoRig} (leaves : d.rig.LeavesModes r)
      (enough : d.references ≤ r.own.users) : Step d { d with rig := r }

/-- What a desk can come to, in any number of steps. -/
def Reaches : Desk → Desk → Prop := Relation.ReflTransGen Step

/-- A new endpoint, before any client has come. -/
def fresh (capacity limit : Nat) (layout : ClockLayout) (device : VideoDevice)
    (plan : FaultPlan VideoCall) : Desk :=
  { rig := create (.create capacity limit) layout device plan }

end Desk

/-- One client among those outside. -/
theorem heldOutside_pick (front back : List Client) (w : Client) :
    heldOutside (front ++ w :: back) = w.references + heldOutside (front ++ back) := by
  induction front with
  | nil => rfl
  | cons u front ih =>
    show u.references + heldOutside (front ++ w :: back) =
      w.references + (u.references + heldOutside (front ++ back))
    rw [ih]
    omega

theorem forall_mem_pick {front back : List Client} {w : Client} {P : Client → Prop} :
    (∀ u ∈ front ++ w :: back, P u) ↔ P w ∧ ∀ u ∈ front ++ back, P u := by
  simp only [List.forall_mem_append, List.forall_mem_cons]
  tauto

end VideoRig

end Sensing
