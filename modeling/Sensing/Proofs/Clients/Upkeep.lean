import Sensing.Proofs.Clients.Rules

/-!
# What operations do in passing

Much of what an operation does is of no consequence to most of what one wants to know about an
endpoint: the lines that it logs, the cache of modes that it fills, the calls that only ask the
device something. `Rig.Tolerates` says of rules that they allow such steps to every client, wherever
it stands; `Rig.Permits` says of one client that it may log and make certain calls.

The parts that operations of all kinds of endpoints share follow every rules that tolerate them and
leave their client where it stood.
-/

namespace Sensing

open Work (Stays)

variable {ε δ κ η : Type} [Device δ κ]

/-- A client that stands at `h` may log, and make the calls that are allowed. -/
structure Rig.Permits (allowed : κ → Prop) (R : Rules (Rig ε δ κ) η) (h : η) : Prop where
  notes : ∀ (r : Rig ε δ κ) level message, R.sees h r → R.may h r (r.note level message) h
  calls : ∀ (r : Rig ε δ κ) {c : κ}, R.sees h r → allowed c → R.may h r (r.call c).2 h

namespace Rig.Permits

variable {allowed : κ → Prop} {R : Rules (Rig ε δ κ) η} {h : η} (permits : Rig.Permits allowed R h)
include permits

/-- A line in the log leaves the client where it stands. -/
theorem report {level : LogLevel} {message : String} :
    (Rig.report level message : Procedure (Rig ε δ κ) Unit).Follows R (fun _ k => k = h) h :=
  Procedure.follows_change fun r sees => ⟨h, permits.notes r level message sees, rfl⟩

/-- The same amid work. -/
theorem say {level : LogLevel} {message : String} :
    (Work.change (Rig.note level message) : Work (Rig ε δ κ) Unit).Follows R (Stays h) h :=
  Work.stays_ofProcedure permits.report

/-- So does a call that is allowed, whatever it meets. -/
theorem attempt {c : κ} (permitted : allowed c) :
    (Rig.attempt c : Procedure (Rig ε δ κ) _).Follows R (fun _ k => k = h) h :=
  Rig.follows_attempt fun r sees => ⟨h, permits.calls r sees permitted, rfl⟩

/-- The same where its failure is that of the whole. -/
theorem request {c : κ} (permitted : allowed c) :
    (Rig.request c : Work (Rig ε δ κ) _).Follows R (Stays h) h :=
  Rig.stays_request fun r sees => permits.calls r sees permitted

end Rig.Permits

/-- Every client may log, fill the cache of modes, and make the calls that are allowed. -/
structure Rig.Tolerates (allowed : κ → Prop) (R : Rules (Rig ε δ κ) η) : Prop where
  notes : ∀ {h} (r : Rig ε δ κ) log modes,
    R.may h r { r with core := { r.core with log, modes } } h
  calls : ∀ {h} (r : Rig ε δ κ) {c : κ}, allowed c → R.may h r (r.call c).2 h

namespace Rig.Tolerates

variable {allowed : κ → Prop} {R : Rules (Rig ε δ κ) η} (tolerates : Rig.Tolerates allowed R)
  {h : η}
include tolerates

/-- What is tolerated of all is permitted to each. -/
theorem permits (h : η) : Rig.Permits allowed R h where
  notes r _ _ _ := tolerates.notes r _ _
  calls r _ _ := tolerates.calls r

theorem report {level : LogLevel} {message : String} :
    (Rig.report level message : Procedure (Rig ε δ κ) Unit).Follows R (fun _ k => k = h) h :=
  (tolerates.permits h).report

theorem say {level : LogLevel} {message : String} :
    (Work.change (Rig.note level message) : Work (Rig ε δ κ) Unit).Follows R (Stays h) h :=
  (tolerates.permits h).say

theorem attempt {c : κ} (permitted : allowed c) :
    (Rig.attempt c : Procedure (Rig ε δ κ) _).Follows R (fun _ k => k = h) h :=
  (tolerates.permits h).attempt permitted

theorem request {c : κ} (permitted : allowed c) :
    (Rig.request c : Work (Rig ε δ κ) _).Follows R (Stays h) h :=
  (tolerates.permits h).request permitted

/-- What is attempted leads where it leads, whether or not it fails. -/
theorem attempting {P : η → Prop} {what : String} {work : Work (Rig ε δ κ) Unit}
    (works : work.Follows R (fun _ k => P k) h) :
    (Rig.attempting what work).Follows R (fun _ k => P k) h := by
  refine Procedure.Follows.bind works fun answer k hk => ?_
  cases answer with
  | ok _ => exact Procedure.follows_pure hk
  | error e =>
    refine Procedure.Follows.mono (fun _ _ same => ?_) tolerates.report
    rw [same]
    exact hk

/-- An endpoint that is dropped is stopped, and closed whether or not stopping it failed. -/
theorem retireBy {P : η → Prop} {title : String} {stop close : Work (Rig ε δ κ) Unit}
    (gone : (Procedure.change fun r : Rig ε δ κ =>
      { r with core := { r.core with alive := false } }).Follows R (fun _ k => k = h) h)
    (stops : stop.Follows R (fun _ k => P k) h)
    (closes : ∀ {k}, P k → close.Follows R (fun _ k => P k) k) :
    (Rig.retireBy title stop close).Follows R (fun _ k => P k) h := by
  refine Procedure.follows_then gone fun _ => ?_
  refine Procedure.Follows.bind (tolerates.attempting stops) fun _ k hk => ?_
  refine Procedure.follows_then (Procedure.follows_look fun _ _ => rfl) fun opened => ?_
  cases opened with
  | false => exact Procedure.follows_pure hk
  | true => exact tolerates.attempting (closes hk)

variable {enumerate : Work (Rig ε δ κ) (List NativeMode)}

/-- Modes are cached or enumerated in passing. -/
theorem modesBy (he : enumerate.Follows R (Stays h) h) :
    (Rig.modesBy enumerate).Follows R (Stays h) h :=
  Rig.stays_modesBy he fun r _ => tolerates.notes r _ _

/-- So requests are routed in passing. -/
theorem resolveBy (he : enumerate.Follows R (Stays h) h) (requests : List StreamRequest) :
    (Rig.resolveBy enumerate requests).Follows R (Stays h) h :=
  Rig.stays_resolveBy he fun r _ => tolerates.notes r _ _

end Rig.Tolerates

end Sensing
