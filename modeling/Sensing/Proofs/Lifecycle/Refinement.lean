import Sensing.Proofs.Motion.Operations
import Sensing.Proofs.Video.Power

/-!
# Endpoints refine the machine of phases

Both kinds of endpoint are closed, opened or streaming, and the four operations that lead from one
phase to another do exactly what `Phase.after` and `Phase.refuses` say, for all arguments, under
every fault schedule and whatever other clients do at the same time.

Main result: `endpoints_refine_phases`. What an operation does is its own theorem in the modules on
operations; here it is put together with the books of the crowd, in which nobody but the holder of
the configuration lock can change the phase.
-/

namespace Sensing

/-- An endpoint that begins as `fresh` refines the machine of phases. -/
structure RefinesPhases {σ : Type} [Served σ] (core : σ → Core) (fresh : σ) : Prop where
  initially : (core fresh).InPhase .closed
  /-- The endpoint is in a phase at all times. -/
  phase : ∀ {c : Crowd σ}, Crowd.Reaches (fun _ => True) { rig := fresh } c →
    ∃ p, (core c.rig).InPhase p
  opened_of_streaming : ∀ {c : Crowd σ}, Crowd.Reaches (fun _ => True) { rig := fresh } c →
    (core c.rig).streaming = true → (core c.rig).opened = true
  /-- Only the operation that holds the lock leads to another phase. -/
  unchanged : ∀ {c c' : Crowd σ} {p : Phase},
    Crowd.Reaches (fun _ => True) { rig := fresh } c → (core c.rig).InPhase p →
    Crowd.Step (fun _ => True) c c' → (core c'.rig).InPhase p ∨ c.HolderMoves c'
  /-- When it answers, it has led where the machine says, and answers what the machine says. -/
  served : ∀ {c c' : Crowd σ} {p : Phase} {op : Served.Op σ} {t : Transition}
    {a : Except EndpointError Unit}, Crowd.Reaches (fun _ => True) { rig := fresh } c →
    (core c.rig).InPhase p → Served.transition op = some t →
    Crowd.Serves (fun _ => True) op c a c' →
    (core c'.rig).InPhase (p.after t a.isOk) ∧ p.Answers t a
  /-- A misuse is a single step, which changes nothing and makes no call. -/
  refused : ∀ {s : σ} {p : Phase} {op : Served.Op σ} {t : Transition},
    (core s).InPhase p → Served.transition op = some t → p.refuses t = true →
    ∃ detail, (Served.work op).run.Step s (.done (.error (.precondition detail))) s
  /-- So is stopping what does not stream. -/
  idle : ∀ {s : σ} {p : Phase} {op : Served.Op σ}, (core s).InPhase p → p ≠ .streaming →
    Served.transition op = some .stop → (Served.work op).run.Step s (.done (.ok ())) s

namespace Work

variable {σ α β : Type} {s : σ}

/-- Work whose first check fails ends there. -/
theorem step_of_check {view : σ → Except EndpointError α} {f : α → Work σ β} {e : EndpointError}
    (h : view s = .error e) : (check view >>= f).run.Step s (.done (.error e)) s := by
  have first := Procedure.Step.act (fun s => (view s, s))
    (fun a => Procedure.bind (.done a) (ExceptT.bindCont f)) s
  rw [h] at first
  exact first

/-- Work that is left out ends where it was found unnecessary. -/
theorem step_of_look {view : σ → Bool} {body : Work σ Unit} (h : view s = false) :
    (do if ← look view then body : Work σ Unit).run.Step s (.done (.ok ())) s := by
  have first := Procedure.Step.act (fun s => (view s, s))
    (fun b => (if b then body else pure () : Work σ Unit).run) s
  rw [h] at first
  exact first

end Work

/-- Where a check guards an operation, a misuse ends it. -/
theorem step_of_guards {σ : Type} {view : σ → Except EndpointError Unit} {f : Unit → Work σ Unit}
    {s : σ} {p : Phase} {t : Transition} (guard : p.Guards t (view s)) (h : p.refuses t = true) :
    ∃ detail, (Work.check view >>= f).run.Step s (.done (.error (.precondition detail))) s := by
  rcases guard with ⟨-, detail, hview⟩ | ⟨admitted, -⟩
  · exact ⟨detail, Work.step_of_check hview⟩
  · rw [h] at admitted
    cases admitted

/-- Books in order make a refinement. -/
theorem refines_of_ledger {σ : Type} [Served σ] {L : Ledger σ} {core : σ → Core} {fresh : σ}
    (fits : L.Fits fun _ => True) (phase : ∀ {p s}, L.phase p s → (core s).InPhase p)
    (start : L.Kept Ledger.Rests .closed { rig := fresh })
    (refused : ∀ {s : σ} {p : Phase} {op : Served.Op σ} {t : Transition},
      (core s).InPhase p → Served.transition op = some t → p.refuses t = true →
      ∃ detail, (Served.work op).run.Step s (.done (.error (.precondition detail))) s)
    (idle : ∀ {s : σ} {p : Phase} {op : Served.Op σ}, (core s).InPhase p → p ≠ .streaming →
      Served.transition op = some .stop → (Served.work op).run.Step s (.done (.ok ())) s) :
    RefinesPhases core fresh where
  initially := phase start.phase
  phase := by
    intro c hreach
    obtain ⟨p, kept⟩ := Ledger.kept_of_reaches fits start hreach
    exact ⟨p, phase kept.phase⟩
  opened_of_streaming := by
    intro c hreach streaming
    obtain ⟨p, kept⟩ := Ledger.kept_of_reaches fits start hreach
    have hp := phase kept.phase
    rw [hp.streaming] at streaming
    rw [hp.opened]
    exact Phase.isOpened_of_isStreaming streaming
  unchanged := by
    intro c c' p hreach hp hstep
    obtain ⟨q, kept⟩ := Ledger.kept_of_reaches fits start hreach
    obtain rfl : p = q := hp.unique (phase kept.phase)
    obtain ⟨q, kept', rfl | hmoves⟩ := kept.next fits hstep
    · exact .inl (phase kept'.phase)
    · exact .inr hmoves
  served := by
    intro c c' p op t a hreach hp transition hserves
    obtain ⟨q, kept⟩ := Ledger.kept_of_reaches fits start hreach
    obtain rfl : p = q := hp.unique (phase kept.phase)
    -- The phase it was called in is the one it knows when it gets the lock.
    obtain ⟨kept', answers⟩ := Ledger.kept_of_serves fits kept transition hserves
    exact ⟨phase kept'.phase, answers⟩
  refused := refused
  idle := idle

namespace VideoRig

/-- A misuse of a video endpoint is refused in one step, -/
theorem refused {r : VideoRig} {p : Phase} {op : VideoOp} {t : Transition} (hp : r.core.InPhase p)
    (transition : op.transition = some t) (h : p.refuses t = true) :
    ∃ detail, op.work.run.Step r (.done (.error (.precondition detail))) r := by
  cases op <;> cases transition
  · exact step_of_guards (Core.checkOpen_guards title hp) h
  · exact step_of_guards (Core.checkClose_guards title hp) h
  · exact step_of_guards (Core.checkStart_guards title hp) h
  · cases p <;> cases h

/-- and stopping what does not stream succeeds in one. -/
theorem idle {r : VideoRig} {p : Phase} {op : VideoOp} (hp : r.core.InPhase p)
    (quiet : p ≠ .streaming) (transition : op.transition = some .stop) :
    op.work.run.Step r (.done (.ok ())) r := by
  cases op <;> cases transition
  exact Work.step_of_look (hp.streaming.trans (Phase.isStreaming_eq_false quiet))

end VideoRig

namespace MotionRig

/-- The same goes for motion endpoints: a misuse is refused, -/
theorem refused {r : MotionRig} {p : Phase} {op : MotionOp} {t : Transition}
    (hp : r.core.InPhase p) (transition : op.transition = some t) (h : p.refuses t = true) :
    ∃ detail, op.work.run.Step r (.done (.error (.precondition detail))) r := by
  cases op <;> cases transition
  · exact step_of_guards (Core.checkOpen_guards title hp) h
  · exact step_of_guards (Core.checkClose_guards title hp) h
  · exact step_of_guards (Core.checkStart_guards title hp) h
  · cases p <;> cases h

/-- and stopping what does not stream succeeds. -/
theorem idle {r : MotionRig} {p : Phase} {op : MotionOp} (hp : r.core.InPhase p)
    (quiet : p ≠ .streaming) (transition : op.transition = some .stop) :
    op.work.run.Step r (.done (.ok ())) r := by
  cases op <;> cases transition
  exact Work.step_of_look (hp.streaming.trans (Phase.isStreaming_eq_false quiet))

end MotionRig

/-- Video endpoints, and motion endpoints once they are constructed, refine the machine of phases,
for all arguments of their operations, every fault schedule and every interleaving of any number of
clients. -/
theorem endpoints_refine_phases :
    (∀ capacity limit layout device plan,
      RefinesPhases Rig.core
        (VideoRig.create (.create capacity limit) layout device plan)) ∧
    ∀ capacity limit frequency device plan (r : MotionRig),
      MotionRig.construct.run.run (.create (.create capacity limit) frequency device plan) =
        .finished (.ok ()) r →
      RefinesPhases Rig.core r := by
  refine ⟨?_, ?_⟩
  · intro capacity limit layout device plan
    exact refines_of_ledger VideoRig.fits_anything (fun hp => hp.1)
      (VideoRig.kept_unattended capacity limit layout device plan _) VideoRig.refused VideoRig.idle
  · intro capacity limit frequency device plan r hrun
    obtain ⟨-, -, hp, -⟩ := Ledger.balance_run (L := MotionRig.ledger) (p := .closed)
      (n := 0) (m := 0)
      MotionRig.follows_construct ⟨rfl, rfl⟩ trivial hrun
    exact refines_of_ledger MotionRig.fits (fun hp => hp) ⟨hp, 0, 0, rfl, rfl, trivial⟩
      MotionRig.refused MotionRig.idle

/-- Closing a motion module's endpoint that was never opened is a misuse. -/
theorem closing_closed_motion_refused :
    ∃ r : MotionRig, MotionRig.construct.run.run
        (.create (.create 4 4) 0 { sensors := MotionDevice.motionModule } .sound) =
          .finished (.ok ()) r ∧
      ∃ detail, MotionRig.close.run.Step r (.done (.error (.precondition detail))) r := by
  have constructed := endpoints_refine_phases.2 4 4 0 { sensors := MotionDevice.motionModule }
    .sound _ rfl
  have transition : MotionOp.close.transition = some .close := rfl
  exact ⟨_, rfl, constructed.refused constructed.initially transition rfl⟩

end Sensing
