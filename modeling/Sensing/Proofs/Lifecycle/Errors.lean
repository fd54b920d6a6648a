import Sensing.Proofs.Motion.Turns
import Sensing.Proofs.Video.ObedientOperations

/-!
# Errors that are the caller's own

Where no call is made to fail, the devices of endpoints of both kinds grant every call that the
endpoints make: none is for a mode that was not offered or not committed, for a sensor that is not
there, or of a device that is not powered or not open. So there is nothing for an operation to pass
on, and it fails only because it was called out of turn or its requests cannot be served.

The argument is that of what the client with the lock knows (`Knowledge`): each operation leads from
rest to rest and fails for its caller only, and nothing else interferes.
-/

namespace Sensing

/-- Everybody in a crowd who has come to an end has succeeded or is to blame for the failure. -/
def Crowd.EarnsErrors {σ : Type} (c : Crowd σ) : Prop :=
  ∀ a, c.holder = some (.done a) ∨ .done a ∈ c.others → Earned a

/-- Operations fail for no other reason than their callers, for all arguments, whatever modes or
sensors the devices have, and in every interleaving of any number of clients: on a video device that
is told to refuse neither power nor any mode, by clients who let its power and modes alone, and on
every motion device. All calls of the devices are granted. -/
theorem callers_to_blame :
    (∀ capacity limit layout offered automatic c,
      Crowd.ReachesWhile (fun c => c.rig.machine.device.Willing) VideoOp.Considerate
        (VideoRig.unattended capacity limit layout { offered, automatic } .sound) c →
      c.EarnsErrors ∧ (VideoRig.acquire c.rig).1 = .ok () ∧
        ∀ call ∈ c.rig.machine.journal, VideoCall.Heeded call) ∧
    ∀ capacity limit frequency sensors automatic, ∃ r,
      MotionRig.construct.run.run
        (.create (.create capacity limit) frequency { sensors, automatic }) =
          .finished (.ok ()) r ∧
      ∀ c, Crowd.Reaches (fun _ => True) { rig := r } c →
        c.EarnsErrors ∧ ∀ call ∈ c.rig.machine.journal, MotionCall.Granted call := by
  refine ⟨?_, ?_⟩
  · intro capacity limit layout offered automatic c h
    obtain ⟨willing, kept⟩ := VideoRig.obedient_of_reaches h
    obtain ⟨u, known, -⟩ := kept.holder
    exact ⟨fun a done => kept.answers done, (VideoRig.acquire_heedful known.plan willing).1,
      known.heeded⟩
  · intro capacity limit frequency sensors automatic
    refine ⟨_, rfl, fun c h => ?_⟩
    have kept := MotionRig.kept_of_reaches amenable_sound (fun _ earned => earned)
      (fun turn => turn.earned) (MotionRig.describes_constructed amenable_sound rfl) h
    obtain ⟨v, known, -⟩ := kept.holder
    exact ⟨fun a done => kept.answers done, known.granted⟩

/-- A video endpoint is opened and started, and another opening is refused; all that its device was
asked for meanwhile it has granted, and so has a motion device at its construction. -/
theorem open_twice_to_blame :
    (∃ (c : Crowd VideoRig) (e : EndpointError),
      Crowd.ReachesWhile (fun c => c.rig.machine.device.Willing) VideoOp.Considerate
        (VideoRig.unattended 4 4 {} { offered := [VideoRig.shared] } .sound) c ∧
      c.holder = some (.done (.error e)) ∧ e.isOfCaller = true ∧ c.rig.core.streaming = true ∧
      4 ≤ c.rig.machine.journal.length ∧
      ∀ call ∈ c.rig.machine.journal, VideoCall.Heeded call) ∧
    ∃ r : MotionRig, r.machine.journal.length = 3 ∧
      ∀ call ∈ r.machine.journal, MotionCall.Granted call := by
  let camera : Crowd VideoRig := VideoRig.unattended 4 4 {} { offered := [VideoRig.shared] } .sound
  let gray : VideoAside := .core (.registerFormat .y8)
  let opening : VideoOp := .openStreams [{ channel := .infrared }]
  let starting : VideoOp := .start fun _ => .hold
  let willing (r : VideoRig) : Prop := r.machine.device.Willing
  -- The device has to be willing at every step, so the operations are computed step by step with
  -- that as a check.
  have computed : (do
      let (_, r) ← opening.work.run.outcomeWhile? willing (gray.apply camera.rig)
      let (_, r) ← starting.work.run.outcomeWhile? willing r
      let (refused, r) ← opening.work.run.outcomeWhile? willing r
      return !refused.isOk && r.core.streaming && decide (4 ≤ r.machine.journal.length)) =
        some true := by
    decide +kernel
  simp only [Option.bind_eq_bind, Option.bind_eq_some_iff, Prod.exists, Option.pure_def,
    Option.some.injEq, Bool.and_eq_true, decide_eq_true_eq] at computed
  obtain ⟨_, r₁, opened, _, r₂, started, answer, r₃, refused, ⟨failed, streaming⟩, calls⟩ :=
    computed
  have formatted := Procedure.holds_of_outcomeWhile? opened
  have idle := Procedure.holds_of_outcomeWhile? started
  have again := Procedure.holds_of_outcomeWhile? refused
  have registered : Crowd.Step VideoOp.Considerate camera
      { camera with rig := gray.apply camera.rig } :=
    @Crowd.Step.aside VideoRig _ VideoOp.Considerate camera gray
  have fresh : Crowd.ReachesWhile (fun c => willing c.rig) VideoOp.Considerate camera
      { camera with rig := gray.apply camera.rig } :=
    .single ⟨registered, ⟨rfl, rfl⟩, formatted⟩
  have atOpened := fresh.served formatted rfl rfl opened
  have atIdle : Crowd.ReachesWhile (fun c => willing c.rig) VideoOp.Considerate camera
      { camera with rig := r₁ } := atOpened.tail ⟨.unlock rfl, idle, idle⟩
  have atStarted := atIdle.served idle rfl rfl started
  have atStreaming : Crowd.ReachesWhile (fun c => willing c.rig) VideoOp.Considerate camera
      { camera with rig := r₂ } := atStarted.tail ⟨.unlock rfl, again, again⟩
  have atRefused := atStreaming.served again rfl rfl refused
  obtain ⟨earned, -, heeded⟩ := callers_to_blame.1 4 4 {} [VideoRig.shared] false _ atRefused
  obtain ⟨r, constructed, granted⟩ := callers_to_blame.2 4 4 0 MotionDevice.motionModule false
  cases answer with
  | ok => cases failed
  | error e =>
    refine ⟨⟨_, e, atRefused, rfl, earned _ (.inl rfl) e rfl, streaming, calls, heeded⟩, r, ?_,
      (granted _ .refl).2⟩
    cases constructed
    rfl

end Sensing
