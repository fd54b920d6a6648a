import Sensing.Proofs.Clients.Success
import Sensing.Proofs.Sorted
import Sensing.Proofs.Video.Consultations
import Sensing.Proofs.Video.Upkeep

/-!
# The principal requests

An endpoint lists, for each mode, what the first registered format with the mode's code makes of it
(`Offer`). The list is what such requests there are, in descending order: no request is lost, none
is listed twice, and nothing else gets in. Modes that the device reports again or in another order
change nothing then, and neither do formats that are registered behind another one with their code.

Main result: `VideoRig.principal_exact`. Whoever has the modes, be it from the cache or because the
device reports them, has that list of requests.
-/

namespace Sensing

/-! ## What a mode is good for -/

/-- The format is the first registered one with the code. -/
def PixelFormat.IsFirst (formats : List PixelFormat) (code : FourCC) (pf : PixelFormat) : Prop :=
  ∃ before after : List PixelFormat, formats = before ++ pf :: after ∧ pf.format = code ∧
    ∀ q ∈ before, q.format ≠ code

/-- The request is for an output of the first registered format with the mode's code, in the size
and at the rate of the mode. -/
def StreamRequest.Offer (formats : List PixelFormat) (m : NativeMode) (r : StreamRequest) : Prop :=
  (r.width = m.width ∧ r.height = m.height ∧ r.fps = m.fps) ∧
    ∃ pf : PixelFormat, pf.IsFirst formats m.format ∧
      ∃ u ∈ pf.unpackers, (r.channel, r.encoding) ∈ u.outputs

/-- The first one with the code is the one that is looked up. -/
theorem PixelFormat.find?_eq_some_iff {formats : List PixelFormat} {code : FourCC}
    {pf : PixelFormat} :
    formats.find? (fun pf => pf.format = code) = some pf ↔ pf.IsFirst formats code := by
  rw [List.find?_eq_some_iff_append]
  constructor
  · rintro ⟨hcode, before, after, split, others⟩
    refine ⟨before, after, split, of_decide_eq_true hcode, fun q hq same => ?_⟩
    simpa [same] using others q hq
  · rintro ⟨before, after, split, hcode, others⟩
    exact ⟨decide_eq_true hcode, before, after, split, fun q hq => by simpa using others q hq⟩

/-- A format behind another one with its code is never the first. -/
theorem PixelFormat.find?_shadowed {before after : List PixelFormat} {pf : PixelFormat}
    (shadowed : ∃ q ∈ before, q.format = pf.format) (code : FourCC) :
    (before ++ pf :: after).find? (fun pf => pf.format = code) =
      (before ++ after).find? fun pf => pf.format = code := by
  rw [List.find?_append, List.find?_append]
  by_cases same : pf.format = code
  · obtain ⟨q, hq, other⟩ := shadowed
    cases found : before.find? fun pf => pf.format = code with
    | some _ => rfl
    | none =>
      have differs := List.find?_eq_none.1 found q hq
      simp [other, same] at differs
  · rw [List.find?_cons_of_neg (by simpa using same)]

namespace VideoRig

variable {formats formats' : List PixelFormat} {ms ms' : List NativeMode} {m : NativeMode}
  {request : StreamRequest} {r r' : VideoRig}

/-- What a mode offers, said without the search. -/
theorem mem_offers : request ∈ offers formats m ↔ request.Offer formats m := by
  unfold offers StreamRequest.Offer
  cases found : formats.find? fun pf => pf.format = m.format with
  | none =>
    constructor
    · intro h
      cases h
    · rintro ⟨-, pf, first, -⟩
      rw [PixelFormat.find?_eq_some_iff.2 first] at found
      cases found
  | some pf =>
    simp only [List.mem_flatMap, List.mem_map]
    constructor
    · rintro ⟨u, hu, ⟨channel, encoding⟩, output, rfl⟩
      exact ⟨⟨rfl, rfl, rfl⟩, pf, PixelFormat.find?_eq_some_iff.1 found, u, hu, output⟩
    · rintro ⟨⟨width, height, fps⟩, pf', first, u, hu, output⟩
      rw [PixelFormat.find?_eq_some_iff.2 first] at found
      cases found
      refine ⟨u, hu, _, output, ?_⟩
      obtain ⟨channel, _, _, _, encoding⟩ := request
      dsimp only at width height fps
      subst width height fps
      rfl

/-- Nothing else is listed, and none of it is left out. -/
theorem mem_principalRequests :
    request ∈ principalRequests formats ms ↔ ∃ m ∈ ms, request.Offer formats m := by
  rw [principalRequests, List.mem_reverse,
    mem_sortByKey_iff fun _ _ => StreamRequest.key_injective, List.mem_flatMap]
  simp only [mem_offers]

/-- Modes count once, in whatever order they come. -/
theorem principalRequests_congr (same : ∀ m, m ∈ ms' ↔ m ∈ ms) :
    principalRequests formats ms' = principalRequests formats ms := by
  unfold principalRequests
  refine congrArg List.reverse (sortByKey_congr (fun _ _ => StreamRequest.key_injective) ?_)
  intro request
  simp only [List.mem_flatMap, same]

/-- Of each code only the first format counts. -/
theorem principalRequests_of_find? (same : ∀ code : FourCC,
      formats'.find? (fun pf => pf.format = code) = formats.find? fun pf => pf.format = code) :
    principalRequests formats' ms = principalRequests formats ms := by
  have offered : offers formats' = offers formats := by
    funext m
    unfold offers
    rw [same]
  unfold principalRequests
  rw [offered]

/-- What the principal requests are. -/
structure Exact (formats : List PixelFormat) (ms : List NativeMode)
    (requests : List StreamRequest) : Prop where
  /-- By channel, width, height, rate and encoding, each request is below the one before. -/
  descending : requests.Pairwise fun a b => b.key < a.key
  once : requests.Nodup
  members : ∀ request, request ∈ requests ↔ ∃ m ∈ ms, request.Offer formats m
  /-- Neither the order of the modes matters nor how often they come. -/
  reported : ∀ ms', (∀ m, m ∈ ms' ↔ m ∈ ms) → principalRequests formats ms' = requests
  /-- Nor does a format that is registered behind another one with its code. -/
  shadowed : ∀ before pf after, formats = before ++ after →
    (∃ q ∈ before, q.format = pf.format) → principalRequests (before ++ pf :: after) ms = requests

/-- Sorting and removing repetitions loses nothing and adds nothing. -/
theorem principalRequests_exact (formats : List PixelFormat) (ms : List NativeMode) :
    Exact formats ms (principalRequests formats ms) := by
  have descending : (principalRequests formats ms).Pairwise fun a b => b.key < a.key :=
    List.pairwise_reverse.2 (pairwise_sortByKey StreamRequest.key _)
  refine ⟨descending, ?_, fun _ => mem_principalRequests, fun _ => principalRequests_congr, ?_⟩
  · refine List.Pairwise.imp ?_ descending
    rintro a b less rfl
    exact List.lt_irrefl _ less
  · rintro before pf after rfl shadowed
    exact principalRequests_of_find? (PixelFormat.find?_shadowed shadowed)

/-! ## Having the modes -/

theorem release_leavesModes (r : VideoRig) : r.LeavesModes (release r) := by
  unfold release
  split
  · exact .refl r
  · split
    · exact leavesModes_note r _ _
    · have fewer := leavesModes_withUsers r (r.own.users - 1)
      dsimp only
      split
      · exact fewer.trans (powerDown_cases _).1.leavesModes
      · exact fewer

/-- Where there are no modes in the cache, those that are had are what the device has reported. -/
theorem keepReport_had {reported : List NativeMode} (empty : r.core.modes.value = none)
    (had : (keepReport reported).run r = .finished (.ok ms) r') :
    ms = distinct reported ∧ r'.reports = r.reports ∧ r'.core.formats = r.core.formats := by
  have noted := leavesModes_note r .info
    s!"{title}: enumerated {(distinct reported).length} native profiles"
  have leaves : r.LeavesModes (release (noteReport reported r)) :=
    noted.trans (release_leavesModes _)
  have formats : (release (noteReport reported r)).core.formats = r.core.formats := by
    rw [(release_upkeep _).core]
    rfl
  -- Nobody has filled the cache meanwhile, so it keeps what was reported.
  have filled : fill (distinct reported) (release (noteReport reported r)) =
      (.ok (distinct reported), cache (distinct reported) (release (noteReport reported r))) := by
    have still : (release (noteReport reported r)).core.modes.fill (distinct reported) =
        (distinct reported, ⟨some (distinct reported)⟩) := by
      unfold Once.fill
      rw [leaves.modes, empty]
    unfold fill Rig.onCore cache
    dsimp only
    rw [still]
  change Outcome.finished (fill (distinct reported) _).1 (fill (distinct reported) _).2 = _ at had
  rw [filled] at had
  cases had
  exact ⟨rfl, leaves.reports, formats⟩

/-- The modes that are had were in the cache, or the device has just reported them. -/
theorem modes_had (had : modes.run.run r = .finished (.ok ms) r') :
    r'.core.formats = r.core.formats ∧ (r.core.modes.value = some ms ∨
      r.core.modes.value = none ∧ ∃ reported, r'.reports = r.reports ++ [reported] ∧
        ms = distinct reported) := by
  rw [modes_run, Procedure.run] at had
  dsimp only at had
  cases found : r.core.modes.value with
  | some cached =>
    rw [found] at had
    cases had
    exact ⟨rfl, .inl rfl⟩
  | none =>
    rw [found, Procedure.run] at had
    obtain ⟨leaves, -⟩ := acquire_counts r
    have formats : (acquire r).2.core.formats = r.core.formats := by
      rw [(acquire_upkeep r).core]
    cases powered : (acquire r).1 with
    -- Without power or without an answer no modes are had at all.
    | error e =>
      rw [powered] at had
      cases had
    | ok _ =>
      rw [powered, askDevice, Procedure.run] at had
      cases answer : ((acquire r).2.call VideoCall.enumerate).1 with
      | error cause =>
        rw [answer] at had
        cases had
      | ok reported =>
        rw [answer] at had
        obtain ⟨rfl, reports, same⟩ := keepReport_had (leaves.modes ▸ found) had
        refine ⟨same.trans formats, .inr ⟨rfl, reported, ?_, rfl⟩⟩
        have report : VideoCall.report? (acquire r).2.machine .enumerate = some reported :=
          congrArg Except.toOption answer
        rw [reports, reports_call, leaves.reports, report]
        rfl

/-- With the modes, the principal requests are had as well, and nothing more is needed. -/
theorem principal_of_modes (had : modes.run.run r = .finished (.ok ms) r') :
    ∃ r'', principal.run.run r = .finished (.ok (principalRequests r'.core.formats ms)) r'' := by
  have modes : modes.Gives r fun a s => a = ms ∧ s = r' := ⟨ms, r', had, rfl, rfl⟩
  have gives : principal.Gives r fun requests _ =>
      requests = principalRequests r'.core.formats ms := by
    refine modes.bind ?_
    rintro _ r₁ ⟨rfl, rfl⟩
    refine Work.Gives.bind (P := fun formats _ => formats = r₁.core.formats)
      (Work.gives_look rfl) ?_
    rintro _ r₂ rfl
    refine Work.Gives.bind (P := fun _ _ => True)
      (Work.gives_forIn (I := fun _ => True) (fun code _ _ _ => ?_) _ trivial)
      fun _ _ _ => Work.gives_pure rfl
    exact (Work.gives_change (P := fun _ _ => True) trivial).bind fun _ _ _ =>
      Work.gives_pure trivial
  obtain ⟨_, r'', run, rfl⟩ := gives
  exact ⟨r'', run⟩

/-- Whoever has the modes has the principal requests: of what the registered formats make of the
modes, each request once, the greatest first. -/
theorem principal_exact (had : modes.run.run r = .finished (.ok ms) r') :
    (r.core.modes.value = some ms ∨ r.core.modes.value = none ∧
      ∃ reported, r'.reports = r.reports ++ [reported] ∧ ms = distinct reported) ∧
    ∃ requests r'', principal.run.run r = .finished (.ok requests) r'' ∧
      Exact r.core.formats ms requests := by
  obtain ⟨formats, source⟩ := modes_had had
  obtain ⟨r'', run⟩ := principal_of_modes had
  rw [formats] at run
  exact ⟨source, _, r'', run, principalRequests_exact _ _⟩

/-- Color and infrared of one image, or color in another encoding. -/
def tinted : PixelFormat :=
  ⟨.yuy2, 1, 2,
    [⟨false, .copy, [(.color, .yuyv), (.infrared, .y8)]⟩, ⟨false, .copy, [(.color, .rgb8)]⟩]⟩

/-- The camera reports the smaller mode twice and a mode of an unknown code, and the second format
with the code of the others is no use. -/
theorem tinted_exact :
    let camera := (unattended 4 4 {}
      { offered := [⟨4, 2, 30, .yuy2⟩, ⟨8, 4, 30, .yuy2⟩, ⟨4, 2, 30, .yuy2⟩, ⟨4, 2, 30, .rgb3⟩] }
      .sound).rig
    let register (pf : PixelFormat) : VideoAside := .core (.registerFormat pf)
    let r := (register .yuy2).apply ((register tinted).apply camera)
    ∃ ms r', modes.run.run r = .finished (.ok ms) r' ∧ ∃ requests r'',
      principal.run.run r = .finished (.ok requests) r'' ∧
      requests = [⟨.infrared, 8, 4, 30, .y8⟩, ⟨.infrared, 4, 2, 30, .y8⟩,
        ⟨.color, 8, 4, 30, .rgb8⟩, ⟨.color, 8, 4, 30, .yuyv⟩, ⟨.color, 4, 2, 30, .rgb8⟩,
        ⟨.color, 4, 2, 30, .yuyv⟩] ∧
      Exact r.core.formats ms requests := by
  intro camera register r
  have computed : (do
      let (answer, _) ← modes.run.outcome? r
      let ms ← answer.toOption
      return principalRequests r.core.formats ms) =
      some [⟨.infrared, 8, 4, 30, .y8⟩, ⟨.infrared, 4, 2, 30, .y8⟩, ⟨.color, 8, 4, 30, .rgb8⟩,
        ⟨.color, 8, 4, 30, .yuyv⟩, ⟨.color, 4, 2, 30, .rgb8⟩, ⟨.color, 4, 2, 30, .yuyv⟩] := by
    decide +kernel
  simp only [Option.bind_eq_bind, Option.bind_eq_some_iff, Prod.exists, Option.pure_def,
    Option.some.injEq] at computed
  obtain ⟨answer, r', asked, ms, answered, listed⟩ := computed
  cases answer with
  | error => cases answered
  | ok =>
    cases answered
    have had := Procedure.run_of_outcome? asked
    obtain ⟨-, requests, r'', run, exact⟩ := principal_exact had
    refine ⟨ms, r', had, requests, r'', run, ?_, exact⟩
    rw [← exact.reported ms fun _ => Iff.rfl, listed]

end VideoRig

end Sensing
