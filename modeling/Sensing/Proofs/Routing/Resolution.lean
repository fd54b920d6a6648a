import Mathlib.Data.List.Nodup
import Mathlib.Tactic.Tauto
import Sensing.Stream.Route

/-!
# What a resolution promises

`Route.resolve` keeps a growing list of routes and looks a request up in it twice: first for a route
that serves the request, then, if none does, for a route with the very source that was found for it.

The invariant is `Sound`. What ties the two look-ups together is its field `first`: a request is
listed in the first route that serves it. A route whose source serves no request listed further on
cannot have the source of a route further on, so sources are never repeated, and the second look-up
comes to nothing.

Main result: `resolve_partitions`, a resolution lists every request once, in a route that serves it,
and its sources are registered, offered and distinct.
-/

namespace Sensing

namespace Source

/-- A source made of a registered format, one of its unpackers, and an offered mode of its code. -/
structure Listed (formats : List PixelFormat) (modes : List NativeMode) (s : Source) : Prop where
  mode : s.mode ∈ modes
  format : formats[s.formatIndex]? = some s.format
  unpacker : s.format.unpackers[s.unpackerIndex]? = some s.unpacker
  code : s.mode.format = s.format.format

variable {formats : List PixelFormat} {modes : List NativeMode} {s t : Source} {r : StreamRequest}

/-- What is found is a listed source that serves the request. -/
theorem find?_some (h : find? formats modes r = some s) :
    s.Listed formats modes ∧ s.serves r = true := by
  obtain ⟨⟨pf, i⟩, hpf, h⟩ := List.exists_of_findSome?_eq_some h
  obtain ⟨⟨u, j⟩, hu, h⟩ := List.exists_of_findSome?_eq_some h
  rw [List.mem_zipIdx_iff_getElem?] at hpf hu
  dsimp only at hpf hu h
  by_cases serves : u.serves r = true
  · rw [if_pos serves] at h
    obtain ⟨m, hm, rfl⟩ := Option.map_eq_some_iff.1 h
    have fits : m.fits pf r = true := by simpa using List.find?_some hm
    have unpacker : Source.unpacker ⟨m, i, pf, j⟩ = u := by simp [Source.unpacker, hu]
    refine ⟨⟨List.mem_of_find?_eq_some hm, hpf, ?_, (NativeMode.fits_iff.1 fits).1⟩, ?_⟩
    · rw [unpacker]
      exact hu
    · unfold Source.serves
      rw [unpacker, serves, fits]
      rfl
  · rw [if_neg serves] at h
    cases h

/-- Whether two sources read the same mode through the same unpacker of one format, or of two that
are alike, as when one format is registered twice. -/
def Alike (s t : Source) : Prop :=
  s.mode = t.mode ∧ s.unpackerIndex = t.unpackerIndex ∧
    (s.formatIndex = t.formatIndex ∨ s.format = t.format)

/-- Sources that are the same are alike. -/
theorem alike_of_same (h : s.same t = true) : s.Alike t := by
  simp only [same, Bool.and_eq_true, decide_eq_true_eq] at h
  exact ⟨h.1.1, h.2, .inl h.1.2⟩

/-- Listed sources that are alike serve the same requests. -/
theorem Listed.serves_of_alike (hs : s.Listed formats modes) (ht : t.Listed formats modes)
    (h : s.Alike t) (r : StreamRequest) : s.serves r = t.serves r := by
  obtain ⟨mode, unpacker, format⟩ := h
  have format : s.format = t.format := by
    rcases format with place | format
    · -- In one place only one format is registered.
      have registered := hs.format
      rw [place, ht.format] at registered
      exact (Option.some.inj registered).symm
    · exact format
  unfold serves Source.unpacker
  rw [mode, unpacker, format]

end Source

namespace Route

/-! ## Changing the first route of a kind -/

variable {p : Route → Bool} {f : Route → Route} {routes routes' : List Route}

/-- Nothing is changed just where no route is of the kind. -/
theorem updateFirst_eq_none :
    updateFirst p f routes = none ↔ ∀ route ∈ routes, p route = false := by
  induction routes with
  | nil => simp [updateFirst]
  | cons route routes ih =>
    unfold updateFirst
    cases hp : p route <;> simp [hp, ih]

/-- The first route of the kind is changed, and no other. -/
theorem updateFirst_eq_some (h : updateFirst p f routes = some routes') :
    ∃ before route after, routes = before ++ route :: after ∧
      (∀ b ∈ before, p b = false) ∧ p route = true ∧ routes' = before ++ f route :: after := by
  induction routes generalizing routes' with
  | nil => cases h
  | cons route routes ih =>
    unfold updateFirst at h
    split at h
    next hp =>
      cases h
      exact ⟨[], route, routes, rfl, List.forall_mem_nil _, hp, rfl⟩
    next hp =>
      obtain ⟨rest, hrest, rfl⟩ := Option.map_eq_some_iff.1 h
      obtain ⟨before, found, after, rfl, hbefore, hfound, rfl⟩ := ih hrest
      refine ⟨route :: before, found, after, rfl, ?_, hfound, rfl⟩
      intro b hb
      rcases List.mem_cons.1 hb with rfl | hb
      · exact Bool.eq_false_iff.2 hp
      · exact hbefore b hb

/-- What holds of all routes still does if one is changed and it holds of that one. -/
theorem forall_mem_changed {P : Route → Prop} {before after : List Route} {route changed : Route}
    (h : ∀ x ∈ before ++ route :: after, P x) (hchanged : P changed) :
    ∀ x ∈ before ++ changed :: after, P x := by
  intro x hx
  rcases List.mem_append.1 hx with hx | hx
  · exact h x (List.mem_append_left _ hx)
  · rcases List.mem_cons.1 hx with rfl | hx
    · exact hchanged
    · exact h x (List.mem_append_right _ (List.mem_cons_of_mem _ hx))

/-! ## The invariant -/

/-- Routes that have taken in the requests `done`. -/
structure Sound (formats : List PixelFormat) (modes : List NativeMode) (done : List StreamRequest)
    (routes : List Route) : Prop where
  listed : ∀ route ∈ routes, route.source.Listed formats modes
  served : ∀ route ∈ routes, ∀ r ∈ route.requests, route.source.serves r = true
  /-- A request is listed in the first route that serves it. -/
  first : routes.Pairwise fun a b => ∀ r ∈ b.requests, a.source.serves r = false
  once : ∀ route ∈ routes, route.requests.Nodup
  nonempty : ∀ route ∈ routes, route.requests ≠ []
  all : ∀ r, r ∈ routes.flatMap (·.requests) ↔ r ∈ done

variable {formats : List PixelFormat} {modes : List NativeMode}
  {done : List StreamRequest} {r : StreamRequest} {s : Source}

/-- No routes have taken in no requests. -/
theorem sound_nil : Sound formats modes [] [] where
  listed _ h := nomatch h
  served _ h := nomatch h
  first := .nil
  once _ h := nomatch h
  nonempty _ h := nomatch h
  all _ := Iff.rfl

/-- A route with a source like the one found would have served the request. -/
theorem Sound.not_alike (h : Sound formats modes done routes)
    (unserved : ∀ route ∈ routes, route.source.serves r = false)
    (found : Source.find? formats modes r = some s) :
    ∀ route ∈ routes, ¬ route.source.Alike s := by
  intro route hroute alike
  obtain ⟨listed, serves⟩ := Source.find?_some found
  have serves' := (h.listed route hroute).serves_of_alike listed alike r
  rw [unserved route hroute, serves] at serves'
  cases serves'

/-- So the second look-up finds nothing. -/
theorem Sound.updateFirst_same (h : Sound formats modes done routes)
    (unserved : ∀ route ∈ routes, route.source.serves r = false)
    (found : Source.find? formats modes r = some s) (f : Route → Route) :
    updateFirst (fun route => route.source.same s) f routes = none := by
  refine updateFirst_eq_none.2 fun route hroute => Bool.eq_false_iff.2 fun same => ?_
  exact h.not_alike unserved found route hroute (Source.alike_of_same same)

/-- A request joins the first route that serves it. -/
theorem Sound.join {before after : List Route} {route : Route}
    (h : Sound formats modes done (before ++ route :: after))
    (earlier : ∀ b ∈ before, b.source.serves r = false) (serves : route.source.serves r = true) :
    Sound formats modes (done ++ [r]) (before ++ route.join r :: after) := by
  have mem_join (x : StreamRequest) : x ∈ (route.join r).requests ↔ x ∈ route.requests ∨ x = r := by
    unfold Route.join
    split
    next hr => simp +contextual [hr]
    next => simp
  have source : (route.join r).source = route.source := by
    unfold Route.join
    split <;> rfl
  have hroute : route ∈ before ++ route :: after := by simp
  -- Only the route joined differs, so each field is about it and about all the others.
  refine ⟨forall_mem_changed h.listed ?_, forall_mem_changed h.served ?_, ?_,
    forall_mem_changed h.once ?_, forall_mem_changed h.nonempty ?_, ?_⟩
  · rw [source]
    exact h.listed route hroute
  · intro x hx
    rw [source]
    rcases (mem_join x).1 hx with hx | rfl
    · exact h.served route hroute x hx
    · exact serves
  · obtain ⟨hbefore, hrest, hcross⟩ := List.pairwise_append.1 h.first
    obtain ⟨hafter, htail⟩ := List.pairwise_cons.1 hrest
    refine List.pairwise_append.2 ⟨hbefore, List.pairwise_cons.2 ⟨?_, htail⟩, ?_⟩
    · intro b hb x hx
      rw [source]
      exact hafter b hb x hx
    · intro a ha b hb x hx
      rcases List.mem_cons.1 hb with rfl | hb
      · rcases (mem_join x).1 hx with hx | rfl
        · exact hcross a ha route (List.mem_cons_self ..) x hx
        · exact earlier a ha
      · exact hcross a ha b (List.mem_cons_of_mem _ hb) x hx
  · unfold Route.join
    split
    next => exact h.once route hroute
    next hr =>
      refine List.nodup_append.2 ⟨h.once route hroute, List.nodup_singleton r, ?_⟩
      intro x hx y hy
      rw [List.mem_singleton.1 hy]
      exact fun heq => hr (heq ▸ hx)
  · intro hempty
    have hr := (mem_join r).2 (.inr rfl)
    rw [hempty] at hr
    cases hr
  · intro x
    have hall := h.all x
    simp only [List.flatMap_append, List.flatMap_cons, List.mem_append, mem_join,
      List.mem_singleton] at hall ⊢
    rw [← hall]
    tauto

/-- A request that nothing serves yet opens a route of its own. -/
theorem Sound.extend (h : Sound formats modes done routes)
    (unserved : ∀ route ∈ routes, route.source.serves r = false)
    (found : Source.find? formats modes r = some s) :
    Sound formats modes (done ++ [r]) (routes ++ [⟨s, [r]⟩]) := by
  obtain ⟨listed, serves⟩ := Source.find?_some found
  -- What holds of all routes and of the new one holds of all of them then.
  have every {P : Route → Prop} (hP : ∀ x ∈ routes, P x) (hnew : P ⟨s, [r]⟩) :
      ∀ x ∈ routes ++ [⟨s, [r]⟩], P x := by
    intro x hx
    rcases List.mem_append.1 hx with hx | hx
    · exact hP x hx
    · rw [List.mem_singleton.1 hx]
      exact hnew
  refine ⟨every h.listed listed, every h.served ?_, ?_, every h.once (List.nodup_singleton r),
    every h.nonempty (List.cons_ne_nil r []), ?_⟩
  · intro x hx
    rw [List.mem_singleton.1 hx]
    exact serves
  · refine List.pairwise_append.2 ⟨h.first, List.pairwise_singleton .., ?_⟩
    intro a ha b hb x hx
    rw [List.mem_singleton.1 hb] at hx
    rw [List.mem_singleton.1 hx]
    exact unserved a ha
  · intro x
    simp [← h.all x]

/-- Taking in one more request. -/
theorem Sound.add (h : Sound formats modes done routes)
    (hadd : Route.add formats modes routes r = some routes') :
    Sound formats modes (done ++ [r]) routes' := by
  unfold Route.add at hadd
  split at hadd
  next joined hjoined =>
    cases hadd
    obtain ⟨before, route, after, rfl, earlier, serves, rfl⟩ := updateFirst_eq_some hjoined
    exact h.join earlier serves
  next hnone =>
    have unserved := updateFirst_eq_none.1 hnone
    obtain ⟨s, found, rfl⟩ := Option.map_eq_some_iff.1 hadd
    dsimp only
    rw [h.updateFirst_same unserved found]
    exact h.extend unserved found

/-- Taking in a list of requests. -/
theorem Sound.resolveFrom {requests : List StreamRequest} (h : Sound formats modes done routes)
    (hok : Route.resolveFrom formats modes routes requests = .ok routes') :
    Sound formats modes (done ++ requests) routes' := by
  induction requests generalizing done routes with
  | nil =>
    cases hok
    rw [List.append_nil]
    exact h
  | cons r rs ih =>
    unfold Route.resolveFrom at hok
    split at hok
    next => cases hok
    next next hadd =>
      have rest := ih (h.add hadd) hok
      rw [List.append_assoc] at rest
      exact rest

/-! ## The whole -/

/-- A request is listed in one route only, and once there. -/
theorem Sound.nodup (h : Sound formats modes done routes) :
    (routes.flatMap (·.requests)).Nodup := by
  refine List.nodup_flatMap.2 ⟨h.once, ?_⟩
  refine (List.Pairwise.and_mem.1 h.first).imp ?_
  intro a b hab r ha hb
  have serves := h.served a hab.1 r ha
  rw [hab.2.2 r hb] at serves
  cases serves

/-- No two routes have sources that are alike. -/
theorem Sound.distinct (h : Sound formats modes done routes) :
    routes.Pairwise fun a b => ¬ a.source.Alike b.source := by
  refine (List.Pairwise.and_mem.1 h.first).imp ?_
  intro a b hab alike
  obtain ⟨ha, hb, earlier⟩ := hab
  -- The later route lists a request, which the earlier one would serve as well.
  obtain ⟨r, hr⟩ := List.exists_mem_of_ne_nil _ (h.nonempty b hb)
  have serves := (h.listed a ha).serves_of_alike (h.listed b hb) alike r
  rw [earlier r hr, h.served b hb r hr] at serves
  cases serves

/-- What a resolution promises. -/
structure Partitions (requests : List StreamRequest) (formats : List PixelFormat)
    (modes : List NativeMode) (routes : List Route) : Prop where
  /-- Sources are made of what is registered and offered, and their unpackers are there. -/
  listed : ∀ route ∈ routes, route.source.Listed formats modes
  /-- A request is listed only where the unpacker satisfies it and the mode fits it. -/
  served : ∀ route ∈ routes, ∀ r ∈ route.requests,
    route.source.unpacker.serves r = true ∧ route.source.mode.fits route.source.format r = true
  /-- Nothing is listed twice, be it in one route or in two. -/
  once : (routes.flatMap (·.requests)).Nodup
  /-- What is listed is what was asked for. -/
  all : ∀ r, r ∈ routes.flatMap (·.requests) ↔ r ∈ requests
  /-- No two routes read the same mode through the same unpacker of the same format, nor of a format
  registered twice. -/
  distinct : routes.Pairwise fun a b => ¬ a.source.Alike b.source
  /-- Whenever a request has to open a route, no route has the source that was found for it, nor one
  like it. -/
  fresh : ∀ before r after earlier s, requests = before ++ r :: after →
    resolveFrom formats modes [] before = .ok earlier →
    (∀ route ∈ earlier, route.source.serves r = false) → Source.find? formats modes r = some s →
    (∀ route ∈ earlier, ¬ route.source.Alike s) ∧
      ∀ extend, updateFirst (fun route => route.source.same s) extend earlier = none

/-- A resolution lists every request once, in a route that serves it, and nothing else. -/
theorem resolve_partitions {requests : List StreamRequest} {formats : List PixelFormat}
    {modes : List NativeMode} {routes : List Route}
    (h : resolve requests formats modes = .ok routes) :
    Partitions requests formats modes routes := by
  unfold resolve at h
  split at h
  next => cases h
  next =>
    have sound : Sound formats modes requests routes := sound_nil.resolveFrom h
    refine ⟨sound.listed, ?_, sound.nodup, sound.all, sound.distinct, ?_⟩
    · intro route hroute r hr
      have serves := sound.served route hroute r hr
      unfold Source.serves at serves
      exact Bool.and_eq_true_iff.1 serves
    · intro before r after earlier s _ hearlier unserved found
      have sound : Sound formats modes before earlier := sound_nil.resolveFrom hearlier
      exact ⟨sound.not_alike unserved found, sound.updateFirst_same unserved found⟩

/-- Two requests for color, one of them twice, share a route. -/
theorem color_twice_partitions :
    let exact : StreamRequest := ⟨.color, 640, 480, 30, .yuyv⟩
    let loose : StreamRequest := ⟨.color, 640, 480, 0, .any⟩
    let modes : List NativeMode := [⟨640, 480, 60, .yuy2⟩, ⟨640, 480, 30, .yuy2⟩]
    ∃ routes, resolve [exact, loose, exact] [.z16, .yuy2] modes = .ok routes ∧
      routes.map (·.requests) = [[exact, loose]] ∧
      Partitions [exact, loose, exact] [.z16, .yuy2] modes routes :=
  ⟨_, rfl, rfl, resolve_partitions rfl⟩

end Route

end Sensing
