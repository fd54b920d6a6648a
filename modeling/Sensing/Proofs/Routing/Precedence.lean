import Sensing.Proofs.Distinct
import Sensing.Proofs.Routing.Satisfiability

/-!
# Who comes first in a resolution

`Route.resolve` decides three things by taking what comes first: the source that opens a route, the
route that a request joins, and the order in which requests and routes are listed. It decides them
while it goes, and it only ever appends. Here the three are read off the finished routes, with no
word about how they came to be.

* Sources are compared by their `Place`, and `Source.find?_eq_some_iff` says that a look-up finds
  the one whose place is lexicographically the first (`Source.First`).
* That a request is listed in the first route able to serve it is a field of `Sound`. Routes that
  are opened later are appended, so none of them gets in front of it.
* Requests and routes stand in the order of `distinct requests`, as sublists of it (`Timely`). A
  sublist stays one when a new request is appended to both.

Main results: `resolve_firstWins`, and `resolve_eq_ok_iff`, by which a list of routes that looks
like this is the one that `resolve` returns.
-/

namespace Sensing

/-- Looking through a list with its positions ends at the first position with a result. -/
theorem findSome?_zipIdx {α β : Type} {as : List α} {f : α × Nat → Option β} {b : β}
    (h : as.zipIdx.findSome? f = some b) :
    ∃ i a, as[i]? = some a ∧ f (a, i) = some b ∧
      ∀ i' < i, ∀ a', as[i']? = some a' → f (a', i') = none := by
  obtain ⟨before, ⟨a, i⟩, after, split, found, none⟩ := List.findSome?_eq_some_iff.1 h
  have place (k : Nat) : (before ++ (a, i) :: after)[k]? = as[k]?.map fun x => (x, k) := by
    rw [← split, List.getElem?_zipIdx]
    simp
  have here := place before.length
  rw [List.getElem?_append_right (Nat.le_refl _), Nat.sub_self] at here
  obtain ⟨a, ha, same⟩ := Option.map_eq_some_iff.1 here.symm
  cases same
  refine ⟨before.length, a, ha, found, ?_⟩
  intro i' earlier a' ha'
  have there := place i'
  rw [List.getElem?_append_left earlier, ha'] at there
  exact none _ (List.mem_of_getElem? there)

/-! ## The first source -/

/-- Where a source is found: the positions of its format, of its unpacker and of its mode. -/
structure Place where
  format : Nat
  unpacker : Nat
  mode : Nat

namespace Place

/-- The order in which places are tried. -/
def Before (p q : Place) : Prop :=
  p.format < q.format ∨ p.format = q.format ∧
    (p.unpacker < q.unpacker ∨ p.unpacker = q.unpacker ∧ p.mode < q.mode)

/-- Any two places are one place, or one is tried before the other. -/
theorem before_or_eq_or_before (p q : Place) : p.Before q ∨ p = q ∨ q.Before p := by
  obtain ⟨i, j, k⟩ := p
  obtain ⟨i', j', k'⟩ := q
  simp only [Before, Place.mk.injEq]
  omega

end Place

namespace Source

/-- The source at a place, if there is one. -/
def at? (formats : List PixelFormat) (modes : List NativeMode) (p : Place) : Option Source :=
  formats[p.format]?.bind fun pf =>
    pf.unpackers[p.unpacker]?.bind fun _ =>
      modes[p.mode]?.map fun m => ⟨m, p.format, pf, p.unpacker⟩

/-- The source stands before any other that serves the request. -/
def First (formats : List PixelFormat) (modes : List NativeMode) (r : StreamRequest)
    (s : Source) : Prop :=
  s.serves r = true ∧ ∃ p, at? formats modes p = some s ∧
    ∀ q t, q.Before p → at? formats modes q = some t → t.serves r = false

variable {formats : List PixelFormat} {modes : List NativeMode} {s t : Source} {p : Place}
  {r : StreamRequest}

/-- A place holds a format, an unpacker of it, and a mode. -/
theorem at?_eq_some (h : at? formats modes p = some s) :
    formats[p.format]? = some s.format ∧ s.format.unpackers[p.unpacker]? = some s.unpacker ∧
      modes[p.mode]? = some s.mode := by
  obtain ⟨pf, hpf, h⟩ := Option.bind_eq_some_iff.1 h
  obtain ⟨u, hu, h⟩ := Option.bind_eq_some_iff.1 h
  obtain ⟨m, hm, rfl⟩ := Option.map_eq_some_iff.1 h
  have unpacker : Source.unpacker ⟨m, p.format, pf, p.unpacker⟩ = u := by simp [unpacker, hu]
  refine ⟨hpf, ?_, hm⟩
  rw [unpacker]
  exact hu

/-- What is found at a place and serves a request makes it servable. -/
theorem servable_of_at? (h : at? formats modes p = some s) (serves : s.serves r = true) :
    r.Servable formats modes := by
  obtain ⟨hpf, hu, hm⟩ := at?_eq_some h
  obtain ⟨unpacker, fits⟩ := Bool.and_eq_true_iff.1 serves
  exact ⟨s.format, List.mem_of_getElem? hpf, s.unpacker, List.mem_of_getElem? hu, unpacker,
    s.mode, List.mem_of_getElem? hm, fits⟩

/-- What a look-up finds is the first of all. -/
theorem first_of_find? (h : find? formats modes r = some s) : s.First formats modes r := by
  refine ⟨(find?_some h).2, ?_⟩
  obtain ⟨i, pf, hpf, h, noFormat⟩ := findSome?_zipIdx h
  obtain ⟨j, u, hu, h, noUnpacker⟩ := findSome?_zipIdx h
  dsimp only at h noFormat noUnpacker
  split at h
  next serves =>
    obtain ⟨m, hm, rfl⟩ := Option.map_eq_some_iff.1 h
    obtain ⟨fits, k, hk, rfl, noMode⟩ := List.find?_eq_some_iff_getElem.1 hm
    refine ⟨⟨i, j, k⟩, ?_, ?_⟩
    · simp [at?, hpf, hu, hk]
    · intro q t earlier hq
      obtain ⟨hpf', hu', hm'⟩ := at?_eq_some hq
      refine Bool.eq_false_iff.2 fun serves' => ?_
      obtain ⟨unpacker', fits'⟩ := Bool.and_eq_true_iff.1 serves'
      -- Were there such a source, one of the three searches would have ended before.
      have found : modes.find? (fun m => m.fits t.format r) ≠ none := by
        rw [Ne, List.find?_eq_none]
        exact fun none => none t.mode (List.mem_of_getElem? hm') fits'
      rcases earlier with less | ⟨rfl, less | ⟨rfl, less⟩⟩
      · have none := noFormat q.format less t.format hpf'
        rw [List.findSome?_eq_none_iff] at none
        have none := none (t.unpacker, q.unpacker) (List.mem_zipIdx_iff_getElem?.2 hu')
        rw [if_pos unpacker', Option.map_eq_none_iff] at none
        exact found none
      · obtain rfl : pf = t.format := Option.some.inj (hpf.symm.trans hpf')
        have none := noUnpacker q.unpacker less t.unpacker hu'
        rw [if_pos unpacker', Option.map_eq_none_iff] at none
        exact found none
      · obtain rfl : pf = t.format := Option.some.inj (hpf.symm.trans hpf')
        obtain ⟨_, hmode⟩ := List.getElem?_eq_some_iff.1 hm'
        have none := noMode q.mode less
        rw [hmode, fits'] at none
        cases none
  next => cases h

/-- There is one first source only. -/
theorem First.unique (hs : s.First formats modes r) (ht : t.First formats modes r) : s = t := by
  obtain ⟨serves, p, hp, noneBefore⟩ := hs
  obtain ⟨serves', q, hq, noneBefore'⟩ := ht
  rcases p.before_or_eq_or_before q with before | rfl | after
  · rw [noneBefore' p s before hp] at serves
    cases serves
  · exact Option.some.inj (hp.symm.trans hq)
  · rw [noneBefore q t after hq] at serves'
    cases serves'

/-- A look-up finds the first source that serves the request. -/
theorem find?_eq_some_iff : find? formats modes r = some s ↔ s.First formats modes r := by
  refine ⟨first_of_find?, fun first => ?_⟩
  obtain ⟨serves, p, hp, -⟩ := id first
  cases found : find? formats modes r with
  | none => exact absurd (servable_of_at? hp serves) (find?_eq_none_iff.1 found)
  | some t => rw [first.unique (first_of_find? found)]

end Source

namespace Route

/-! ## The order of requests and of routes -/

variable {formats : List PixelFormat} {modes : List NativeMode} {done requests : List StreamRequest}
  {before after routes routes' : List Route} {route : Route} {r : StreamRequest} {s : Source}

/-- A request that was taken in is listed where it is served first. -/
theorem Sound.mem_of_serves (h : Sound formats modes done (before ++ route :: after))
    (earlier : ∀ b ∈ before, b.source.serves r = false) (serves : route.source.serves r = true)
    (hr : r ∈ done) : r ∈ route.requests := by
  obtain ⟨other, hother, listed⟩ := List.mem_flatMap.1 ((h.all r).2 hr)
  rcases List.mem_append.1 hother with hother | hother
  · have serves' := h.served other (by simp [hother]) r listed
    rw [earlier other hother] at serves'
    cases serves'
  · rcases List.mem_cons.1 hother with rfl | hother
    · exact listed
    · have first := (List.pairwise_cons.1 (List.pairwise_append.1 h.first).2.1).1 other hother
      rw [first r listed] at serves
      cases serves

/-- A request that is not served yet was not taken in. -/
theorem Sound.notMem_of_unserved (h : Sound formats modes done routes)
    (unserved : ∀ route ∈ routes, route.source.serves r = false) : r ∉ done := by
  intro hr
  obtain ⟨route, hroute, listed⟩ := List.mem_flatMap.1 ((h.all r).2 hr)
  have serves := h.served route hroute r listed
  rw [unserved route hroute] at serves
  cases serves

/-- Routes whose requests stand in the order in which they were first made, and which do so
themselves by the requests that opened them. -/
structure Timely (formats : List PixelFormat) (modes : List NativeMode) (done : List StreamRequest)
    (routes : List Route) : Prop where
  opened : ∀ route ∈ routes, ∃ r, route.requests.head? = some r ∧
    Source.find? formats modes r = some route.source
  within : ∀ route ∈ routes, route.requests.Sublist (distinct done)
  order : (routes.filterMap (·.requests.head?)).Sublist (distinct done)

/-- Without routes there is nothing out of order. -/
theorem timely_nil : Timely formats modes [] [] where
  opened _ h := nomatch h
  within _ h := nomatch h
  order := .slnil

/-- A request that was made before is not listed again, -/
theorem distinct_concat_of_mem (hr : r ∈ done) : distinct (done ++ [r]) = distinct done := by
  rw [distinct_concat, if_pos (mem_distinct.2 hr)]

/-- and a new one comes last. -/
theorem distinct_concat_of_notMem (hr : r ∉ done) :
    distinct (done ++ [r]) = distinct done ++ [r] := by
  rw [distinct_concat, if_neg fun seen => hr (mem_distinct.1 seen)]

/-- A request that joins a route stands last there, and opens none. -/
theorem Timely.join (h : Timely formats modes done (before ++ route :: after))
    (sound : Sound formats modes done (before ++ route :: after))
    (earlier : ∀ b ∈ before, b.source.serves r = false) (serves : route.source.serves r = true) :
    Timely formats modes (done ++ [r]) (before ++ route.join r :: after) := by
  have hroute : route ∈ before ++ route :: after := by simp
  unfold Route.join
  split
  next listed =>
    -- A request that is listed already was asked for before, so nothing changes but that it is
    -- asked again.
    have taken : r ∈ done := mem_distinct.1 ((h.within route hroute).subset listed)
    refine ⟨h.opened, ?_, ?_⟩
    · rw [distinct_concat_of_mem taken]
      exact h.within
    · rw [distinct_concat_of_mem taken]
      exact h.order
  next unlisted =>
    have fresh := distinct_concat_of_notMem (r := r) fun taken =>
      unlisted (sound.mem_of_serves earlier serves taken)
    have later : (distinct done).Sublist (distinct (done ++ [r])) := by
      rw [fresh]
      exact List.sublist_append_left _ _
    obtain ⟨opening, head, found⟩ := h.opened route hroute
    have head' : (route.requests ++ [r]).head? = some opening := by
      rw [List.head?_append, head]
      rfl
    refine ⟨forall_mem_changed h.opened ⟨opening, head', found⟩,
      forall_mem_changed (fun x hx => (h.within x hx).trans later) ?_, ?_⟩
    · rw [fresh]
      exact (h.within route hroute).append_right [r]
    · -- The request that opened the route is still the first in it.
      refine List.Sublist.trans ?_ (h.order.trans later)
      simp only [List.filterMap_append, List.filterMap_cons, head, head']
      exact List.Sublist.refl _

/-- A request that opens a route is the first of the last. -/
theorem Timely.extend (h : Timely formats modes done routes)
    (sound : Sound formats modes done routes)
    (unserved : ∀ route ∈ routes, route.source.serves r = false)
    (found : Source.find? formats modes r = some s) :
    Timely formats modes (done ++ [r]) (routes ++ [⟨s, [r]⟩]) := by
  have fresh := distinct_concat_of_notMem (sound.notMem_of_unserved unserved)
  refine ⟨?_, ?_, ?_⟩
  · intro route hroute
    rcases List.mem_append.1 hroute with hroute | hroute
    · exact h.opened route hroute
    · rw [List.mem_singleton.1 hroute]
      exact ⟨r, rfl, found⟩
  · intro route hroute
    rw [fresh]
    rcases List.mem_append.1 hroute with hroute | hroute
    · exact (h.within route hroute).trans (List.sublist_append_left _ _)
    · rw [List.mem_singleton.1 hroute]
      exact List.sublist_append_right _ _
  · rw [fresh, List.filterMap_append]
    exact h.order.append_right [r]

/-- Taking in one more request. -/
theorem Timely.add (h : Timely formats modes done routes) (sound : Sound formats modes done routes)
    (hadd : Route.add formats modes routes r = some routes') :
    Timely formats modes (done ++ [r]) routes' := by
  unfold Route.add at hadd
  split at hadd
  next joined hjoined =>
    cases hadd
    obtain ⟨before, route, after, rfl, earlier, serves, rfl⟩ := updateFirst_eq_some hjoined
    exact h.join sound earlier serves
  next hnone =>
    have unserved := updateFirst_eq_none.1 hnone
    obtain ⟨s, found, rfl⟩ := Option.map_eq_some_iff.1 hadd
    dsimp only
    rw [sound.updateFirst_same unserved found]
    exact h.extend sound unserved found

/-- Taking in a list of requests. -/
theorem Timely.resolveFrom (h : Timely formats modes done routes)
    (sound : Sound formats modes done routes)
    (hok : Route.resolveFrom formats modes routes requests = .ok routes') :
    Timely formats modes (done ++ requests) routes' := by
  induction requests generalizing done routes with
  | nil =>
    cases hok
    rw [List.append_nil]
    exact h
  | cons r rs ih =>
    unfold Route.resolveFrom at hok
    split at hok
    next => cases hok
    next next hadd =>
      have rest := ih (h.add sound hadd) (sound.add hadd) hok
      rw [List.append_assoc] at rest
      exact rest

/-! ## The finished routes -/

/-- Of everything that would do, what comes first was taken. -/
structure FirstWins (requests : List StreamRequest) (formats : List PixelFormat)
    (modes : List NativeMode) (routes : List Route) : Prop where
  /-- What is listed was asked for. -/
  asked : ∀ route ∈ routes, ∀ r ∈ route.requests, r ∈ requests
  /-- What was asked for is listed. -/
  listed : ∀ r ∈ requests, ∃ route ∈ routes, r ∈ route.requests
  /-- A request is listed in the first route able to serve it, and in no other. -/
  earliest : ∀ r ∈ requests, ∀ (i : Nat) (route : Route), routes[i]? = some route →
    (r ∈ route.requests ↔ route.source.serves r = true ∧
      ∀ j < i, ∀ other : Route, routes[j]? = some other → other.source.serves r = false)
  /-- The source of a route is the first of those that serve its first request. -/
  opened : ∀ route ∈ routes, ∃ r, route.requests.head? = some r ∧
    route.source.First formats modes r
  /-- Routes stand in the order in which their first requests were first made. -/
  order : routes.Pairwise fun a b => ∀ r, a.requests.head? = some r →
    ∀ r', b.requests.head? = some r' → requests.idxOf r < requests.idxOf r'
  /-- Within a route, requests stand in the order in which they were first made. -/
  within : ∀ route ∈ routes, route.requests.Pairwise fun r r' =>
    requests.idxOf r < requests.idxOf r'

/-- A request is listed in the first route able to serve it, and in no other. -/
theorem Sound.mem_iff_first (h : Sound formats modes done routes) (hr : r ∈ done) {i : Nat}
    (hi : routes[i]? = some route) :
    r ∈ route.requests ↔ route.source.serves r = true ∧
      ∀ j < i, ∀ other, routes[j]? = some other → other.source.serves r = false := by
  obtain ⟨hlt, rfl⟩ := List.getElem?_eq_some_iff.1 hi
  constructor
  · intro listed
    refine ⟨h.served _ (List.getElem_mem hlt) r listed, ?_⟩
    intro j less other hj
    obtain ⟨bound, rfl⟩ := List.getElem?_eq_some_iff.1 hj
    exact List.pairwise_iff_getElem.1 h.first j i bound hlt less r listed
  · rintro ⟨serves, earlier⟩
    have split : routes = routes.take i ++ routes[i] :: routes.drop (i + 1) := by simp
    rw [split] at h
    refine h.mem_of_serves ?_ serves hr
    intro b hb
    obtain ⟨j, hj, rfl⟩ := List.mem_take_iff_getElem.1 hb
    exact earlier j (by omega) _ (List.getElem?_eq_getElem _)

/-- Routes in order of time, of which each request joined the first able to serve it, are those of
what comes first. -/
theorem Timely.firstWins (h : Timely formats modes requests routes)
    (sound : Sound formats modes requests routes) : FirstWins requests formats modes routes where
  asked route hroute r hr := (sound.all r).1 (List.mem_flatMap.2 ⟨route, hroute, hr⟩)
  listed r hr := List.mem_flatMap.1 ((sound.all r).2 hr)
  earliest _ hr _ _ hi := sound.mem_iff_first hr hi
  opened route hroute := by
    obtain ⟨r, head, found⟩ := h.opened route hroute
    exact ⟨r, head, Source.find?_eq_some_iff.1 found⟩
  order := List.pairwise_filterMap.1 ((pairwise_distinct requests).sublist h.order)
  within route hroute := (pairwise_distinct requests).sublist (h.within route hroute)

/-- Beginning with no routes, every step of a resolution has kept both. -/
theorem sound_timely_of_resolve (h : resolve requests formats modes = .ok routes) :
    Sound formats modes requests routes ∧ Timely formats modes requests routes := by
  unfold resolve at h
  split at h
  next => cases h
  next => exact ⟨sound_nil.resolveFrom h, timely_nil.resolveFrom sound_nil h⟩

/-- Of everything that would do, a resolution takes what comes first. -/
theorem resolve_firstWins (h : resolve requests formats modes = .ok routes) :
    FirstWins requests formats modes routes := by
  obtain ⟨sound, timely⟩ := sound_timely_of_resolve h
  exact timely.firstWins sound

/-- Two formats share a code, and the first reads infrared through either of its unpackers. A
request for infrared at 30 frames a second joins the route that color opened at that rate; the rate
of 60 is read twice, since infrared alone was asked for first. -/
theorem infrared_beside_color_firstWins :
    let both : PixelFormat := ⟨.yuy2, 1, 2,
      [⟨false, .copy, [(.infrared, .y8)]⟩, ⟨false, .split, [(.color, .yuyv), (.infrared, .y8)]⟩]⟩
    let infrared : StreamRequest := ⟨.infrared, 0, 0, 0, .any⟩
    let color : StreamRequest := ⟨.color, 0, 0, 0, .yuyv⟩
    let depth : StreamRequest := ⟨.depth, 0, 0, 0, .any⟩
    let modes : List NativeMode :=
      [⟨640, 480, 60, .yuy2⟩, ⟨640, 480, 30, .yuy2⟩, ⟨64, 48, 30, .z16⟩]
    let requests := [infrared, { color with fps := 30 }, color, depth, infrared,
      { color with fps := 60 }, { infrared with fps := 30 }]
    ∃ routes, resolve requests [both, .yuy2, .z16] modes = .ok routes ∧
      routes.map (fun route => (route.source.formatIndex, route.source.unpackerIndex,
        route.source.mode.fps, route.requests)) =
        [(0, 0, 60, [infrared]),
          (0, 1, 30, [{ color with fps := 30 }, color, { infrared with fps := 30 }]),
          (2, 0, 30, [depth]), (0, 1, 60, [{ color with fps := 60 }])] ∧
      FirstWins requests [both, .yuy2, .z16] modes routes :=
  ⟨_, rfl, rfl, resolve_firstWins rfl⟩

/-! ## No other routes look like this -/

/-- No request of a route was made before the one that heads it. -/
theorem FirstWins.head_le (h : FirstWins requests formats modes routes) (hroute : route ∈ routes)
    (head : route.requests.head? = some r) {x : StreamRequest} (hx : x ∈ route.requests) :
    requests.idxOf r ≤ requests.idxOf x := by
  obtain ⟨rest, split⟩ := List.head?_eq_some_iff.1 head
  have within := h.within route hroute
  rw [split] at hx within
  rcases List.mem_cons.1 hx with rfl | hx
  · exact Nat.le_refl _
  · exact Nat.le_of_lt ((List.pairwise_cons.1 within).1 x hx)

/-- The source of a route is the first for the request that heads it. -/
theorem FirstWins.first_of_head (h : FirstWins requests formats modes routes)
    (hroute : route ∈ routes) (head : route.requests.head? = some r) :
    route.source.First formats modes r := by
  obtain ⟨opening, head', first⟩ := h.opened route hroute
  rwa [← Option.some.inj (head.symm.trans head')] at first

/-- Where the routes before agree, a route on one side has a counterpart on the other, which was
opened no later: the request that opened the first is listed there or further on. -/
theorem FirstWins.counterpart (h : FirstWins requests formats modes routes)
    (h' : FirstWins requests formats modes routes') {i : Nat}
    (agree : ∀ j < i, routes[j]? = routes'[j]?) (hi : routes[i]? = some route)
    (head : route.requests.head? = some r) :
    ∃ other r', routes'[i]? = some other ∧ other.requests.head? = some r' ∧
      requests.idxOf r' ≤ requests.idxOf r := by
  have hroute := List.mem_of_getElem? hi
  have listed := List.mem_of_head? head
  have asked := h.asked route hroute r listed
  have unserved := ((h.earliest r asked i route hi).1 listed).2
  obtain ⟨home, hhome, listed'⟩ := h'.listed r asked
  obtain ⟨k, hk⟩ := List.getElem?_of_mem hhome
  have serves := ((h'.earliest r asked k home hk).1 listed').1
  -- The home of the request on the other side cannot be among the routes that agree.
  have reached : i ≤ k := by
    by_contra less
    have none := unserved k (by omega) home (by rw [agree k (by omega), hk])
    rw [serves] at none
    cases none
  obtain ⟨bound, rfl⟩ := List.getElem?_eq_some_iff.1 hk
  have inside : i < routes'.length := Nat.lt_of_le_of_lt reached bound
  have here := List.getElem?_eq_getElem inside
  obtain ⟨r', head', -⟩ := h'.opened _ (List.mem_of_getElem? here)
  refine ⟨_, r', here, head', ?_⟩
  rcases Nat.lt_or_eq_of_le reached with less | rfl
  · obtain ⟨opening, head'', -⟩ := h'.opened _ hhome
    have order := List.pairwise_iff_getElem.1 h'.order i k inside bound less r' head' opening head''
    exact Nat.le_of_lt (Nat.lt_of_lt_of_le order (h'.head_le hhome head'' listed'))
  · exact h'.head_le hhome head' listed'

/-- Where the routes before agree, routes with one source list the same requests. -/
theorem FirstWins.mem_of_source (h : FirstWins requests formats modes routes)
    (h' : FirstWins requests formats modes routes') {i : Nat}
    (agree : ∀ j < i, routes[j]? = routes'[j]?) {other : Route} (hi : routes[i]? = some route)
    (hi' : routes'[i]? = some other) (source : route.source = other.source)
    {x : StreamRequest} (hx : x ∈ route.requests) : x ∈ other.requests := by
  have asked := h.asked route (List.mem_of_getElem? hi) x hx
  obtain ⟨serves, earlier⟩ := (h.earliest x asked i route hi).1 hx
  refine (h'.earliest x asked i other hi').2 ⟨source ▸ serves, ?_⟩
  intro j less b hj
  exact earlier j less b (by rw [agree j less, hj])

/-- Where the routes before agree, so do the next. -/
theorem FirstWins.agree (h : FirstWins requests formats modes routes)
    (h' : FirstWins requests formats modes routes') {i : Nat}
    (agree : ∀ j < i, routes[j]? = routes'[j]?) (hi : routes[i]? = some route) :
    routes'[i]? = some route := by
  have agree' : ∀ j < i, routes'[j]? = routes[j]? := fun j less => (agree j less).symm
  have hroute := List.mem_of_getElem? hi
  obtain ⟨r, head, first⟩ := h.opened route hroute
  -- There and back again: the two requests that opened are no later than each other.
  obtain ⟨other, r', hi', head', noLater⟩ := h.counterpart h' agree hi head
  obtain ⟨back, r'', hback, head'', noLater'⟩ := h'.counterpart h agree' hi' head'
  obtain rfl : route = back := Option.some.inj (hi.symm.trans hback)
  obtain rfl : r = r'' := Option.some.inj (head.symm.trans head'')
  have asked := h.asked route hroute r (List.mem_of_head? head)
  obtain rfl : r = r' := (List.idxOf_inj asked).1 (Nat.le_antisymm noLater' noLater)
  have hother := List.mem_of_getElem? hi'
  have source : route.source = other.source := first.unique (h'.first_of_head hother head')
  have within := h.within route hroute
  have within' := h'.within other hother
  have members : route.requests.Perm other.requests := by
    refine (List.perm_ext_iff_of_nodup (nodup_of_pairwise_idxOf within)
      (nodup_of_pairwise_idxOf within')).2 fun x => ?_
    exact ⟨h.mem_of_source h' agree hi hi' source, h'.mem_of_source h agree' hi' hi source.symm⟩
  have listed : route.requests = other.requests := by
    refine List.Perm.eq_of_pairwise ?_ within within' members
    intro x y _ _ less more
    exact absurd more (Nat.lt_asymm less)
  obtain ⟨source₁, requests₁⟩ := route
  obtain ⟨source₂, requests₂⟩ := other
  cases source
  cases listed
  exact hi'

/-- There is one way to take what comes first. -/
theorem FirstWins.unique (h : FirstWins requests formats modes routes)
    (h' : FirstWins requests formats modes routes') : routes = routes' := by
  have agree (i : Nat) : routes[i]? = routes'[i]? := by
    induction i using Nat.strongRecOn with
    | _ i ih =>
      cases hi : routes[i]? with
      | some route => exact (h.agree h' ih hi).symm
      | none =>
        cases hi' : routes'[i]? with
        | some route => rw [h'.agree h (fun j less => (ih j less).symm) hi'] at hi; cases hi
        | none => rfl
  exact List.ext_getElem? agree

/-- A resolution is what takes everything that comes first. -/
theorem resolve_eq_ok_iff (hne : requests ≠ []) :
    resolve requests formats modes = .ok routes ↔ FirstWins requests formats modes routes := by
  have taken {routes : List Route} (h : resolve requests formats modes = .ok routes) :
      FirstWins requests formats modes routes := by
    obtain ⟨sound, timely⟩ := sound_timely_of_resolve h
    exact timely.firstWins sound
  refine ⟨taken, fun h => ?_⟩
  have servable : ∀ r ∈ requests, r.Servable formats modes := by
    intro r hr
    obtain ⟨route, hroute, listed⟩ := h.listed r hr
    obtain ⟨i, hi⟩ := List.getElem?_of_mem hroute
    obtain ⟨opening, head, serves, p, hp, -⟩ := h.opened route hroute
    exact Source.servable_of_at? hp ((h.earliest r hr i route hi).1 listed).1
  obtain ⟨routes', ok⟩ := routable_of_servable hne servable
  rw [ok, (taken ok).unique h]

end Route

end Sensing
