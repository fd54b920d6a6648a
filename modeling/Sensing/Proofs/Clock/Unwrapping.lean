import Mathlib.Algebra.Group.Nat.Defs
import Mathlib.Data.List.Chain
import Sensing.Clock
import Sensing.Proofs.Binary.Rounding

/-!
# A clock follows its device

A device counts ticks without end and shows their low 32 bits in its frames. As long as the ticks of
neighbouring counters are less than half a turn of the counter apart, the clock loses none of them:
its total is always the number of ticks passed between the first counter and the last one.

The invariant is `Tracks`. Its step is `Tracks.stamp`; what makes it work is that the difference of
two residues, read as a signed number, is the difference of the ticks (`signed32_sub_emod`).

Main result: `stamps_follow_ticks`, the time of every frame is the number of units passed since the
first counter, and times never go back while ticks do not.
-/

namespace Sensing

-- `^` is the power of core, also beside a library that brings a more general one.
attribute [local instance (2000)] instPowNat

/-- The difference of two ticks less than half a turn apart can be read off their residues. -/
theorem signed32_sub_emod {s t : Int} (low : -2147483648 ≤ t - s) (high : t - s < 2147483648) :
    signed32 (t % 4294967296 - s % 4294967296) = t - s := by
  have congruent : (t % 4294967296 - s % 4294967296) % 4294967296 = (t - s) % 4294967296 :=
    (Int.sub_emod t s 4294967296).symm
  unfold signed32
  rw [Int.bmod_def]
  show (if (t % 4294967296 - s % 4294967296) % 4294967296 < 2147483648 then _ else _) = t - s
  split <;> omega

namespace RollingClock

/-! ## The counter of a frame -/

/-- A number that fits below a power of two is or-ed into a multiple of it by adding. -/
theorem or_mul_two_pow {n x : Nat} (h : x < 2 ^ n) (y : Nat) : x ||| y * 2 ^ n = x + y * 2 ^ n := by
  rw [Nat.or_comm, Nat.mul_comm, ← Nat.two_pow_add_eq_or_of_lt h, Nat.add_comm]

/-- A word is the sum of its bytes. -/
theorem word_toNat (a b c d : UInt8) :
    (word a b c d).toNat = a.toNat + b.toNat * 2 ^ 8 + c.toNat * 2 ^ 16 + d.toNat * 2 ^ 24 := by
  have ha := a.toNat_lt
  have hb := b.toNat_lt
  have hc := c.toNat_lt
  have hd := d.toNat_lt
  have shift (x : UInt8) {n : Nat} (hx : x.toNat < 2 ^ 8) (hn : n ≤ 24) :
      x.toNat <<< (n % 32) % 2 ^ 32 = x.toNat * 2 ^ n := by
    have power : 2 ^ n ≤ 2 ^ 24 := Nat.pow_le_pow_right (by decide) hn
    have below : x.toNat * 2 ^ n < 2 ^ 32 := by
      calc
        x.toNat * 2 ^ n < 2 ^ 8 * 2 ^ 24 :=
          Nat.mul_lt_mul_of_lt_of_le hx power (Nat.two_pow_pos _)
        _ = 2 ^ 32 := (Nat.pow_add 2 8 24).symm
    rw [Nat.mod_eq_of_lt (show n < 32 by omega), Nat.shiftLeft_eq, Nat.mod_eq_of_lt below]
  unfold word
  simp only [UInt32.toNat_or, UInt32.toNat_shiftLeft, UInt8.toNat_toUInt32]
  rw [show UInt32.toNat 8 = 8 from rfl, show UInt32.toNat 16 = 16 from rfl,
    show UInt32.toNat 24 = 24 from rfl, shift b hb (by decide), shift c hc (by decide),
    shift d hd (by decide), or_mul_two_pow ha, or_mul_two_pow (n := 16) (by omega),
    or_mul_two_pow (n := 24) (by omega)]

/-- What a frame shows of the device's ticks: their low 32 bits, least significant byte first, or
nothing if the frame ends before the counter does. -/
inductive Shows (offset : Nat) : Option Int → Bytes → Prop where
  | counter {tick : Int} {before after : Bytes} {a b c d : UInt8} (start : before.length = offset)
      (bytes : ((a.toNat + b.toNat * 2 ^ 8 + c.toNat * 2 ^ 16 + d.toNat * 2 ^ 24 : Nat) : Int) =
        tick % 4294967296) :
      Shows offset (some tick) (before ++ a :: b :: c :: d :: after)
  | short {frame : Bytes} (ends : frame.length < offset + 4) : Shows offset none frame

variable {offset : Nat} {frame : Bytes} {tick : Int}

/-- The clock reads the counter that a frame shows, -/
theorem Shows.counterAt? (h : Shows offset (some tick) frame) :
    ∃ now, RollingClock.counterAt? offset frame = some now ∧
      (now.toNat : Int) = tick % 4294967296 := by
  cases h with
  | @counter _ before after a b c d start bytes =>
    refine ⟨word a b c d, ?_, ?_⟩
    · unfold RollingClock.counterAt?
      rw [← start, List.drop_left]
    · rw [word_toNat, bytes]

/-- and none where the frame ends before the counter does. -/
theorem Shows.counterAt?_eq_none (h : Shows offset none frame) :
    RollingClock.counterAt? offset frame = none := by
  cases h with
  | short ends =>
    unfold RollingClock.counterAt?
    split
    next bytes =>
      have length := congrArg List.length bytes
      simp only [List.length_drop, List.length_cons] at length
      omega
    next => rfl

/-! ## The invariant -/

/-- The ticks that frames showed, in order. -/
def ticks (feed : List (Option Int × Bytes)) : List Int := feed.filterMap (·.1)

/-- The ticks passed from the first one to the last one; none have passed before the first. -/
def passed (ticks : List Int) : Int := ticks.getLastD 0 - ticks.headD 0

/-- Neighbouring ticks are less than half a turn of the counter apart. -/
def Near (s t : Int) : Prop := -2147483648 ≤ t - s ∧ t - s < 2147483648

/-- A clock that has taken in a feed. -/
structure Tracks (l : ClockLayout) (feed : List (Option Int × Bytes)) (k : RollingClock) :
    Prop where
  layout : k.layout = l.scaled
  started : k.started = true ↔ ticks feed ≠ []
  total : k.total = passed (ticks feed)
  last : ∀ t ∈ (ticks feed).getLast?, (k.last.toNat : Int) = t % 4294967296

variable {l : ClockLayout} {seen feed : List (Option Int × Bytes)} {k : RollingClock}

/-- At the start no ticks have passed. -/
theorem tracks_start (l : ClockLayout) : Tracks l [] (start l) where
  layout := rfl
  started := ⟨fun h => (Bool.false_ne_true h).elim, fun h => (h rfl).elim⟩
  total := rfl
  last _ h := nomatch h

theorem passed_singleton (t : Int) : passed [t] = 0 := Int.sub_self t

/-- One more tick adds its distance from the one before. -/
theorem passed_concat {ts : List Int} {s : Int} (h : ts.getLast? = some s) (t : Int) :
    passed (ts ++ [t]) = passed ts + (t - s) := by
  unfold passed
  simp only [List.getLastD_eq_getLast?, List.getLast?_concat, h, Option.getD_some]
  cases ts with
  | nil => cases h
  | cons first ts =>
    simp only [List.cons_append, List.headD_cons]
    omega

/-- Taking in one more frame. -/
theorem Tracks.stamp (h : Tracks l seen k) {shown : Option Int} (shows : Shows l.offset shown frame)
    (near : (ticks (seen ++ [(shown, frame)])).IsChain Near) :
    Tracks l (seen ++ [(shown, frame)]) (k.stamp frame).2 := by
  have offset : k.layout.offset = l.offset := by
    rw [h.layout]
    unfold ClockLayout.scaled
    split <;> rfl
  show Tracks l _ (k.advance frame)
  unfold advance
  rw [offset]
  cases shown with
  | none =>
    have same : ticks (seen ++ [(none, frame)]) = ticks seen := by simp [ticks]
    rw [shows.counterAt?_eq_none]
    exact ⟨h.layout, same ▸ h.started, same ▸ h.total, same ▸ h.last⟩
  | some tick =>
    obtain ⟨now, counter, residue⟩ := shows.counterAt?
    have more : ticks (seen ++ [(some tick, frame)]) = ticks seen ++ [tick] := by simp [ticks]
    rw [counter]
    rw [more] at near
    refine ⟨h.layout, by simp [more], ?_, ?_⟩ <;> rw [more]
    · show k.total + signed32 (now.toNat - (if k.started then k.last else now).toNat) = _
      by_cases first : ticks seen = []
      · -- The first counter is compared with itself.
        have fresh : ¬k.started = true := fun started => h.started.1 started first
        rw [if_neg fresh, Int.sub_self, h.total, first, List.nil_append, passed_singleton]
        rfl
      · have started : k.started = true := h.started.2 first
        obtain ⟨last, hlast⟩ := Option.ne_none_iff_exists'.1 (mt List.getLast?_eq_none_iff.1 first)
        -- Near ticks are told apart by their counters, so the step between these is the step
        -- between those.
        obtain ⟨low, high⟩ : Near last tick :=
          (List.isChain_append.1 near).2.2 last hlast tick rfl
        rw [if_pos started, residue, h.last last hlast, signed32_sub_emod low high, h.total,
          passed_concat hlast]
    · intro t ht
      rw [List.getLast?_concat, Option.mem_some_iff] at ht
      rw [← ht]
      exact residue

/-! ## A run -/

/-- The clock after it has taken in some frames. -/
def after (k : RollingClock) (frames : List Bytes) : RollingClock :=
  frames.foldl (fun k frame => (k.stamp frame).2) k

/-- The times a clock gives some frames. -/
def stamps (k : RollingClock) : List Bytes → List Double
  | [] => []
  | frame :: frames => (k.stamp frame).1 :: (k.stamp frame).2.stamps frames

/-- The time of a frame is read off the clock after it has taken the frame in. -/
theorem stamp_time (k : RollingClock) (frame : Bytes) :
    (k.stamp frame).1 = .ofInt .double (k.stamp frame).2.units := by
  simp only [stamp]

/-- The time of each frame of a run is that of the clock after all frames up to it. -/
theorem stamps_getElem? (k : RollingClock) (frames : List Bytes) {n : Nat} (h : n < frames.length) :
    (k.stamps frames)[n]? = some (.ofInt .double (k.after (frames.take (n + 1))).units) := by
  induction frames generalizing k n with
  | nil => cases h
  | cons frame frames ih =>
    cases n with
    | zero => exact congrArg some (stamp_time k frame)
    | succ n => exact ih _ (Nat.lt_of_succ_lt_succ h)

theorem length_stamps (k : RollingClock) (frames : List Bytes) :
    (k.stamps frames).length = frames.length := by
  induction frames generalizing k with
  | nil => rfl
  | cons frame frames ih => exact congrArg (· + 1) (ih _)

/-- A run of frames keeps the clock on track. -/
theorem Tracks.after {rest : List (Option Int × Bytes)} (h : Tracks l seen k)
    (shows : ∀ x ∈ rest, Shows l.offset x.1 x.2) (near : (ticks (seen ++ rest)).IsChain Near) :
    Tracks l (seen ++ rest) (k.after (rest.map (·.2))) := by
  induction rest generalizing seen k with
  | nil => rwa [List.append_nil]
  | cons x rest ih =>
    rw [List.append_cons] at near ⊢
    have here : (ticks (seen ++ [x])).IsChain Near := by
      unfold ticks at near ⊢
      rw [List.filterMap_append] at near
      exact near.left_of_append
    exact ih (h.stamp (shows x (List.mem_cons_self ..)) here)
      (fun y hy => shows y (List.mem_cons_of_mem _ hy)) near

theorem getLastD_mem {ts : List Int} (h : ts ≠ []) : ts.getLastD 0 ∈ ts := by
  rw [List.getLastD_eq_getLast?, List.getLast?_eq_some_getLast h]
  exact List.getLast_mem h

/-- More ticks have passed later on, if ticks do not go back. -/
theorem passed_le_of_prefix {earlier later : List Int} (h : earlier <+: later)
    (order : later.Pairwise (· ≤ ·)) : passed earlier ≤ passed later := by
  -- Before the first tick none have passed, so the earlier ticks may be none at all; otherwise both
  -- begin at one tick, and only the last ones differ.
  have last_ge {ts : List Int} (order : ts.Pairwise (· ≤ ·)) : ∀ t ∈ ts, t ≤ ts.getLastD 0 := by
    intro t ht
    obtain ⟨front, last, rfl⟩ := List.eq_nil_or_concat ts |>.resolve_left (List.ne_nil_of_mem ht)
    rw [List.concat_eq_append] at order ht ⊢
    rw [List.getLastD_eq_getLast?, List.getLast?_concat]
    rcases List.mem_append.1 ht with ht | ht
    · exact (List.pairwise_append.1 order).2.2 t ht last (List.mem_singleton_self _)
    · exact Int.le_of_eq (List.mem_singleton.1 ht)
  obtain ⟨rest, rfl⟩ := h
  unfold passed
  cases earlier with
  | nil =>
    cases rest with
    | nil => exact Int.le_refl _
    | cons t ts =>
      have := last_ge order t (by simp)
      simp only [List.nil_append, List.getLastD_nil, List.headD_nil, List.headD_cons] at this ⊢
      omega
  | cons t ts =>
    have last := List.mem_append_left rest (getLastD_mem (List.cons_ne_nil t ts))
    have := last_ge order _ last
    simp only [List.cons_append, List.headD_cons] at this ⊢
    omega

/-- The ticks passed are bounded where the distances from the first tick are. -/
theorem natAbs_passed_lt {earlier later : List Int} {bound : Nat} (h : earlier <+: later)
    (range : ∀ t ∈ later, (t - later.headD 0).natAbs < bound + 1) :
    (passed earlier).natAbs < bound + 1 := by
  obtain ⟨rest, rfl⟩ := h
  cases earlier with
  | nil => exact Nat.succ_pos bound
  | cons t ts => exact range _ (List.mem_append_left rest (getLastD_mem (List.cons_ne_nil t ts)))

/-- A clock with a positive scale, fed frames that show neighbouring ticks less than half a turn
apart and all less than `2 ^ 63` from the first one, with frames too short to show any in between.
-/
theorem stamps_follow_ticks (scale : 0 < l.ticksPerUnit)
    (shows : ∀ x ∈ feed, Shows l.offset x.1 x.2) (near : (ticks feed).IsChain Near)
    (range : ∀ t ∈ ticks feed, (t - (ticks feed).headD 0).natAbs < 2 ^ 63) :
    -- Every frame is given the units passed up to the last counter it or a frame before it shows.
    (∀ n < feed.length, ((start l).stamps (feed.map (·.2)))[n]? =
      some (.ofInt .double ((passed (ticks (feed.take (n + 1)))).tdiv l.ticksPerUnit))) ∧
    -- The ticks counted are those that passed, and stay within 64 bits.
    (∀ n, ((start l).after ((feed.take n).map (·.2))).total = passed (ticks (feed.take n)) ∧
      (passed (ticks (feed.take n))).natAbs < 2 ^ 63) ∧
    -- Times do not go back where ticks do not.
    ((ticks feed).Pairwise (· ≤ ·) →
      ((start l).stamps (feed.map (·.2))).Pairwise fun a b => a.le b = true) := by
  have scaled : l.scaled = l := if_neg (Int.not_le.2 scale)
  have upto (n : Nat) : ticks (feed.take n) <+: ticks feed :=
    (List.take_prefix n feed).filterMap _
  -- The clock is on track after each of the frames, and every clause is read off that.
  have tracks (n : Nat) : Tracks l (feed.take n) ((start l).after ((feed.take n).map (·.2))) :=
    (tracks_start l).after (fun x hx => shows x (List.mem_of_mem_take hx)) <|
      List.IsChain.prefix near (upto n)
  have bound (n : Nat) : (passed (ticks (feed.take n))).natAbs < 2 ^ 63 :=
    natAbs_passed_lt (upto n) range
  have times (n : Nat) (hn : n < feed.length) : ((start l).stamps (feed.map (·.2)))[n]? =
      some (.ofInt .double ((passed (ticks (feed.take (n + 1)))).tdiv l.ticksPerUnit)) := by
    rw [stamps_getElem? _ _ (by rwa [List.length_map]), ← List.map_take]
    have h := tracks (n + 1)
    unfold units
    rw [h.total, h.layout, scaled]
  refine ⟨times, fun n => ⟨(tracks n).total, bound n⟩, ?_⟩
  intro order
  rw [List.pairwise_iff_getElem]
  intro m n hm hn hmn
  rw [length_stamps, List.length_map] at hm hn
  have hm := times m hm
  have hn := times n hn
  rw [List.getElem?_eq_some_iff] at hm hn
  obtain ⟨_, hm⟩ := hm
  obtain ⟨_, hn⟩ := hn
  rw [hm, hn]
  have later : ticks (feed.take (m + 1)) <+: ticks (feed.take (n + 1)) :=
    (List.take_prefix_take_left (by omega)).filterMap _
  have more := passed_le_of_prefix later (order.sublist (upto (n + 1)).sublist)
  have short (i : Nat) :
      ((passed (ticks (feed.take i))).tdiv l.ticksPerUnit).natAbs < 2 ^ 63 := by
    rw [Int.natAbs_tdiv]
    exact Nat.lt_of_le_of_lt (Nat.div_le_self _ _) (bound i)
  have scaled := Int.tdiv_le_tdiv scale more
  exact Binary.ofInt_le_ofInt (by decide) (by decide) (short _) (short _) scaled

/-- A clock of ten ticks a unit, over a counter that wraps, with a frame cut off in between. -/
theorem stamps_follow_a_wrap :
    let feed : List (Option Int × Bytes) :=
      [(some 4294967280, [7, 0xf0, 0xff, 0xff, 0xff, 1]), (none, [7, 9, 9]),
        (some 4294967321, [7, 25, 0, 0, 0]), (some 4294967340, [7, 44, 0, 0, 0, 3, 3])]
    (start ⟨1, 10⟩).stamps (feed.map (·.2)) = [0, 0, 4, 6] ∧
      ((start ⟨1, 10⟩).stamps (feed.map (·.2))).Pairwise fun a b => a.le b = true := by
  intro feed
  have counter {tick : Int} (a b c d : UInt8) (rest : Bytes) (bytes : _ = tick % 4294967296) :
      Shows 1 (some tick) ([7] ++ a :: b :: c :: d :: rest) := .counter rfl bytes
  have shows : ∀ x ∈ feed, Shows 1 x.1 x.2 :=
    List.forall_mem_cons.2 ⟨counter _ _ _ _ _ rfl,
      List.forall_mem_cons.2 ⟨.short (by decide),
        List.forall_mem_cons.2 ⟨counter _ _ _ _ _ rfl,
          List.forall_mem_cons.2 ⟨counter _ _ _ _ _ rfl, List.forall_mem_nil _⟩⟩⟩⟩
  have near : (ticks feed).IsChain Near :=
    .cons_cons ⟨by decide, by decide⟩ (.cons_cons ⟨by decide, by decide⟩ (.singleton _))
  have follow := stamps_follow_ticks (l := ⟨1, 10⟩) (by decide) shows near (by decide)
  exact ⟨by decide +kernel, follow.2.2 (by decide)⟩

end RollingClock

end Sensing
