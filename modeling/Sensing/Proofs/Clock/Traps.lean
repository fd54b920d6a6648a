import Sensing.Proofs.Clock.Unwrapping
import Sensing.Text.Integer

/-!
# A clock never traps

A clock computes on unbounded integers. The machine that it runs on has 64 bits, and its arithmetic
*traps*: a sum that does not fit, an index out of bounds and a division by zero each stop the
program. So there is a second way to take in a frame, `stampChecked`, operation by operation as the
machine does it.

It always gives what `stamp` gives, whatever the layout and whatever is in the frames, for as long
as no more than `2 ^ 32` frames were taken in. The invariant is `Sums`: each counter after the first
one moves the total by at most `2 ^ 31`, so with that many frames it stays within 64 bits.

Main result: `stamps_without_traps`.
-/

namespace Sensing

-- `^` is the power of core, also beside a library that brings a more general one.
attribute [local instance (2000)] instPowNat

/-! ## A machine that traps -/

/-- Why a machine stops in the middle of an expression. -/
inductive Trap where
  | overflow
  | outOfBounds
  | zeroDivision
  deriving DecidableEq, Repr

namespace Checked

/-- A signed number of 64 bits. -/
def word (n : Int) : Except Trap Int :=
  match Text.IntegerRange.signed64.fit? n with
  | some n => .ok n
  | none => .error .overflow

def add (a b : Int) : Except Trap Int := word (a + b)

/-- The quotient, rounded toward zero. -/
def div (a b : Int) : Except Trap Int :=
  if b = 0 then .error .zeroDivision else word (a.tdiv b)

/-- The byte at an index. -/
def byte (bytes : Bytes) (i : Nat) : Except Trap UInt8 :=
  match bytes[i]? with
  | some b => .ok b
  | none => .error .outOfBounds

/-- The part of some bytes from `start` on that is `width` long. There is none where the bytes end
before it does, nor where its end is no address. -/
def slice? (bytes : Bytes) (start width : Nat) : Option Bytes :=
  if start + width < 2 ^ 64 ∧ start + width ≤ bytes.length then
    some ((bytes.drop start).take width)
  else none

/-- A number that fits is no trap. -/
theorem word_eq_ok {n : Int} (h : n.natAbs < 2 ^ 63) : word n = .ok n := by
  unfold word Text.IntegerRange.fit? Text.IntegerRange.signed64
  rw [if_pos ⟨by dsimp only; omega, by dsimp only; omega⟩]

/-- A sum that fits is no trap. -/
theorem add_eq_ok {a b : Int} (h : (a + b).natAbs < 2 ^ 63) : add a b = .ok (a + b) :=
  word_eq_ok h

/-- A quotient is no greater than what was divided. -/
theorem div_eq_ok {a b : Int} (ha : a.natAbs < 2 ^ 63) (hb : b ≠ 0) : div a b = .ok (a.tdiv b) := by
  unfold div
  rw [if_neg hb]
  refine word_eq_ok ?_
  rw [Int.natAbs_tdiv]
  exact Nat.lt_of_le_of_lt (Nat.div_le_self _ _) ha

end Checked

theorem Binary.ofInt_zero {p : Precision} : ofInt p 0 = 0 := rfl

namespace RollingClock

/-! ## The clock on such a machine -/

/-- Reads the counter of a frame. -/
def counterChecked (offset : Nat) (frame : Bytes) : Except Trap (Option UInt32) :=
  match Checked.slice? frame offset 4 with
  | none => return none
  | some window => do
    let a ← Checked.byte window 0
    let b ← Checked.byte window 1
    let c ← Checked.byte window 2
    let d ← Checked.byte window 3
    return some (word a b c d)

/-- Takes in the counter of a frame. The difference of two counters is one of words, which wraps;
its bits are then read as those of a signed number. -/
def advanceChecked (k : RollingClock) (frame : Bytes) : Except Trap RollingClock := do
  match ← counterChecked k.layout.offset frame with
  | none => return k
  | some now =>
    let last := if k.started then k.last else now
    let total ← Checked.add k.total (now - last).toInt32.toInt
    return { k with started := true, total, last := now }

/-- Takes in a frame and gives its time. -/
def stampChecked (k : RollingClock) (frame : Bytes) : Except Trap (Double × RollingClock) := do
  let k ← k.advanceChecked frame
  let units ← Checked.div k.total k.layout.ticksPerUnit
  return (.ofInt .double units, k)

/-- The times a clock gives some frames, and the clock afterwards. -/
def stampsChecked (k : RollingClock) : List Bytes → Except Trap (List Double × RollingClock)
  | [] => return ([], k)
  | frame :: frames => do
    let here ← k.stampChecked frame
    let rest ← here.2.stampsChecked frames
    return (here.1 :: rest.1, rest.2)

/-! ## Counters -/

/-- The number that bytes spell, the least significant one first. -/
def littleEndian : Bytes → Nat
  | [] => 0
  | b :: bs => b.toNat + 256 * littleEndian bs

/-- The counter that a frame shows, if it is long enough to show one. -/
def shown? (offset : Nat) (frame : Bytes) : Option Int :=
  if offset + 4 ≤ frame.length then some (littleEndian ((frame.drop offset).take 4)) else none

/-- The counters that frames show, in order. -/
def countersIn (offset : Nat) (frames : List Bytes) : List Int := frames.filterMap (shown? offset)

variable {offset : Nat} {frame : Bytes} {l : ClockLayout} {seen frames : List Bytes}
  {k : RollingClock}

/-- So many bytes spell a number below so many powers of 256. -/
theorem littleEndian_lt (bs : Bytes) : littleEndian bs < 256 ^ bs.length := by
  induction bs with
  | nil => exact Nat.one_pos
  | cons b bs ih =>
    have hb := b.toNat_lt
    rw [List.length_cons, Nat.pow_succ, littleEndian]
    omega

/-- Between the end of the offset and the end of a long enough frame there are four bytes. -/
theorem exists_window (long : offset + 4 ≤ frame.length) :
    ∃ a b c d rest, frame.drop offset = a :: b :: c :: d :: rest := by
  have length : 4 ≤ (frame.drop offset).length := by rw [List.length_drop]; omega
  match hd : frame.drop offset, length with
  | a :: b :: c :: d :: rest, _ => exact ⟨a, b, c, d, rest, rfl⟩

/-- The counter of a frame has 32 bits and no sign. -/
theorem shown?_bound {n : Int} (h : shown? offset frame = some n) : 0 ≤ n ∧ n < 4294967296 := by
  unfold shown? at h
  split at h
  next long =>
    obtain ⟨a, b, c, d, rest, hd⟩ := exists_window long
    have bound := littleEndian_lt [a, b, c, d]
    rw [hd] at h
    obtain rfl := Option.some.inj h
    simp only [List.take_succ_cons, List.take_zero, List.length_cons, List.length_nil] at bound ⊢
    omega
  next => cases h

/-- A frame shows the counter as a device's ticks are shown. -/
theorem shows_shown? (offset : Nat) (frame : Bytes) : Shows offset (shown? offset frame) frame := by
  unfold shown?
  split
  next long =>
    obtain ⟨a, b, c, d, rest, hd⟩ := exists_window long
    have whole : frame = frame.take offset ++ a :: b :: c :: d :: rest := by
      rw [← hd, List.take_append_drop]
    have start : (frame.take offset).length = offset := by rw [List.length_take]; omega
    have bound := littleEndian_lt [a, b, c, d]
    rw [hd]
    show Shows offset (some (littleEndian [a, b, c, d] : Int)) frame
    rw [whole]
    refine .counter start ?_
    simp only [littleEndian, List.length_cons, List.length_nil] at bound ⊢
    omega
  next short => exact .short (by omega)

/-- One more frame shows its counter, or nothing, after all others. -/
theorem countersIn_concat (offset : Nat) (seen : List Bytes) (frame : Bytes) :
    countersIn offset (seen ++ [frame]) =
      countersIn offset seen ++ (shown? offset frame).toList := by
  unfold countersIn
  rw [List.filterMap_append]
  cases h : shown? offset frame <;> simp [h]

/-- A frame shows one counter at most. -/
theorem length_countersIn_le (offset : Nat) (seen : List Bytes) :
    (countersIn offset seen).length ≤ seen.length :=
  List.length_filterMap_le _ _

/-- Frames that are cut off show none. -/
theorem countersIn_eq_nil (short : ∀ frame ∈ frames, frame.length < offset + 4) :
    countersIn offset frames = [] := by
  refine List.filterMap_eq_nil_iff.2 fun frame hframe => ?_
  have := short frame hframe
  exact if_neg (by omega)

/-! ## The invariant -/

/-- A clock that has taken in some frames. -/
structure Sums (l : ClockLayout) (seen : List Bytes) (k : RollingClock) : Prop where
  layout : k.layout = l.scaled
  started : k.started = true ↔ countersIn l.offset seen ≠ []
  last : ∀ n ∈ (countersIn l.offset seen).getLast?, (k.last.toNat : Int) = n
  /-- The total is off by whole turns of the counter at most. -/
  congruent : k.total % 4294967296 = passed (countersIn l.offset seen) % 4294967296
  /-- Every counter but the first one moves the total by half a turn at most. -/
  bounded : k.total.natAbs ≤ 2147483648 * ((countersIn l.offset seen).length - 1)

/-- At the start nothing was taken in. -/
theorem sums_start (l : ClockLayout) : Sums l [] (start l) where
  layout := rfl
  started := ⟨fun h => (Bool.false_ne_true h).elim, fun h => (h rfl).elim⟩
  last _ h := nomatch h
  congruent := rfl
  bounded := Nat.zero_le _

/-- Nothing that a clock takes in moves the place of its counter. -/
theorem Sums.offset_eq (h : Sums l seen k) : k.layout.offset = l.offset := by
  rw [h.layout]
  unfold ClockLayout.scaled
  split <;> rfl

/-- The scale can be divided by, even if that of the layout cannot. -/
theorem Sums.scale_pos (h : Sums l seen k) : 0 < k.layout.ticksPerUnit := by
  rw [h.layout]
  unfold ClockLayout.scaled
  split
  · exact Int.one_pos
  · omega

/-- So few frames move the total by less than a word can hold. -/
theorem Sums.natAbs_total_lt (h : Sums l seen k) (few : seen.length ≤ 2 ^ 32) :
    k.total.natAbs < 2 ^ 63 := by
  have bounded := h.bounded
  have length := length_countersIn_le l.offset seen
  omega

/-- The difference of two words, read as a signed number, is what a clock adds up. -/
theorem toInt_sub (a b : UInt32) :
    (a - b).toInt32.toInt = signed32 ((a.toNat : Int) - b.toNat) := by
  have bits : (a - b).toInt32.toInt = (a.toBitVec - b.toBitVec).toInt := rfl
  rw [bits, BitVec.toInt_sub, BitVec.toInt_eq_toNat_bmod, BitVec.toInt_eq_toNat_bmod,
    Int.bmod_sub_bmod, Int.sub_bmod_bmod]
  rfl

/-- As a signed number a difference is half a turn at most. -/
theorem natAbs_signed32_le (n : Int) : (signed32 n).natAbs ≤ 2147483648 := by
  have low := Int.le_bmod (x := n) (m := 4294967296) (by decide)
  have high := Int.bmod_lt (x := n) (m := 4294967296) (by decide)
  unfold signed32
  omega

/-- Read as a signed number, a difference changes by whole turns only. -/
theorem signed32_emod (n : Int) : signed32 n % 4294967296 = n % 4294967296 :=
  Int.bmod_emod

/-- A frame that is cut off leaves a clock as it is. -/
theorem advance_of_none (h : counterAt? k.layout.offset frame = none) : k.advance frame = k := by
  unfold advance
  rw [h]

/-- Any other frame moves it by the difference to the last counter, and the first one by nothing. -/
theorem advance_of_some {now : UInt32} (h : counterAt? k.layout.offset frame = some now) :
    k.advance frame =
      { k with
        started := true
        total := k.total + signed32 (now.toNat - (if k.started then k.last else now).toNat)
        last := now } := by
  unfold advance
  rw [h]

/-- Taking in one more frame. -/
theorem Sums.stamp (h : Sums l seen k) (frame : Bytes) :
    Sums l (seen ++ [frame]) (k.stamp frame).2 := by
  have shows := shows_shown? l.offset frame
  have counters := countersIn_concat l.offset seen frame
  show Sums l _ (k.advance frame)
  -- A frame without a counter leaves the sums as they are; one with a counter adds its step.
  cases hshown : shown? l.offset frame with
  | none =>
    rw [hshown] at shows counters
    have same : countersIn l.offset (seen ++ [frame]) = countersIn l.offset seen := by
      rw [counters, Option.toList_none, List.append_nil]
    rw [advance_of_none (h.offset_eq.symm ▸ shows.counterAt?_eq_none)]
    exact ⟨h.layout, same ▸ h.started, same ▸ h.last, same ▸ h.congruent, same ▸ h.bounded⟩
  | some n =>
    rw [hshown] at shows counters
    rw [Option.toList_some] at counters
    obtain ⟨now, counter, residue⟩ := shows.counterAt?
    rw [advance_of_some (h.offset_eq.symm ▸ counter)]
    have below : (now.toNat : Int) = n := by
      have bound := shown?_bound hshown
      omega
    refine ⟨h.layout, by simp [counters], ?_, ?_, ?_⟩ <;> rw [counters]
    · intro m hm
      rw [List.getLast?_concat, Option.mem_some_iff] at hm
      exact hm ▸ below
    all_goals
      by_cases first : countersIn l.offset seen = []
      · -- The first counter is compared with itself.
        have fresh : ¬k.started = true := fun started => h.started.1 started first
        have congruent := h.congruent
        have bounded := h.bounded
        rw [first] at congruent bounded ⊢
        simp only [if_neg fresh, List.nil_append, passed_singleton, Int.sub_self,
          List.length_singleton]
        simp only [passed, List.getLastD_nil, List.headD_nil, List.length_nil] at congruent bounded
        have zero : signed32 0 = 0 := rfl
        omega
      · have started : k.started = true := h.started.2 first
        obtain ⟨last, hlast⟩ := Option.ne_none_iff_exists'.1 (mt List.getLast?_eq_none_iff.1 first)
        have length := List.length_pos_iff.2 first
        have congruent := h.congruent
        have bounded := h.bounded
        -- The step is the difference of the two counters but for a multiple of `2 ^ 32`, and at
        -- most half of that.
        have step := signed32_emod (n - last)
        have half := natAbs_signed32_le (n - last)
        simp only [if_pos started, below, h.last last hlast, passed_concat hlast,
          List.length_append, List.length_singleton]
        omega

/-- A run of frames. -/
theorem Sums.after (h : Sums l seen k) (frames : List Bytes) :
    Sums l (seen ++ frames) (k.after frames) := by
  induction frames generalizing seen k with
  | nil => rwa [List.append_nil]
  | cons frame frames ih =>
    rw [List.append_cons]
    exact ih (h.stamp frame)

/-! ## No operation traps -/

/-- A frame within the address space is read without an index out of bounds. -/
theorem counterChecked_eq_ok (addressable : frame.length < 2 ^ 64) :
    counterChecked offset frame = .ok (counterAt? offset frame) := by
  unfold counterChecked Checked.slice?
  by_cases long : offset + 4 ≤ frame.length
  · obtain ⟨a, b, c, d, rest, hd⟩ := exists_window long
    rw [if_pos ⟨by omega, long⟩]
    unfold counterAt?
    rw [hd]
    rfl
  · have short : frame.length < offset + 4 := by omega
    have none := (Shows.short short).counterAt?_eq_none
    rw [if_neg fun h => long h.2, none]
    rfl

/-- The sum and the quotient fit. -/
theorem Sums.stampChecked_eq_ok (h : Sums l seen k) (few : seen.length < 2 ^ 32)
    (addressable : frame.length < 2 ^ 64) : k.stampChecked frame = .ok (k.stamp frame) := by
  -- What has to fit is what is there once the frame is taken in, so the invariant is carried on
  -- first.
  have next := h.stamp frame
  have total : (k.advance frame).total.natAbs < 2 ^ 63 :=
    next.natAbs_total_lt (by rw [List.length_append, List.length_singleton]; omega)
  have scale : (k.advance frame).layout.ticksPerUnit ≠ 0 := Int.ne_of_gt next.scale_pos
  have advanced : k.advanceChecked frame = .ok (k.advance frame) := by
    unfold advanceChecked
    rw [counterChecked_eq_ok addressable]
    cases counter : counterAt? k.layout.offset frame with
    | none =>
      rw [advance_of_none counter]
      rfl
    | some now =>
      rw [advance_of_some counter] at total ⊢
      show (do
        let total ← Checked.add k.total (now - if k.started then k.last else now).toInt32.toInt
        return { k with started := true, total, last := now }) = _
      rw [toInt_sub, Checked.add_eq_ok total]
      rfl
  unfold stampChecked RollingClock.stamp units
  rw [advanced]
  show (do
    let units ← Checked.div (k.advance frame).total (k.advance frame).layout.ticksPerUnit
    return (Binary.ofInt .double units, k.advance frame)) = _
  rw [Checked.div_eq_ok total scale]
  rfl

/-- A run of frames, as long as there are few in all. -/
theorem Sums.stampsChecked_eq_ok (h : Sums l seen k)
    (few : seen.length + frames.length ≤ 2 ^ 32)
    (addressable : ∀ frame ∈ frames, frame.length < 2 ^ 64) :
    k.stampsChecked frames = .ok (k.stamps frames, k.after frames) := by
  induction frames generalizing seen k with
  | nil => rfl
  | cons frame frames ih =>
    rw [List.length_cons] at few
    have here := h.stampChecked_eq_ok (by omega) (addressable frame (List.mem_cons_self ..))
    have rest := ih (h.stamp frame)
      (by rw [List.length_append, List.length_singleton]; omega)
      (fun frame hframe => addressable frame (List.mem_cons_of_mem _ hframe))
    unfold stampsChecked
    rw [here]
    show (do
      let rest ← (k.stamp frame).2.stampsChecked frames
      return ((k.stamp frame).1 :: rest.1, rest.2)) = _
    rw [rest]
    rfl

/-! ## Every layout and every feed -/

/-- A clock of any layout, valid or not, that takes in at most `2 ^ 32` frames of the address
space, whatever is in them. -/
theorem stamps_without_traps (l : ClockLayout) (few : frames.length ≤ 2 ^ 32)
    (addressable : ∀ frame ∈ frames, frame.length < 2 ^ 64) :
    -- The machine gets through, to the times and the clock that unbounded arithmetic gives.
    (start l).stampsChecked frames = .ok ((start l).stamps frames, (start l).after frames) ∧
    -- After each frame, the total is the last counter less the first one, up to whole turns of the
    -- counter, and at most half a turn for each frame that shows one.
    (∀ n,
      ((start l).after (frames.take n)).total % 4294967296 =
        ((countersIn l.offset (frames.take n)).getLastD 0 -
          (countersIn l.offset (frames.take n)).headD 0) % 4294967296 ∧
      ((start l).after (frames.take n)).total.natAbs ≤
        2 ^ 31 * (countersIn l.offset (frames.take n)).length) ∧
    -- Every time is zero where no frame is long enough to show a counter.
    ((∀ frame ∈ frames, frame.length < l.offset + 4) → ∀ t ∈ (start l).stamps frames, t = 0) := by
  have sums (n : Nat) : Sums l (frames.take n) ((start l).after (frames.take n)) :=
    (sums_start l).after (frames.take n)
  refine ⟨(sums_start l).stampsChecked_eq_ok (by simpa using few) addressable, ?_, ?_⟩
  · intro n
    have bounded := (sums n).bounded
    exact ⟨(sums n).congruent, by omega⟩
  · intro short t ht
    obtain ⟨n, hn, rfl⟩ := List.mem_iff_getElem.1 ht
    have hlength := length_stamps (start l) frames
    have time := stamps_getElem? (start l) frames (n := n) (by omega)
    rw [List.getElem?_eq_getElem hn, Option.some.injEq] at time
    -- No counter was shown, so nothing was added.
    have bounded := (sums (n + 1)).bounded
    rw [countersIn_eq_nil fun frame hframe => short frame (List.mem_of_mem_take hframe),
      List.length_nil] at bounded
    have total : ((start l).after (frames.take (n + 1))).total = 0 := by omega
    rw [time]
    unfold units
    rw [total, Int.zero_tdiv, Binary.ofInt_zero]

/-- A layout with a negative scale, and counters half a turn apart, with a frame in between that is
cut off; and an offset at the end of the address space. -/
theorem stamps_half_a_turn_without_traps :
    let frames : List Bytes := [[9, 0, 0, 0, 0], [9, 255, 255], [9, 0, 0, 0, 128, 7]]
    (start ⟨1, -5⟩).stampsChecked frames =
        .ok ([0, 0, .ofInt .double (-2147483648)], (start ⟨1, -5⟩).after frames) ∧
      (start ⟨18446744073709551615, 0⟩).stampsChecked frames =
        .ok ([0, 0, 0], (start ⟨18446744073709551615, 0⟩).after frames) ∧
      ∀ t ∈ (start ⟨18446744073709551615, 0⟩).stamps frames, t = 0 := by
  intro frames
  have few : frames.length ≤ 2 ^ 32 := by decide
  have addressable : ∀ frame ∈ frames, frame.length < 2 ^ 64 := by decide
  have short : ∀ frame ∈ frames, frame.length < 18446744073709551615 + 4 := by decide
  have near := stamps_without_traps ⟨1, -5⟩ few addressable
  have far := stamps_without_traps ⟨18446744073709551615, 0⟩ few addressable
  have times : (start ⟨1, -5⟩).stamps frames = [0, 0, .ofInt .double (-2147483648)] := by
    decide +kernel
  have zeros : (start ⟨18446744073709551615, 0⟩).stamps frames = [0, 0, 0] := by
    decide +kernel
  exact ⟨times ▸ near.1, zeros ▸ far.1, far.2.2 short⟩

end RollingClock

end Sensing
