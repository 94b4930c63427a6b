import GpuCore.Proofs.Vram.Recurrence
import Mathlib.Data.List.GetD
import Mathlib.Data.List.Nodup
import Mathlib.Order.Monotone.Basic

/-!
# Loops with one turn-around

A chain that does not end runs through some addresses and then round and round a loop.  The loop
detector finds the loop if there is one place only where it turns down, or one place only where it
turns up; then it raises the alarm in the third round at the latest.  With two of each it stays
silent for ever.

Main definitions:

- `lassoAt` and `lasso`: a sequence that runs into a loop, and its first elements.
- `Vram.descents` and `Vram.ascents`: the steps of a loop that lead down and up.
- `Vram.HasOneTurn` and `Vram.TurnsOnce`: only one step of a loop leads on one of the ways, and on a
  given one.

Main results:

- `lassoAt_eq_iff`: elements recur in step with the loop.
- `Vram.exists_recurs_iff`: there is a recurrence exactly if the loop turns once.
- `Vram.TurnsOnce.recurs`: where the first one is at the latest.
- `count_lasso_le`: so far no element occurs three times.
- `Vram.exists_alarm_iff` and `Vram.le_of_visitAll_lasso_ne_none`: whether and when the detector
  raises an alarm.
-/

namespace GpuCore

/-! ## Sequences that run into a loop -/

/-- The place of element number `index` of a sequence that runs through `first` elements and then
round and round a loop of `period` elements. -/
def lassoPlace (first period index : Nat) : Nat :=
  if index < first then index else first + (index - first) % period

section Lasso

variable {α β : Type} [Inhabited α] [Inhabited β] {tail loop : List α}

/-- Element number `index` of the sequence that runs through a tail and then round and round a
loop. -/
def lassoAt (tail loop : List α) (index : Nat) : α :=
  (tail ++ loop).getD (lassoPlace tail.length loop.length index) default

/-- The first elements of that sequence. -/
def lasso (tail loop : List α) (count : Nat) : List α :=
  (List.range count).map (lassoAt tail loop)

/-- Every index is reduced to a place of the tail or of the first round. -/
theorem lassoPlace_lt (first : Nat) {period : Nat} (hperiod : 0 < period) (index : Nat) :
    lassoPlace first period index < first + period := by
  have hmod := Nat.mod_lt (index - first) hperiod
  unfold lassoPlace
  split <;> omega

/-- Behind the tail, the place turns with the period. -/
theorem lassoPlace_add (first period index : Nat) :
    lassoPlace first period (first + index) = first + index % period := by
  rw [lassoPlace, if_neg (by omega), Nat.add_sub_cancel_left]

/-- Without a tail, the place of an element is that of its step in a round. -/
theorem lassoPlace_zero (period index : Nat) : lassoPlace 0 period index = index % period := by
  have hplace := lassoPlace_add 0 period index
  rwa [Nat.zero_add, Nat.zero_add] at hplace

/-- The place behind an element, which is the first one of the loop behind its last one. -/
theorem lassoPlace_succ (first : Nat) {period : Nat} (hperiod : 0 < period) (index : Nat) :
    lassoPlace first period (index + 1) =
      if lassoPlace first period index + 1 < first + period then
        lassoPlace first period index + 1
      else
        first := by
  rcases Nat.lt_or_ge index first with hlt | hge
  · have hplace : lassoPlace first period index = index := if_pos hlt
    rw [hplace, if_pos (by omega)]
    rcases Nat.lt_or_ge (index + 1) first with hnext | hnext
    · exact if_pos hnext
    · obtain rfl : first = index + 1 := by omega
      exact lassoPlace_add (index + 1) period 0
  · obtain ⟨place, rfl⟩ := Nat.exists_eq_add_of_le hge
    have hmod := Nat.mod_lt place hperiod
    rw [Nat.add_assoc, lassoPlace_add, lassoPlace_add, ← Nat.mod_add_mod]
    split
    · rw [Nat.mod_eq_of_lt (by omega), Nat.add_assoc]
    · rw [show place % period + 1 = period by omega, Nat.mod_self, Nat.add_zero]

/-- Elements are in the tail or in the loop. -/
theorem lassoAt_eq_getElem (tail : List α) (hloop : loop ≠ []) (index : Nat) :
    ∃ h : lassoPlace tail.length loop.length index < (tail ++ loop).length,
      lassoAt tail loop index = (tail ++ loop)[lassoPlace tail.length loop.length index] := by
  have hplace : lassoPlace tail.length loop.length index < (tail ++ loop).length := by
    rw [List.length_append]
    exact lassoPlace_lt tail.length (List.length_pos_iff.2 hloop) index
  exact ⟨hplace, List.getD_eq_getElem _ _ hplace⟩

/-- Nothing is met that is neither in the tail nor in the loop. -/
theorem lassoAt_mem (hloop : loop ≠ []) (index : Nat) : lassoAt tail loop index ∈ tail ++ loop := by
  obtain ⟨hplace, heq⟩ := lassoAt_eq_getElem tail hloop index
  rw [heq]
  exact List.getElem_mem hplace

/-- The tail comes first. -/
theorem lassoAt_of_lt {index : Nat} (hindex : index < tail.length) (loop : List α) :
    lassoAt tail loop index = tail[index] := by
  rw [lassoAt, lassoPlace, if_pos hindex, List.getD_append _ _ _ _ hindex,
    List.getD_eq_getElem _ _ hindex]

/-- Behind the tail there is only the loop. -/
theorem lassoAt_add (tail loop : List α) (index : Nat) :
    lassoAt tail loop (tail.length + index) = lassoAt [] loop index := by
  rw [lassoAt, lassoAt, List.length_nil, lassoPlace_zero, lassoPlace_add, List.nil_append,
    List.getD_append_right _ _ _ _ (Nat.le_add_right _ _), Nat.add_sub_cancel_left]

/-- Without a tail, the loop is read over and over. -/
theorem lassoAt_nil (loop : List α) (index : Nat) :
    lassoAt [] loop index = loop.getD (index % loop.length) default := by
  rw [lassoAt, List.length_nil, lassoPlace_zero, List.nil_append]

/-- Distinct elements recur in step with the loop, and only there. -/
theorem lassoAt_eq_iff (hloop : loop ≠ []) (hdistinct : (tail ++ loop).Nodup) (j k : Nat) :
    lassoAt tail loop j = lassoAt tail loop k ↔
      lassoPlace tail.length loop.length j = lassoPlace tail.length loop.length k := by
  obtain ⟨hj, hj'⟩ := lassoAt_eq_getElem tail hloop j
  obtain ⟨hk, hk'⟩ := lassoAt_eq_getElem tail hloop k
  rw [hj', hk']
  exact hdistinct.getElem_inj_iff

/-- A function of the elements. -/
theorem map_lassoAt (f : α → β) (hloop : loop ≠ []) (index : Nat) :
    f (lassoAt tail loop index) = lassoAt (tail.map f) (loop.map f) index := by
  obtain ⟨hplace, heq⟩ := lassoAt_eq_getElem tail hloop index
  rw [heq, lassoAt, ← List.map_append, List.length_map, List.length_map,
    List.getD_eq_getElem _ _ (by rwa [List.length_map]), List.getElem_map]

theorem map_lasso (f : α → β) (hloop : loop ≠ []) (count : Nat) :
    (lasso tail loop count).map f = lasso (tail.map f) (loop.map f) count := by
  rw [lasso, lasso, List.map_map]
  exact List.map_congr_left fun index _ => map_lassoAt f hloop index

@[simp]
theorem length_lasso (tail loop : List α) (count : Nat) :
    (lasso tail loop count).length = count := by
  rw [lasso, List.length_map, List.length_range]

/-- One more step adds what is met there. -/
theorem lasso_succ (tail loop : List α) (count : Nat) :
    lasso tail loop (count + 1) = lasso tail loop count ++ [lassoAt tail loop count] := by
  rw [lasso, List.range_succ, List.map_append]
  rfl

/-- The sequence begins with its tail. -/
theorem lasso_tail (tail loop : List α) (count : Nat) :
    lasso tail loop (tail.length + count) = tail ++ lasso [] loop count := by
  have htail : (List.range tail.length).map (lassoAt tail loop) = tail := by
    refine List.ext_getElem (by simp) fun index hindex hindex' => ?_
    simp [lassoAt_of_lt hindex']
  have hloop : (List.range count).map (lassoAt tail loop ∘ (tail.length + ·)) =
      lasso [] loop count := List.map_congr_left fun index _ => lassoAt_add tail loop index
  rw [lasso, List.range_add, List.map_append, List.map_map, htail, hloop]

/-- One round of a loop. -/
theorem lasso_round (loop : List α) (count : Nat) :
    lasso [] loop (loop.length + count) = loop ++ lasso [] loop count := by
  have hround (index : Nat) : lassoAt [] loop index = lassoAt loop loop index := by
    rcases Nat.lt_or_ge index loop.length with hlt | hge
    · rw [lassoAt_nil, Nat.mod_eq_of_lt hlt, lassoAt_of_lt hlt, List.getD_eq_getElem _ _ hlt]
    · obtain ⟨behind, rfl⟩ := Nat.exists_eq_add_of_le hge
      rw [lassoAt_add, lassoAt_nil, lassoAt_nil, Nat.add_mod_left]
  have hsame : lasso [] loop (loop.length + count) = lasso loop loop (loop.length + count) :=
    List.map_congr_left fun index _ => hround index
  rw [hsame, lasso_tail]

/-- Fewer elements come first. -/
theorem lasso_mono (tail loop : List α) {count count' : Nat} (hcount : count ≤ count') :
    lasso tail loop count <+: lasso tail loop count' := by
  obtain ⟨more, rfl⟩ := Nat.exists_eq_add_of_le hcount
  rw [lasso, lasso, List.range_add, List.map_append]
  exact List.prefix_append _ _

/-- The tail and the first round. -/
theorem lasso_first (tail loop : List α) :
    lasso tail loop (tail.length + loop.length) = tail ++ loop := by
  have hround := lasso_round loop 0
  rw [Nat.add_zero] at hround
  rw [lasso_tail, hround]
  simp [lasso]

/-- In the tail and two rounds of the loop, a distinct element occurs at most twice. -/
theorem count_lasso_le [DecidableEq α] (hdistinct : (tail ++ loop).Nodup) {count : Nat}
    (hcount : count ≤ tail.length + 2 * loop.length) (element : α) :
    (lasso tail loop count).count element ≤ 2 := by
  have hrounds : lasso tail loop (tail.length + 2 * loop.length) = tail ++ loop ++ loop := by
    have hsecond := lasso_round loop 0
    have hboth : 2 * loop.length = loop.length + (loop.length + 0) := by omega
    rw [hboth, lasso_tail, lasso_round, hsecond, ← List.append_assoc]
    simp [lasso]
  have hle := (lasso_mono tail loop hcount).sublist.count_le element
  have hfirst := List.nodup_iff_count_le_one.1 hdistinct element
  have hsecond := List.nodup_iff_count_le_one.1 (List.nodup_append.1 hdistinct).2.1 element
  rw [hrounds, List.count_append] at hle
  omega

end Lasso

namespace Vram

/-! ## Steps of a loop -/

/-- Whether the step behind element number `index` of a loop leads down. -/
def stepsDown (loop : List UInt32) (index : Nat) : Bool :=
  lassoAt [] loop (index + 1) < lassoAt [] loop index

/-- The steps of a loop that lead down, the one back to its first address included. -/
def descents (loop : List UInt32) : Nat :=
  (List.range loop.length).countP (stepsDown loop)

/-- The steps of a loop that lead up. -/
def ascents (loop : List UInt32) : Nat :=
  (List.range loop.length).countP fun index =>
    lassoAt [] loop index < lassoAt [] loop (index + 1)

/-- The loop has one address, one step down or one step up. -/
def HasOneTurn (loop : List UInt32) : Prop :=
  loop.length = 1 ∨ descents loop = 1 ∨ ascents loop = 1

/-- Only one step of a loop leads on the given way. -/
def TurnsOnce (loop : List UInt32) (down : Bool) : Prop :=
  ∃ index < loop.length, stepsDown loop index = down ∧
    ∀ other < loop.length, stepsDown loop other = down → other = index

variable {tail loop : List UInt32}

/-- Steps recur in step with the loop. -/
theorem stepsDown_mod (loop : List UInt32) (index : Nat) :
    stepsDown loop (index % loop.length) = stepsDown loop index := by
  unfold stepsDown
  rw [lassoAt_nil, lassoAt_nil, lassoAt_nil, lassoAt_nil, Nat.mod_mod, Nat.mod_add_mod]

/-- Behind the first address of the loop, the way of an address is that of a step of the loop. -/
theorem goesDown_lassoAt (tail loop : List UInt32) (index : Nat) :
    goesDown (lassoAt tail loop) (tail.length + (index + 1)) = stepsDown loop index := by
  have hbefore : addressBefore (lassoAt tail loop) (tail.length + (index + 1)) =
      lassoAt tail loop (tail.length + index) := rfl
  rw [goesDown, hbefore, lassoAt_add, lassoAt_add, stepsDown]

/-- One number of a range has a property. -/
theorem countP_range_eq_one_iff (p : Nat → Bool) (count : Nat) :
    (List.range count).countP p = 1 ↔
      ∃ index < count, p index = true ∧ ∀ other < count, p other = true → other = index := by
  have hmem (index : Nat) :
      index ∈ (List.range count).filter p ↔ index < count ∧ p index = true := by
    rw [List.mem_filter, List.mem_range]
  rw [List.countP_eq_length_filter]
  constructor
  · intro hone
    obtain ⟨index, hindex⟩ := List.length_eq_one_iff.1 hone
    simp only [hindex, List.mem_singleton] at hmem
    obtain ⟨hlt, hp⟩ := (hmem index).1 rfl
    exact ⟨index, hlt, hp, fun other hother hp' => (hmem other).2 ⟨hother, hp'⟩⟩
  · rintro ⟨index, hlt, hp, honly⟩
    have hsingle : ((List.range count).filter p).Perm [index] := by
      rw [List.perm_ext_iff_of_nodup (List.nodup_range.filter p) (List.nodup_singleton index)]
      intro other
      rw [hmem, List.mem_singleton]
      exact ⟨fun hother => honly other hother.1 hother.2, fun heq => heq ▸ ⟨hlt, hp⟩⟩
    exact hsingle.length_eq

/-- With more than one address, a loop does not stay where it is. -/
theorem lassoAt_succ_ne (hlong : 1 < loop.length) (hdistinct : loop.Nodup) (index : Nat) :
    lassoAt [] loop (index + 1) ≠ lassoAt [] loop index := by
  have hloop : loop ≠ [] := List.length_pos_iff.1 (Nat.lt_trans Nat.one_pos hlong)
  have hdistinct' : ([] ++ loop).Nodup := hdistinct
  have hmod : index % loop.length < loop.length := Nat.mod_lt _ (Nat.lt_trans Nat.one_pos hlong)
  rw [Ne, lassoAt_eq_iff hloop hdistinct', List.length_nil, lassoPlace_zero, lassoPlace_zero,
    ← Nat.mod_add_mod]
  rcases Nat.lt_or_ge (index % loop.length + 1) loop.length with hlt | hge
  · rw [Nat.mod_eq_of_lt hlt]
    exact Nat.succ_ne_self _
  · have hlast : index % loop.length + 1 = loop.length := Nat.le_antisymm hmod hge
    rw [hlast, Nat.mod_self]
    omega

/-- With more than one address, a loop has steps on both ways: it comes back to where it began. -/
theorem exists_stepsDown (hlong : 1 < loop.length) (hdistinct : loop.Nodup) (down : Bool) :
    ∃ index < loop.length, stepsDown loop index = down := by
  by_contra hnone
  have hloop : loop ≠ [] := List.length_pos_iff.1 (Nat.lt_trans Nat.one_pos hlong)
  have hother (index : Nat) : stepsDown loop index ≠ down := by
    rw [← stepsDown_mod]
    exact fun hway => hnone ⟨_, Nat.mod_lt index (List.length_pos_iff.2 hloop), hway⟩
  let height (index : Nat) : Nat := (lassoAt [] loop index).toNat
  have hround : height loop.length = height 0 := by
    simp only [height, lassoAt_nil, Nat.mod_self, Nat.zero_mod]
  cases down with
  | true =>
      have hup (index : Nat) : height index ≤ height (index + 1) := by
        have hway := hother index
        simp only [stepsDown, decide_eq_true_eq, ne_eq, UInt32.lt_iff_toNat_lt] at hway
        exact Nat.le_of_not_lt hway
      have hmonotone : Monotone height := monotone_nat_of_le_succ hup
      have hsecond : height 1 = height 0 :=
        Nat.le_antisymm (hround ▸ hmonotone (Nat.le_of_lt hlong)) (hup 0)
      exact lassoAt_succ_ne hlong hdistinct 0 (UInt32.toNat_inj.1 hsecond)
  | false =>
      have hdown (index : Nat) : height (index + 1) < height index := by
        have hway := hother index
        simpa [stepsDown, UInt32.lt_iff_toNat_lt] using hway
      have hanti : StrictAnti height := strictAnti_nat_of_succ_lt hdown
      have hlower := hanti (Nat.lt_trans Nat.one_pos hlong)
      rw [hround] at hlower
      exact Nat.lt_irrefl _ hlower

/-- A loop of one address has a single step, whichever way that leads. -/
theorem turnsOnce_of_length_eq_one (hone : loop.length = 1) :
    TurnsOnce loop (stepsDown loop 0) :=
  ⟨0, by omega, rfl, fun other hother _ => by omega⟩

/-- A loop turns once exactly if it has one address, one step down or one step up. -/
theorem turnsOnce_iff (hloop : loop ≠ []) (hdistinct : loop.Nodup) :
    (∃ down, TurnsOnce loop down) ↔ HasOneTurn loop := by
  have hdescents : descents loop = 1 ↔ TurnsOnce loop true :=
    countP_range_eq_one_iff _ _
  by_cases hone : loop.length = 1
  · exact ⟨fun _ => .inl hone, fun _ => ⟨_, turnsOnce_of_length_eq_one hone⟩⟩
  · have hlong : 1 < loop.length := by
      have hpositive := List.length_pos_iff.2 hloop
      omega
    have hup (index : Nat) :
        decide (lassoAt [] loop index < lassoAt [] loop (index + 1)) = !stepsDown loop index := by
      have hne := lassoAt_succ_ne hlong hdistinct index
      rw [Ne, ← UInt32.toNat_inj] at hne
      rw [stepsDown, ← decide_not, decide_eq_decide, UInt32.lt_iff_toNat_lt,
        UInt32.lt_iff_toNat_lt]
      omega
    have hascents : ascents loop = 1 ↔ TurnsOnce loop false := by
      simp only [ascents, hup, countP_range_eq_one_iff, Bool.not_eq_true', TurnsOnce]
    rw [HasOneTurn, hdescents, hascents, Bool.exists_bool, or_comm]
    exact ⟨.inr, fun h => h.resolve_left hone⟩

/-! ## Recurrences -/

/-- Less than a round apart, numbers are not in step. -/
theorem mod_ne_of_lt_add {period first second : Nat} (hlt : first < second)
    (hbefore : second < first + period) : second % period ≠ first % period := by
  intro hstep
  have hdivides : period ∣ second - first := Nat.dvd_of_mod_eq_zero
    (Nat.sub_mod_eq_zero_of_mod_eq hstep)
  have hle := Nat.le_of_dvd (by omega) hdivides
  omega

/-- In a round every place of the loop is met. -/
theorem exists_add_mod_eq {period place : Nat} (hplace : place < period) (first : Nat) :
    ∃ more < period, (first + more) % period = place := by
  have hmod : first % period < period := Nat.mod_lt _ (by omega)
  refine ⟨(place + period - first % period) % period, Nat.mod_lt _ (by omega), ?_⟩
  rw [Nat.add_mod_mod, ← Nat.mod_add_mod,
    show first % period + (place + period - first % period) = place + period by omega,
    Nat.add_mod_right, Nat.mod_eq_of_lt hplace]

/-- The step that alone leads on its way is found when it is taken for the second time behind the
first address of the loop. -/
theorem TurnsOnce.recurs {down : Bool} (h : TurnsOnce loop down) (tail : List UInt32) :
    ∃ index ≤ tail.length + 2 * loop.length, Recurs (lassoAt tail loop) index := by
  obtain ⟨step, hstep, hway, honly⟩ := h
  have hfirst : goesDown (lassoAt tail loop) (tail.length + (step + 1)) = down := by
    rw [goesDown_lassoAt, hway]
  refine ⟨tail.length + (step + 1 + loop.length), by omega, tail.length + (step + 1),
    ⟨by omega, rfl, fun later hlater hbefore => ?others⟩, ?again⟩
  case others =>
      -- The steps in between are the other ones of the loop.
      obtain ⟨between, rfl⟩ : ∃ between, later = tail.length + (between + 1) :=
        ⟨later - tail.length - 1, by omega⟩
      rw [hfirst, goesDown_lassoAt, ← stepsDown_mod]
      intro hsame
      have hplace : between % loop.length = step % loop.length := by
        rw [honly _ (Nat.mod_lt between (by omega)) hsame, Nat.mod_eq_of_lt hstep]
      exact mod_ne_of_lt_add (by omega) (by omega) hplace
  case again => rw [lassoAt_add, lassoAt_add, lassoAt_nil, lassoAt_nil, Nat.add_mod_right]

/-- An address recurs a round later at the earliest, and only in the loop. -/
theorem exists_round_of_lassoAt_eq (hloop : loop ≠ []) (hdistinct : (tail ++ loop).Nodup)
    {earlier index : Nat} (hlt : earlier < index)
    (hsame : lassoAt tail loop earlier = lassoAt tail loop index) :
    ∃ first, earlier = tail.length + first ∧ tail.length + first + loop.length ≤ index := by
  rw [lassoAt_eq_iff hloop hdistinct] at hsame
  have hge : tail.length ≤ earlier := by
    unfold lassoPlace at hsame
    split at hsame <;> split at hsame <;> omega
  obtain ⟨first, rfl⟩ := Nat.exists_eq_add_of_le hge
  obtain ⟨second, rfl⟩ := Nat.exists_eq_add_of_le (Nat.le_trans hge (Nat.le_of_lt hlt))
  rw [lassoPlace_add, lassoPlace_add, Nat.add_left_cancel_iff] at hsame
  refine ⟨first, rfl, ?_⟩
  by_contra hbefore
  exact mod_ne_of_lt_add (by omega) (by omega) hsame.symm

/-- Where an address recurs, no other step of the loop leads on its way. -/
theorem Recurs.turnsOnce (hloop : loop ≠ []) (hdistinct : (tail ++ loop).Nodup) {index : Nat}
    (h : Recurs (lassoAt tail loop) index) : ∃ down, TurnsOnce loop down := by
  obtain ⟨earlier, hlast, hsame⟩ := h
  obtain ⟨first, rfl, hround⟩ := exists_round_of_lassoAt_eq hloop hdistinct hlast.lt hsame
  generalize goesDown (lassoAt tail loop) (tail.length + first) = down at hlast
  by_cases hone : loop.length = 1
  · exact ⟨_, turnsOnce_of_length_eq_one hone⟩
  · have hlong : 1 < loop.length := by
      have hpositive := List.length_pos_iff.2 hloop
      omega
    -- All steps of a round but the last one lead on the other way.
    have honly : ∀ other < loop.length, stepsDown loop other = down →
        other = (first + (loop.length - 1)) % loop.length := by
      intro other hother hway
      obtain ⟨more, hmore, hplace⟩ := exists_add_mod_eq hother first
      rcases Nat.lt_or_ge more (loop.length - 1) with hearly | hlate
      · have hbetween := hlast.others (tail.length + (first + more + 1)) (by omega) (by omega)
        rw [goesDown_lassoAt, ← stepsDown_mod, hplace] at hbetween
        exact absurd hway hbetween
      · rw [← hplace, show more = loop.length - 1 by omega]
    obtain ⟨step, hstep, hway⟩ :=
      exists_stepsDown hlong (List.nodup_append.1 hdistinct).2.1 down
    refine ⟨down, step, hstep, hway, fun other hother hway' => ?_⟩
    rw [honly other hother hway', honly step hstep hway]

/-- There is a recurrence exactly if the loop turns once. -/
theorem exists_recurs_iff (hloop : loop ≠ []) (hdistinct : (tail ++ loop).Nodup) :
    (∃ index, Recurs (lassoAt tail loop) index) ↔ ∃ down, TurnsOnce loop down := by
  constructor
  · rintro ⟨index, hrecurs⟩
    exact hrecurs.turnsOnce hloop hdistinct
  · rintro ⟨down, honce⟩
    obtain ⟨index, -, hrecurs⟩ := honce.recurs tail
    exact ⟨index, hrecurs⟩

/-! ## Alarms -/

/-- The first addresses raise an alarm if there is a recurrence among them. -/
theorem visitAll_lasso_eq_none_iff (hloop : loop ≠ []) (hend : 0xFFFFFF ∉ tail ++ loop)
    (count : Nat) :
    AddressHistory.visitAll {} (lasso tail loop count) = none ↔
      ∃ index < count, Recurs (lassoAt tail loop) index :=
  AddressHistory.visitAll_eq_none_iff
    (fun index heq => hend (heq ▸ lassoAt_mem hloop index)) count

/-- An alarm is raised at some time exactly if the loop has one address, one step down or one step
up. -/
theorem exists_alarm_iff (hloop : loop ≠ []) (hdistinct : (tail ++ loop).Nodup)
    (hend : 0xFFFFFF ∉ tail ++ loop) :
    (∃ count, AddressHistory.visitAll {} (lasso tail loop count) = none) ↔ HasOneTurn loop := by
  rw [← turnsOnce_iff hloop (List.nodup_append.1 hdistinct).2.1,
    ← exists_recurs_iff hloop hdistinct]
  simp only [visitAll_lasso_eq_none_iff hloop hend]
  constructor
  · rintro ⟨count, index, -, hrecurs⟩
    exact ⟨index, hrecurs⟩
  · rintro ⟨index, hrecurs⟩
    exact ⟨index + 1, index, Nat.lt_succ_self index, hrecurs⟩

/-- In the tail and in the first round no alarm is raised. -/
theorem visitAll_lasso_ne_none (hdistinct : (tail ++ loop).Nodup) (hend : 0xFFFFFF ∉ tail ++ loop)
    {count : Nat} (hcount : count ≤ tail.length + loop.length) :
    AddressHistory.visitAll {} (lasso tail loop count) ≠ none := by
  have hfirst := lasso_mono tail loop hcount
  rw [lasso_first] at hfirst
  obtain ⟨after, hafter⟩ := AddressHistory.exists_visitAll (hdistinct.sublist hfirst.sublist)
    fun hmem => hend (hfirst.subset hmem)
  rw [hafter]
  exact Option.some_ne_none after

/-- A loop that turns once raises an alarm before the third round. -/
theorem le_of_visitAll_lasso_ne_none (hloop : loop ≠ []) (hdistinct : (tail ++ loop).Nodup)
    (hend : 0xFFFFFF ∉ tail ++ loop) (honce : HasOneTurn loop) {count : Nat}
    (hquiet : AddressHistory.visitAll {} (lasso tail loop count) ≠ none) :
    count ≤ tail.length + 2 * loop.length := by
  obtain ⟨down, hturns⟩ := (turnsOnce_iff hloop (List.nodup_append.1 hdistinct).2.1).2 honce
  obtain ⟨index, hindex, hrecurs⟩ := hturns.recurs tail
  by_contra hlate
  exact hquiet ((visitAll_lasso_eq_none_iff hloop hend count).2 ⟨index, by omega, hrecurs⟩)

end Vram

end GpuCore
