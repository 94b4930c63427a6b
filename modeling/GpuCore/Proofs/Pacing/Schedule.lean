import GpuCore.Pacing.Run
import GpuCore.Proofs.Pacing.Wait

/-!
# Keeping to the schedule

At normal speed the periods of a pacer follow one another without a gap: whether a period is
rendered or skipped, the next one starts where it ends, however early or late the program comes to
wait for it.  No period is rendered before it is over, and lateness is what the clock shows beyond
its end.  Only a period that ends more than eight periods late is given up, and the next one starts
with the clock.

Main definitions:

- `Ticks.idleUntil`: the clock of a program that idles until a deadline.
- `Step.isPaced`: steps that wait for a period, or let time pass.
- `Step.Fits` and `Step.InTime`: no sum of ticks overflows, and no period is given up.
- `Pacer.Along`: what holds of all steps along a run.

Main results:

- `Pacer.elapse_inTime` and `Pacer.elapse_givenUp`: a period that is measured.
- `Pacer.OnSchedule.step` and `Pacer.OnSchedule.run`: the start of the current period is the one
  that the schedule names.
- `Pacer.wait_on_schedule`: every wait of a run against the schedule.
-/

namespace GpuCore.Pacing

/-! ## Ticks -/

namespace Ticks

theorem toNat_max (left right : UInt64) :
    (max left right).toNat = max left.toNat right.toNat := by
  change (if left ≤ right then right else left).toNat = _
  split
  · next hright => exact (Nat.max_eq_right (UInt64.le_iff_toNat_le.1 hright)).symm
  · next hleft =>
      rw [UInt64.le_iff_toNat_le, Nat.not_le] at hleft
      exact (Nat.max_eq_left (Nat.le_of_lt hleft)).symm

theorem toNat_add_of_lt {left right : UInt64} (hfits : left.toNat + right.toNat < UInt64.size) :
    (left + right).toNat = left.toNat + right.toNat := by
  rw [UInt64.toNat_add]
  exact Nat.mod_eq_of_lt hfits

/-- What the later of two times shows beyond one of them. -/
theorem toNat_max_sub (clock deadline : UInt64) :
    (max clock deadline - deadline).toNat = clock.toNat - deadline.toNat := by
  have hle : deadline ≤ max clock deadline := by
    rw [UInt64.le_iff_toNat_le, toNat_max]
    exact Nat.le_max_right _ _
  rw [UInt64.toNat_sub_of_le _ _ hle, toNat_max]
  omega

/-- Idling moves a clock on by the ticks that are left, and by one tick at least. -/
def idle (clock left : UInt64) : UInt64 :=
  clock + max left 1

/-- Whoever idles in front of a deadline meets it. -/
theorem idle_eq {clock deadline : UInt64} (hearly : clock < deadline) :
    idle clock (deadline - clock) = deadline := by
  have hle : clock ≤ deadline := UInt64.le_of_lt hearly
  have hleft : (1 : UInt64).toNat ≤ (deadline - clock).toNat := by
    rw [UInt64.toNat_sub_of_le _ _ hle]
    exact Nat.sub_pos_of_lt (UInt64.lt_iff_toNat_lt.1 hearly)
  have hmax : max (deadline - clock) 1 = deadline - clock := by
    apply UInt64.toNat_inj.1
    rw [toNat_max, Nat.max_eq_left hleft]
  rw [idle, hmax, UInt64.add_comm, UInt64.sub_add_cancel]

/-- The clock of a program that idles until a deadline. -/
def idleUntil (deadline clock : UInt64) : UInt64 :=
  if clock < deadline then idleUntil deadline (idle clock (deadline - clock)) else clock
termination_by deadline.toNat - clock.toNat
decreasing_by
  rename_i hearly
  rw [idle_eq hearly, Nat.sub_self]
  exact Nat.sub_pos_of_lt (UInt64.lt_iff_toNat_lt.1 hearly)

/-- Idling ends at the deadline, or at once where that has passed. -/
theorem idleUntil_eq (deadline clock : UInt64) : idleUntil deadline clock = max clock deadline := by
  apply UInt64.toNat_inj.1
  rw [toNat_max, idleUntil]
  split
  · next hearly =>
      rw [idle_eq hearly, idleUntil, if_neg (UInt64.lt_irrefl deadline)]
      exact (Nat.max_eq_right (Nat.le_of_lt (UInt64.lt_iff_toNat_lt.1 hearly))).symm
  · next hpassed =>
      rw [UInt64.lt_iff_toNat_lt, Nat.not_lt] at hpassed
      exact (Nat.max_eq_left hpassed).symm

end Ticks

/-! ## Steps -/

namespace Step

/-- Steps that wait for the end of a period, and steps that let time pass. -/
def isPaced : Step → Bool
  | .wait blocking _ _ => blocking
  | .other (.adjust (.advance _)) => true
  | .other _ => false

/-- The end of a period. -/
def isWait : Step → Bool
  | .wait _ _ _ => true
  | .other _ => false

/-- The sums of ticks that a step forms.  The limit of lateness is formed for a period that is
measured. -/
def sums (pacer : Pacer) : Step → List Nat
  | .wait _ _ _ =>
    let period := pacer.timing.period.toNat
    (pacer.reference.toNat + period) :: if pacer.skipsLeft = 0 then [8 * period] else []
  | .other (.adjust (.advance ticks)) => [pacer.clock.toNat + ticks.toNat]
  | .other _ => []

/-- No sum of ticks that a step forms exceeds 64 bits. -/
def Fits (pacer : Pacer) (step : Step) : Prop :=
  ∀ sum ∈ step.sums pacer, sum < UInt64.size

/-- A period that is measured ends at most eight periods late. -/
def InTime (pacer : Pacer) (step : Step) : Prop :=
  let period := pacer.timing.period.toNat
  step.isWait = true → pacer.skipsLeft = 0 →
    pacer.clock.toNat ≤ pacer.reference.toNat + period + 8 * period

instance (pacer : Pacer) (step : Step) : Decidable (step.Fits pacer) :=
  inferInstanceAs (Decidable (∀ sum ∈ step.sums pacer, sum < UInt64.size))

instance (pacer : Pacer) (step : Step) : Decidable (step.InTime pacer) :=
  inferInstanceAs (Decidable (step.isWait = true → pacer.skipsLeft = 0 → _ ≤ _))

/-- The sums of a wait: the deadline, and the limit of lateness. -/
theorem Fits.wait {pacer : Pacer} {blocking odd : Bool} {pause : UInt64}
    (hfits : (wait blocking odd pause).Fits pacer) :
    pacer.reference.toNat + pacer.timing.period.toNat < UInt64.size ∧
      (pacer.skipsLeft = 0 → 8 * pacer.timing.period.toNat < UInt64.size) := by
  refine ⟨hfits _ List.mem_cons_self, fun hnone => hfits _ ?_⟩
  rw [sums, if_pos hnone]
  exact List.mem_cons_of_mem _ List.mem_cons_self

end Step

namespace Pacer

/-- What holds of every step along a run, and of the pacer that the step finds. -/
def Along (holds : Pacer → Step → Prop) (pacer : Pacer) : List Step → Prop
  | [] => True
  | step :: steps => holds pacer step ∧ (pacer.step step).Along holds steps

instance decidableAlong (holds : Pacer → Step → Prop) [∀ pacer step, Decidable (holds pacer step)]
    (pacer : Pacer) : (steps : List Step) → Decidable (pacer.Along holds steps)
  | [] => isTrue trivial
  | step :: steps =>
    have := decidableAlong holds (pacer.step step) steps
    inferInstanceAs (Decidable (_ ∧ _))

variable {pacer : Pacer}

/-! ## One period -/

/-- A period that is measured blocks until its deadline. -/
theorem clock_elapse (pacer : Pacer) (deadline : UInt64) :
    (pacer.elapse true deadline).clock = Ticks.idleUntil deadline pacer.clock := by
  rw [Ticks.idleUntil_eq]
  unfold elapse
  dsimp only
  rw [if_pos rfl]
  split
  · rfl
  · rfl

/-- A period is given up if the clock shows more than eight periods beyond its deadline. -/
theorem givenUp_iff {deadline : UInt64} (hfits : 8 * pacer.timing.period.toNat < UInt64.size) :
    max pacer.clock deadline - deadline > pacer.timing.period * resyncPeriods ↔
      deadline.toNat + 8 * pacer.timing.period.toNat < pacer.clock.toNat := by
  have hlimit : (pacer.timing.period * resyncPeriods).toNat = 8 * pacer.timing.period.toNat := by
    rw [UInt64.toNat_mul, Nat.mul_comm]
    exact Nat.mod_eq_of_lt hfits
  rw [gt_iff_lt, UInt64.lt_iff_toNat_lt, hlimit, Ticks.toNat_max_sub]
  omega

/-- A period that ends in time: the next one starts at its deadline. -/
theorem elapse_inTime {deadline : UInt64} (hfits : 8 * pacer.timing.period.toNat < UInt64.size)
    (hintime : pacer.clock.toNat ≤ deadline.toNat + 8 * pacer.timing.period.toNat) :
    pacer.elapse true deadline =
      { pacer with
        clock := max pacer.clock deadline
        reference := deadline
        late := max pacer.clock deadline - deadline } :=
  if_neg fun hgiven => Nat.not_lt.2 hintime ((givenUp_iff hfits).1 hgiven)

/-- A period that is given up: the next one starts with the clock. -/
theorem elapse_givenUp {deadline : UInt64} (hfits : 8 * pacer.timing.period.toNat < UInt64.size)
    (hgone : deadline.toNat + 8 * pacer.timing.period.toNat < pacer.clock.toNat) :
    pacer.elapse true deadline = { pacer with reference := pacer.clock, late := 0 } := by
  have hstands : max pacer.clock deadline = pacer.clock := by
    apply UInt64.toNat_inj.1
    rw [Ticks.toNat_max]
    exact Nat.max_eq_left (Nat.le_trans (Nat.le_add_right _ _) (Nat.le_of_lt hgone))
  unfold elapse
  dsimp only
  rw [if_pos rfl, if_pos ((givenUp_iff hfits).2 hgone), hstands]

theorem waitTimed_of_skips {left : Nat} (hskips : pacer.skipsLeft = left + 1) (odd : Bool)
    (duration : UInt64) :
    pacer.waitTimed true odd duration =
      (.skip, { pacer with skipsLeft := left, reference := pacer.reference + duration }) := by
  rw [waitTimed, hskips]

theorem waitTimed_of_none (hnone : pacer.skipsLeft = 0) (odd : Bool) (duration : UInt64) :
    ∃ left, pacer.waitTimed true odd duration =
      (.display,
        { pacer.elapse true (pacer.reference + duration) with skipsLeft := left }) := by
  rw [waitTimed, hnone]
  exact ⟨_, rfl⟩

/-! ## The schedule -/

/-- A pacer at normal speed, behind so many periods from the start of a schedule. -/
structure OnSchedule (start ticks count : Nat) (pacer : Pacer) : Prop where
  recapture : pacer.recapture = false
  speed : pacer.speed = .normal
  period : pacer.timing.period.toNat = ticks
  reference : pacer.reference.toNat = start + count * ticks

namespace OnSchedule

variable {start ticks count : Nat}

/-- A wait at normal speed is timed with one period. -/
theorem wait_eq (h : OnSchedule start ticks count pacer) (odd : Bool) (pause : UInt64) :
    pacer.wait true odd pause = pacer.waitTimed true odd pacer.timing.period := by
  unfold Pacer.wait
  rw [if_neg (ne_true_of_eq_false h.recapture), h.speed]

/-- The current period ends where the schedule says. -/
theorem toNat_deadline (h : OnSchedule start ticks count pacer)
    (hfits : pacer.reference.toNat + pacer.timing.period.toNat < UInt64.size) :
    (pacer.reference + pacer.timing.period).toNat = start + (count + 1) * ticks := by
  rw [Ticks.toNat_add_of_lt hfits, h.reference, h.period, Nat.add_mul, Nat.one_mul, Nat.add_assoc]

/-- A wait that is not given up leads on to the next period of the schedule. -/
theorem wait (h : OnSchedule start ticks count pacer) (odd : Bool) (pause : UInt64)
    (hfits : (Step.wait true odd pause).Fits pacer)
    (hintime : (Step.wait true odd pause).InTime pacer) :
    OnSchedule start ticks (count + 1) (pacer.wait true odd pause).2 := by
  have hdue := h.toNat_deadline hfits.wait.1
  rw [h.wait_eq]
  cases hskips : pacer.skipsLeft with
  | succ left =>
      rw [waitTimed_of_skips hskips]
      exact ⟨h.recapture, h.speed, h.period, hdue⟩
  | zero =>
      have hmeasured := hintime rfl hskips
      rw [← Ticks.toNat_add_of_lt hfits.wait.1] at hmeasured
      obtain ⟨left, hwaited⟩ := waitTimed_of_none hskips odd pacer.timing.period
      rw [hwaited, elapse_inTime (hfits.wait.2 hskips) hmeasured]
      exact ⟨h.recapture, h.speed, h.period, hdue⟩

/-- A wait that skips moves on by a period and leaves the clock alone. -/
theorem of_skip (h : OnSchedule start ticks count pacer) (odd : Bool) (pause : UInt64)
    (hfits : (Step.wait true odd pause).Fits pacer)
    (hskip : (pacer.wait true odd pause).1 = .skip) :
    (pacer.wait true odd pause).2.clock = pacer.clock ∧
      (pacer.wait true odd pause).2.reference.toNat = start + (count + 1) * ticks := by
  rw [h.wait_eq] at hskip ⊢
  cases hskips : pacer.skipsLeft with
  | succ left =>
      rw [waitTimed_of_skips hskips]
      exact ⟨rfl, h.toNat_deadline hfits.wait.1⟩
  | zero =>
      obtain ⟨left, hwaited⟩ := waitTimed_of_none hskips odd pacer.timing.period
      rw [hwaited] at hskip
      cases hskip

/-- A wait that renders does so when the period is over, or is given up. -/
theorem of_display (h : OnSchedule start ticks count pacer) (odd : Bool) (pause : UInt64)
    (hfits : (Step.wait true odd pause).Fits pacer)
    (hdisplay : (pacer.wait true odd pause).1 = .display) :
    let after := (pacer.wait true odd pause).2
    let due := start + (count + 1) * ticks
    (pacer.clock.toNat ≤ due + 8 * ticks →
      after.reference.toNat = due ∧ after.clock.toNat = max pacer.clock.toNat due ∧
        after.clock = Ticks.idleUntil (pacer.reference + pacer.timing.period) pacer.clock ∧
        after.late.toNat + due = after.clock.toNat) ∧
    (due + 8 * ticks < pacer.clock.toNat →
      after.reference = pacer.clock ∧ after.clock = pacer.clock ∧ after.late = 0) := by
  have hdue := h.toNat_deadline hfits.wait.1
  have hlength := h.period
  rw [h.wait_eq] at hdisplay ⊢
  cases hskips : pacer.skipsLeft with
  | succ left =>
      rw [waitTimed_of_skips hskips] at hdisplay
      cases hdisplay
  | zero =>
      obtain ⟨left, hwaited⟩ := waitTimed_of_none hskips odd pacer.timing.period
      rw [hwaited, ← hdue, ← hlength]
      refine ⟨fun hintime => ?rendered, fun hgone => ?givenUp⟩
      case rendered =>
          have hidled := pacer.clock_elapse (pacer.reference + pacer.timing.period)
          rw [elapse_inTime (hfits.wait.2 hskips) hintime] at hidled ⊢
          refine ⟨rfl, Ticks.toNat_max _ _, hidled, ?_⟩
          dsimp only
          rw [Ticks.toNat_max_sub, Ticks.toNat_max]
          omega
      case givenUp =>
          rw [elapse_givenUp (hfits.wait.2 hskips) hgone]
          exact ⟨rfl, rfl, rfl⟩

/-- Every paced step keeps to the schedule. -/
theorem step {step : Step} (h : OnSchedule start ticks count pacer) (hpaced : step.isPaced = true)
    (hfits : step.Fits pacer) (hintime : step.InTime pacer) :
    OnSchedule start ticks (count + step.isWait.toNat) (pacer.step step) := by
  cases step with
  | wait blocking odd pause =>
      cases (show blocking = true from hpaced)
      exact h.wait odd pause hfits hintime
  | other change =>
      cases change with
      | adjust adjustment =>
          cases adjustment with
          | advance ticks => exact ⟨h.recapture, h.speed, h.period, h.reference⟩
          | _ => cases hpaced
      | setMode custom region interlaced => cases hpaced
      | configure settings => cases hpaced

/-- So does every run of them. -/
theorem run {steps : List Step} (h : OnSchedule start ticks count pacer)
    (hpaced : ∀ step ∈ steps, step.isPaced = true) (hfits : pacer.Along Step.Fits steps)
    (hintime : pacer.Along Step.InTime steps) :
    OnSchedule start ticks (count + steps.countP Step.isWait) (pacer.run steps) := by
  induction steps generalizing pacer count with
  | nil => exact h
  | cons step steps ih =>
      rw [List.forall_mem_cons] at hpaced
      have hnext := ih (h.step hpaced.1 hfits.1 hintime.1) hpaced.2 hfits.2 hintime.2
      have hcount : count + step.isWait.toNat + steps.countP Step.isWait =
          count + (step :: steps).countP Step.isWait := by
        rw [List.countP_cons]
        cases step.isWait with
        | false => rfl
        | true => exact Nat.add_right_comm count 1 _
      rwa [hcount] at hnext

end OnSchedule

/-- A wait that takes the time begins a schedule. -/
theorem onSchedule_of_recapture (hrecapture : pacer.recapture = true)
    (hspeed : pacer.speed = .normal) (blocking odd : Bool) (pause : UInt64) :
    let captured := (pacer.wait blocking odd pause).2
    captured.clock = pacer.clock ∧
      OnSchedule pacer.clock.toNat pacer.timing.period.toNat 0 captured := by
  have hcaptured : pacer.wait blocking odd pause =
      (.display, { pacer.capture with recapture := false }) := if_pos hrecapture
  rw [hcaptured]
  refine ⟨rfl, rfl, hspeed, rfl, ?_⟩
  rw [Nat.zero_mul]
  rfl

/-- From the wait on that takes the time, at normal speed, the periods of a pacer follow one another
on a fixed schedule, whatever time passes between the waits and whichever periods are skipped, as
long as no sum of ticks overflows and none is given up.  A wait that skips does not touch the clock.
A wait that renders leaves it where the period ends, or where it was if that is later, and the
lateness is the difference.  If the clock shows more than eight periods beyond the end, then the
next period starts with the clock and nothing is late. -/
theorem wait_on_schedule (pacer : Pacer) (blocking odd : Bool) (pause : UInt64) {steps : List Step}
    (hrecapture : pacer.recapture = true) (hspeed : pacer.speed = .normal)
    (hpaced : ∀ step ∈ steps, step.isPaced = true)
    (hfits : (pacer.wait blocking odd pause).2.Along Step.Fits steps)
    (hintime : (pacer.wait blocking odd pause).2.Along Step.InTime steps) :
    let captured := (pacer.wait blocking odd pause).2
    let before := captured.run steps
    let period := pacer.timing.period.toNat
    let start := pacer.clock.toNat
    let count := steps.countP Step.isWait
    captured.clock = pacer.clock ∧ before.reference.toNat = start + count * period ∧
      ∀ odd pause, (Step.wait true odd pause).Fits before →
        let answer := before.wait true odd pause
        let after := answer.2
        let due := start + (count + 1) * period
        (answer.1 = .skip → after.clock = before.clock ∧ after.reference.toNat = due) ∧
        (answer.1 = .display →
          (before.clock.toNat ≤ due + 8 * period →
            after.reference.toNat = due ∧ after.clock.toNat = max before.clock.toNat due ∧
              after.clock = Ticks.idleUntil (before.reference + before.timing.period) before.clock ∧
              after.late.toNat + due = after.clock.toNat) ∧
          (due + 8 * period < before.clock.toNat →
            after.reference = before.clock ∧ after.clock = before.clock ∧ after.late = 0)) := by
  intro captured before period start count
  obtain ⟨hclock, hstart⟩ := onSchedule_of_recapture hrecapture hspeed blocking odd pause
  have hbefore : OnSchedule start period count before := by
    have hrun := hstart.run hpaced hfits hintime
    rwa [Nat.zero_add] at hrun
  refine ⟨hclock, hbefore.reference, fun odd pause hfits => ?_⟩
  exact ⟨hbefore.of_skip odd pause hfits, hbefore.of_display odd pause hfits⟩

/-- A period of 20 ticks that ends 30 ticks late, one that is skipped, and one that ends early. -/
theorem wait_on_schedule_jitter :
    let pacer := ((create { skipMode := .alternate } 1000).setMode 0 .pal false).advance 100
    let captured := (pacer.wait true false 0).2
    let steps : List Step :=
      [.other (.adjust (.advance 50)), .wait true false 0, .wait true true 0,
        .other (.adjust (.advance 5)), .wait true false 0]
    let before := captured.run steps
    pacer.recapture = true ∧ pacer.speed = .normal ∧ (∀ step ∈ steps, step.isPaced = true) ∧
      captured.Along Step.Fits steps ∧ captured.Along Step.InTime steps ∧
      (captured.waits steps).map Wait.action = [.display, .skip, .display] ∧
      before.reference.toNat = 100 + 3 * 20 ∧ (Step.wait true true 0).Fits before ∧
      (before.wait true true 0).2.late.toNat + 180 = (before.wait true true 0).2.clock.toNat := by
  intro pacer captured steps before
  have hfits : captured.Along Step.Fits steps := by decide +kernel
  have hintime : captured.Along Step.InTime steps := by decide +kernel
  have hnext : (Step.wait true true 0).Fits before := by decide +kernel
  obtain ⟨-, hreference, hwait⟩ :=
    wait_on_schedule pacer true false 0 rfl rfl (by decide) hfits hintime
  have hperiod : pacer.timing.period.toNat = 20 := by decide +kernel
  have hdisplay : (before.wait true true 0).1 = .display := by decide +kernel
  have hlate := ((hwait true 0 hnext).2 hdisplay).1 (by decide +kernel)
  rw [hperiod] at hreference hlate
  refine ⟨rfl, rfl, by decide, hfits, hintime, by decide +kernel, hreference, hnext, ?_⟩
  exact hlate.2.2.2

end Pacer

end GpuCore.Pacing
