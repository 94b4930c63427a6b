import GpuCore.Pacing.Run
import GpuCore.Proofs.Pacing.Wait

/-!
# Skipping over whole runs

Two counts skip periods: the skips that a late period has decided, and the periods of fast-forward
since the last rendered one.  A change of the speed freezes one of them and continues with the
other.  Nothing adds to either before a period has been rendered, so that together they pay for
every skip in advance.

Main definitions:

- `Pacer.Bounded`: the bounds of both counts, which every step keeps.
- `Pays`: room for further waits of some kind.
- `Pacer.fastActions`: the answers during fast-forward.

Main results:

- `Pays.length_le_room`: consecutive waits of a kind are no more than there is room for.
- `Pacer.actions_of_fast`: fast-forward answers from its count.
- `Pacer.even_of_steady`: between two rendered fields an even number of them is skipped.
- `Pacer.skipping_bounded`: all bounds together, for the runs of a new pacer.
-/

namespace GpuCore.Pacing

namespace Pacer

/-! ## Bounds of the counts -/

/-- Both counts are within their bounds, and no skip is due where the time is taken next. -/
structure Bounded (pacer : Pacer) : Prop where
  fastCount_lt : pacer.fastCount < fastRatio
  skipsLeft_le :
    pacer.skipsLeft ≤ if pacer.timing.interlaced then maxInterlacedSkips else maxProgressiveSkips
  skipsLeft_eq_zero : pacer.recapture = true → pacer.skipsLeft = 0

theorem bounded_create (settings : PacingSettings) (ticksPerSecond : UInt64) :
    (create settings ticksPerSecond).Bounded :=
  ⟨Nat.zero_lt_succ 3, Nat.zero_le _, fun _ => rfl⟩

/-- Every kind of wait keeps the bounds. -/
theorem Bounded.of_waited {before after : Pacer} {action : Action} (hbounded : before.Bounded)
    (hwaited : Waited before action after) (htaken : after.recapture = false)
    (htiming : after.timing = before.timing) : after.Bounded := by
  obtain ⟨hcount, hleft, _⟩ := hbounded
  refine ⟨?count, ?left, fun hrecapture => absurd hrecapture (ne_true_of_eq_false htaken)⟩
  case count =>
      cases hwaited with
      | captured _ _ hfast => rwa [hfast]
      | resumed _ _ _ hfast => rwa [hfast]
      | fastShown _ _ _ _ hfast => rw [hfast]; decide
      | fastSkipped _ _ _ _ hfast => rw [hfast]; exact Nat.mod_lt _ (by decide)
      | caughtUp _ _ _ hfast => rwa [hfast]
      | measured _ _ _ _ _ _ hfast => rwa [hfast]
  case left =>
      rw [htiming]
      cases hwaited with
      | captured _ hskips _ => rwa [hskips]
      | resumed _ _ hskips _ => rw [hskips]; exact Nat.zero_le _
      | fastShown _ _ hskips _ _ => rwa [hskips]
      | fastSkipped _ _ hskips _ _ => rwa [hskips]
      | caughtUp _ _ hskips _ => omega
      | measured _ _ _ _ _ hskips _ => rw [hskips]; exact skips_le _ _ _ _ _ _

/-- A change forgets both counts and has the time taken anew, or adds to neither. -/
theorem counts_change (pacer : Pacer) (change : Change) :
    (pacer.change change).recapture = true ∧ (pacer.change change).skipsLeft = 0 ∧
        (pacer.change change).fastCount = 0 ∨
      (pacer.change change).recapture = pacer.recapture ∧
        (pacer.change change).skipsLeft ≤ pacer.skipsLeft ∧
        (pacer.change change).fastCount = pacer.fastCount ∧
        (pacer.change change).timing = pacer.timing := by
  cases change with
  | adjust adjustment =>
      cases adjustment with
      | recapture => exact .inl ⟨rfl, rfl, rfl⟩
      | advance ticks => exact .inr ⟨rfl, Nat.le_refl _, rfl, rfl⟩
      | fast enabled => exact .inr ⟨rfl, Nat.le_refl _, rfl, rfl⟩
      | slow => exact .inr ⟨rfl, Nat.le_refl _, rfl, rfl⟩
      | pause enabled => exact .inr ⟨rfl, Nat.le_refl _, rfl, rfl⟩
  | setMode custom region interlaced => exact .inl ⟨rfl, rfl, rfl⟩
  | configure settings => exact .inr ⟨rfl, Nat.zero_le _, rfl, rfl⟩

/-- Every step keeps the bounds. -/
theorem Bounded.step {pacer : Pacer} (hbounded : pacer.Bounded) (step : Step) :
    (pacer.step step).Bounded := by
  cases step with
  | wait blocking odd pause =>
      exact hbounded.of_waited (pacer.waited blocking odd pause)
        (pacer.recapture_wait blocking odd pause) (pacer.timing_wait blocking odd pause)
  | other change =>
      obtain ⟨hcount, hleft, hzero⟩ := hbounded
      rcases pacer.counts_change change with
        ⟨_, hskips, hfast⟩ | ⟨hrecapture, hskips, hfast, htiming⟩
      · exact ⟨hfast ▸ Nat.zero_lt_succ 3, hskips ▸ Nat.zero_le _, fun _ => hskips⟩
      · refine ⟨hfast ▸ hcount, htiming ▸ Nat.le_trans hskips hleft, fun htaken => ?_⟩
        exact Nat.le_zero.1 (hzero (hrecapture ▸ htaken) ▸ hskips)

/-- So does every run. -/
theorem Bounded.run {pacer : Pacer} (hbounded : pacer.Bounded) (steps : List Step) :
    (pacer.run steps).Bounded := by
  induction steps generalizing pacer with
  | nil => exact hbounded
  | cons step steps ih => exact ih (hbounded.step step)

/-! ## Windows of waits -/

/-- Consecutive waits are the first waits after some moment. -/
theorem exists_run_of_infix {pacer : Pacer} {steps : List Step} {wait : Wait} {window : List Wait}
    (hwindow : wait :: window <:+: pacer.waits steps) :
    ∃ before after, wait.found = pacer.run before ∧
      wait :: window <+: wait.found.waits after := by
  induction steps generalizing pacer with
  | nil => exact absurd (List.eq_nil_of_infix_nil hwindow) (List.cons_ne_nil _ _)
  | cons step steps ih =>
      cases step with
      | wait blocking odd pause =>
          rw [waits_wait, List.infix_cons_iff] at hwindow
          rcases hwindow with hprefix | hinfix
          · have hfound : wait.found = pacer := by
              rw [(List.cons_prefix_cons.1 hprefix).1]
            exact ⟨[], .wait blocking odd pause :: steps, hfound, by rwa [hfound, waits_wait]⟩
          · obtain ⟨before, after, hfound, hprefix⟩ := ih hinfix
            exact ⟨.wait blocking odd pause :: before, after, hfound, hprefix⟩
      | other change =>
          obtain ⟨before, after, hfound, hprefix⟩ := ih hwindow
          exact ⟨.other change :: before, after, hfound, hprefix⟩

end Pacer

/-- There is `room` for some further waits of a kind: every one takes from it, and no change adds to
it. -/
structure Pays (kind : Wait → Prop) (room : Pacer → Nat) : Prop where
  wait : ∀ {before after : Pacer} {action : Action}, before.Bounded →
    before.Waited action after → after.recapture = false → kind ⟨before, action⟩ →
      room after < room before
  change : ∀ (pacer : Pacer) (change : Change), room (pacer.change change) ≤ room pacer

namespace Pays

variable {kind : Wait → Prop} {room : Pacer → Nat}

/-- The first waits are of a kind as long as there is room at most. -/
theorem length_le (hpays : Pays kind room) {pacer : Pacer} (hbounded : pacer.Bounded)
    {steps : List Step} {window : List Wait} (hwindow : window <+: pacer.waits steps)
    (hkind : ∀ wait ∈ window, kind wait) : window.length ≤ room pacer := by
  induction steps generalizing pacer window with
  | nil =>
      rw [List.prefix_nil.1 hwindow]
      exact Nat.zero_le _
  | cons step steps ih =>
      have hafter := hbounded.step step
      cases step with
      | wait blocking odd pause =>
          cases window with
          | nil => exact Nat.zero_le _
          | cons wait window =>
              rw [Pacer.waits_wait] at hwindow
              obtain ⟨rfl, hrest⟩ := List.cons_prefix_cons.1 hwindow
              have hlength := ih hafter hrest fun wait hmem => hkind wait (.tail _ hmem)
              have hroom := hpays.wait hbounded (pacer.waited blocking odd pause)
                (pacer.recapture_wait blocking odd pause) (hkind _ (.head _))
              exact Nat.lt_of_le_of_lt hlength hroom
      | other change => exact Nat.le_trans (ih hafter hwindow hkind) (hpays.change pacer change)

/-- Consecutive waits of a kind are no more than the first of them found room for. -/
theorem length_le_room (hpays : Pays kind room) {pacer : Pacer} (hbounded : pacer.Bounded)
    {steps : List Step} {wait : Wait} {window : List Wait}
    (hwindow : wait :: window <:+: pacer.waits steps)
    (hkind : ∀ other ∈ wait :: window, kind other) :
    (wait :: window).length ≤ room wait.found ∧ wait.found.Bounded := by
  obtain ⟨before, after, hfound, hprefix⟩ := Pacer.exists_run_of_infix hwindow
  have hbefore : wait.found.Bounded := hfound ▸ hbounded.run before
  exact ⟨hpays.length_le hbefore hprefix hkind, hbefore⟩

end Pays

namespace Pacer

/-! ## Room for skips -/

/-- Periods that may still be skipped before one is rendered: the skips that were decided, and what
is missing from a round of fast-forward. -/
def skipRoom (pacer : Pacer) : Nat :=
  if pacer.recapture then 0 else pacer.skipsLeft + (fastRatio - 1 - pacer.fastCount)

/-- Periods that may still be skipped without fast-forward. -/
def timedRoom (pacer : Pacer) : Nat :=
  if pacer.recapture then 0 else pacer.skipsLeft

/-- Both counts pay for the skips. -/
theorem pays_skipRoom : Pays (fun wait => wait.action = .skip) skipRoom where
  wait {before after action} hbounded hwaited htaken hskip := by
    have hlt : before.fastCount < 4 := hbounded.fastCount_lt
    dsimp only at hskip
    subst hskip
    unfold skipRoom fastRatio
    rw [htaken]
    cases hwaited with
    | fastSkipped hrecapture _ hskips hcount hfast =>
        unfold fastRatio at hcount hfast
        rw [hrecapture, hskips, hfast, if_neg Bool.false_ne_true, if_neg Bool.false_ne_true]
        omega
    | caughtUp hrecapture _ hskips hfast =>
        rw [hrecapture, hskips, hfast, if_neg Bool.false_ne_true, if_neg Bool.false_ne_true]
        omega
  change pacer change := by
    unfold skipRoom
    rcases pacer.counts_change change with ⟨hrecapture, _, _⟩ | ⟨hrecapture, hskips, hfast, _⟩
    · rw [hrecapture, if_pos rfl]
      exact Nat.zero_le _
    · rw [hrecapture, hfast]
      split
      · exact Nat.le_refl _
      · exact Nat.add_le_add_right hskips _

/-- Without fast-forward the skips that were decided pay alone. -/
theorem pays_timedRoom :
    Pays (fun wait => wait.action = .skip ∧ wait.found.speed ≠ .fast) timedRoom where
  wait {before after action} _ hwaited htaken hkind := by
    obtain ⟨hskip, hspeed⟩ := hkind
    dsimp only at hskip hspeed
    subst hskip
    unfold timedRoom
    rw [htaken]
    cases hwaited with
    | fastSkipped _ hfast _ _ _ => exact absurd hfast hspeed
    | caughtUp hrecapture _ hskips _ =>
        rw [hrecapture, hskips]
        exact Nat.lt_succ_self _
  change pacer change := by
    unfold timedRoom
    rcases pacer.counts_change change with ⟨hrecapture, _, _⟩ | ⟨hrecapture, hskips, _, _⟩
    · rw [hrecapture, if_pos rfl]
      exact Nat.zero_le _
    · rw [hrecapture]
      split
      · exact Nat.le_refl _
      · exact hskips

theorem Bounded.timedRoom_le {pacer : Pacer} (hbounded : pacer.Bounded) :
    pacer.timedRoom ≤ if pacer.timing.interlaced then 4 else 3 := by
  unfold timedRoom
  split
  · exact Nat.zero_le _
  · exact hbounded.skipsLeft_le

theorem Bounded.skipRoom_le {pacer : Pacer} (hbounded : pacer.Bounded) : pacer.skipRoom ≤ 7 := by
  have hleft := hbounded.timedRoom_le
  unfold timedRoom at hleft
  unfold skipRoom fastRatio
  split at hleft
  · next hrecapture =>
      rw [if_pos hrecapture]
      exact Nat.zero_le _
  · next htaken =>
      rw [if_neg htaken]
      split at hleft <;> omega

/-! ## Fast-forward -/

/-- The answers of consecutive periods of fast-forward, from a count on. -/
def fastActions (count : Nat) : Nat → List Action
  | 0 => []
  | length + 1 =>
    (if (count + 1) % fastRatio = 0 then .display else .skip) ::
      fastActions ((count + 1) % fastRatio) length

/-- A full round of fast-forward renders once, from any count on. -/
theorem count_display_fastActions {count : Nat} (hcount : count < fastRatio) :
    (fastActions count fastRatio).count .display = 1 := by
  match count, hcount with
  | 0, _ | 1, _ | 2, _ | 3, _ => decide

/-- Where the time is to be taken, the next wait does nothing else. -/
theorem eq_nil_of_recapture {pacer : Pacer} (hrecapture : pacer.recapture = true)
    {steps : List Step} {window : List Wait} (hwindow : window <+: pacer.waits steps)
    (htaken : ∀ wait ∈ window, wait.found.recapture = false) : window = [] := by
  induction steps generalizing pacer with
  | nil => exact List.prefix_nil.1 hwindow
  | cons step steps ih =>
      cases step with
      | wait blocking odd pause =>
          cases window with
          | nil => rfl
          | cons wait window =>
              rw [waits_wait] at hwindow
              obtain ⟨rfl, _⟩ := List.cons_prefix_cons.1 hwindow
              exact absurd hrecapture (ne_true_of_eq_false (htaken _ (.head _)))
      | other change =>
          refine ih ?_ hwindow
          rcases pacer.counts_change change with ⟨hagain, _, _⟩ | ⟨hkept, _, _, _⟩
          · exact hagain
          · rw [hkept, hrecapture]

/-- Fast-forward answers from its count alone. -/
theorem actions_of_fast {pacer : Pacer} {steps : List Step} {window : List Wait}
    (hwindow : window <+: pacer.waits steps)
    (hfast : ∀ wait ∈ window, wait.found.speed = .fast ∧ wait.found.recapture = false) :
    window.map Wait.action = fastActions pacer.fastCount window.length := by
  induction steps generalizing pacer window with
  | nil =>
      rw [List.prefix_nil.1 hwindow]
      rfl
  | cons step steps ih =>
      cases step with
      | wait blocking odd pause =>
          cases window with
          | nil => rfl
          | cons wait window =>
              rw [waits_wait] at hwindow
              obtain ⟨rfl, hrest⟩ := List.cons_prefix_cons.1 hwindow
              obtain ⟨hspeed, htaken⟩ := hfast _ (.head _)
              dsimp only at hspeed htaken
              have hwait : pacer.wait blocking odd pause = pacer.waitFast := by
                unfold Pacer.wait
                rw [if_neg (ne_true_of_eq_false htaken), hspeed]
              have hlater := ih hrest fun wait hmem => hfast wait (.tail _ hmem)
              rw [List.map_cons, hlater, hwait]
              rfl
      | other change =>
          rw [waits_other] at hwindow
          rcases pacer.counts_change change with ⟨hrecapture, _, _⟩ | ⟨_, _, hcount, _⟩
          · rw [eq_nil_of_recapture hrecapture hwindow fun wait hmem => (hfast wait hmem).2]
            rfl
          · rw [ih hwindow hfast, hcount]

/-! ## Pairs of fields -/

/-- At normal speed a wait takes the time, skips a period or measures one. -/
theorem Waited.of_normal {before after : Pacer} {action : Action}
    (hwaited : Waited before action after) (hspeed : before.speed = .normal) :
    before.recapture = true ∧ action = .display ∧ after.skipsLeft = before.skipsLeft ∨
      action = .skip ∧ before.skipsLeft = after.skipsLeft + 1 ∨
      action = .display ∧ before.skipsLeft = 0 ∧
        ∃ late odd, after.skipsLeft = skips before.skipMode late before.timing.period
          before.timing.timeout before.timing.interlaced odd := by
  cases hwaited with
  | captured hrecapture hskips _ => exact .inl ⟨hrecapture, rfl, hskips⟩
  | resumed _ hpaused _ _ => rw [hspeed] at hpaused; cases hpaused
  | fastShown _ hfast _ _ _ => rw [hspeed] at hfast; cases hfast
  | fastSkipped _ hfast _ _ _ => rw [hspeed] at hfast; cases hfast
  | caughtUp _ _ hskips _ => exact .inr (.inl ⟨rfl, hskips⟩)
  | measured late odd _ _ hnone hskips _ => exact .inr (.inr ⟨rfl, hnone, late, odd, hskips⟩)

/-- A steady change keeps what decides about skips. -/
theorem change_of_steady (pacer : Pacer) {change : Change} (hsteady : change.isSteady = true) :
    (pacer.change change).recapture = pacer.recapture ∧
      (pacer.change change).skipsLeft = pacer.skipsLeft ∧
      (pacer.change change).timing = pacer.timing := by
  cases change with
  | adjust adjustment =>
      cases adjustment with
      | recapture => cases hsteady
      | _ => exact ⟨rfl, rfl, rfl⟩
  | setMode custom region interlaced => cases hsteady
  | configure settings => cases hsteady

/-- At normal speed a period is rendered as soon as the skips that were decided are used up. -/
theorem skipsLeft_of_steady {pacer : Pacer} (htaken : pacer.recapture = false)
    {steps : List Step} (hsteady : ∀ step ∈ steps, step.isSteady = true)
    (hnormal : ∀ wait ∈ pacer.waits steps, wait.found.speed = .normal) {count : Nat}
    (hactions : (pacer.waits steps).map Wait.action = List.replicate count .skip ++ [.display]) :
    count = pacer.skipsLeft := by
  induction steps generalizing pacer count with
  | nil => simp at hactions
  | cons step steps ih =>
      have hrest := fun other hmem => hsteady other (.tail step hmem)
      cases step with
      | wait blocking odd pause =>
          have hafter := pacer.recapture_wait blocking odd pause
          have hwaited := (pacer.waited blocking odd pause).of_normal (hnormal _ (.head _))
          rw [waits_wait, List.map_cons] at hactions
          rw [htaken] at hwaited
          cases count with
          | zero =>
              obtain ⟨hdisplay, _⟩ := List.cons_eq_cons.1 hactions
              dsimp only at hdisplay
              rw [hdisplay] at hwaited
              rcases hwaited with ⟨⟨⟩, _⟩ | ⟨⟨⟩, _⟩ | ⟨_, hnone, _⟩
              exact hnone.symm
          | succ count =>
              obtain ⟨hskip, hlater⟩ := List.cons_eq_cons.1 hactions
              dsimp only at hskip
              rw [hskip] at hwaited
              rcases hwaited with ⟨⟨⟩, _⟩ | ⟨_, hskips⟩ | ⟨⟨⟩, _⟩
              have hcount := ih hafter hrest (fun wait hmem => hnormal wait (.tail _ hmem)) hlater
              rw [hskips, hcount]
      | other change =>
          obtain ⟨hrecapture, hskips, _⟩ := pacer.change_of_steady (hsteady _ (.head _))
          rw [← hskips]
          exact ih (hrecapture.trans htaken) hrest hnormal hactions

/-- Between two rendered fields of interlaced output an even number of fields is skipped. -/
theorem even_of_steady {pacer : Pacer} (hbounded : pacer.Bounded)
    (hinterlaced : pacer.timing.interlaced = true) {steps : List Step}
    (hsteady : ∀ step ∈ steps, step.isSteady = true)
    (hnormal : ∀ wait ∈ pacer.waits steps, wait.found.speed = .normal) {count : Nat}
    (hactions : (pacer.waits steps).map Wait.action =
      .display :: (List.replicate count .skip ++ [.display])) : count % 2 = 0 := by
  induction steps generalizing pacer with
  | nil => cases hactions
  | cons step steps ih =>
      have hrest := fun other hmem => hsteady other (.tail step hmem)
      cases step with
      | wait blocking odd pause =>
          have hwaited := (pacer.waited blocking odd pause).of_normal (hnormal _ (.head _))
          rw [waits_wait, List.map_cons] at hactions
          obtain ⟨hdisplay, hlater⟩ := List.cons_eq_cons.1 hactions
          dsimp only at hdisplay
          rw [hdisplay, hinterlaced] at hwaited
          rw [skipsLeft_of_steady (pacer.recapture_wait blocking odd pause) hrest
            (fun wait hmem => hnormal wait (.tail _ hmem)) hlater]
          rcases hwaited with ⟨hrecapture, _, hskips⟩ | ⟨⟨⟩, _⟩ | ⟨_, _, late, odd, hskips⟩
          · rw [hskips, hbounded.skipsLeft_eq_zero hrecapture]
          · rw [hskips, skips_even]
      | other change =>
          obtain ⟨_, _, htiming⟩ := pacer.change_of_steady (hsteady _ (.head _))
          exact ih (hbounded.step (.other change))
            ((congrArg Timing.interlaced htiming).trans hinterlaced) hrest hnormal hactions

/-! ## All bounds -/

/-- Skipping is bounded along all runs of a new pacer.  No more than seven consecutive periods are
skipped; without fast-forward no more than four, and three in progressive output.  Of every four
periods of fast-forward behind the one that took the time one is rendered.  At normal speed
interlaced output skips an even number of fields between two rendered ones, unless it is reset or
reconfigured between them. -/
theorem skipping_bounded (settings : PacingSettings) (ticksPerSecond : UInt64) :
    (∀ steps window, window <:+: (create settings ticksPerSecond).waits steps →
      ((∀ wait ∈ window, wait.action = .skip) →
        window.length ≤ 7 ∧
        ((∀ wait ∈ window, wait.found.speed ≠ .fast) →
          window.length ≤ 4 ∧
          ((∀ wait ∈ window, wait.found.timing.interlaced = false) → window.length ≤ 3))) ∧
      (window.length = 4 →
        (∀ wait ∈ window, wait.found.speed = .fast ∧ wait.found.recapture = false) →
          (window.map Wait.action).count .display = 1)) ∧
    (∀ before steps count,
      let pacer := (create settings ticksPerSecond).run before
      pacer.timing.interlaced = true → (∀ step ∈ steps, step.isSteady = true) →
      (∀ wait ∈ pacer.waits steps, wait.found.speed = .normal) →
      (pacer.waits steps).map Wait.action =
          .display :: (List.replicate count .skip ++ [.display]) →
        count % 2 = 0) := by
  have hbounded := bounded_create settings ticksPerSecond
  refine ⟨fun steps window hwindow => ?windows, ?fields⟩
  case windows =>
      cases window with
      | nil => exact ⟨fun _ => ⟨by decide, fun _ => ⟨by decide, fun _ => by decide⟩⟩, by rintro ⟨⟩⟩
      | cons wait window =>
          refine ⟨fun hskip => ⟨?all, fun hspeed => ?timed⟩, fun hlength hfast => ?fast⟩
          case all =>
              obtain ⟨hroom, hfound⟩ := pays_skipRoom.length_le_room hbounded hwindow hskip
              exact Nat.le_trans hroom hfound.skipRoom_le
          case timed =>
              obtain ⟨hroom, hfound⟩ := pays_timedRoom.length_le_room hbounded hwindow
                fun other hmem => ⟨hskip other hmem, hspeed other hmem⟩
              have hle := Nat.le_trans hroom hfound.timedRoom_le
              refine ⟨Nat.le_trans hle (by split <;> decide), fun hprogressive => ?_⟩
              rwa [hprogressive wait (.head _)] at hle
          case fast =>
              obtain ⟨before, after, hfound, hprefix⟩ := exists_run_of_infix hwindow
              rw [actions_of_fast hprefix hfast, hlength]
              exact count_display_fastActions (hfound ▸ hbounded.run before).fastCount_lt
  case fields =>
      intro before steps count pacer hinterlaced hsteady hnormal hactions
      exact even_of_steady (hbounded.run before) hinterlaced hsteady hnormal hactions

/-- A late field and fast-forward together skip five periods in a row. -/
example :
    ((create { skipMode := .alternate } 1000).waits
      [.other (.setMode 0 .pal true), .wait true false 0, .other (.adjust (.advance 50)),
       .wait true false 0, .wait true false 0, .other (.adjust (.fast true)), .wait true false 0,
       .wait true false 0, .wait true false 0, .other (.adjust (.fast false)),
       .wait true false 0, .wait true false 0]).map Wait.action =
      [.display, .display, .skip, .skip, .skip, .skip, .skip, .display] := by
  decide +kernel

end Pacer

end GpuCore.Pacing
