import GpuCore.Proofs.Operation.Stages

/-!
# Frames that are held back

When a mode word switches interlacing on, two frames are held back.  A period that would be shown
counts one of them off instead of presenting a frame, and so does a position that moves the display.
Over a whole run, every switch pays for two held frames, and nothing else holds a frame back.

Main definitions:

- `Gpu.framesShown` and `Gpu.ShowsPeriod`: how many frames the renderer got, and whether a period is
  one to be shown.
- `Gpu.total`: what the operations of a run add up to.
- `Gpu.heldBackBy`, `Gpu.movedOffBy` and `Gpu.switchesBy`: the frame that an operation holds back,
  the held frames that it counts off by moving the display, and how often it switches interlacing
  on.

Main results:

- `Display.keptByCommands_holds`: at most two frames are held back, and none in progressive modes.
- `Gpu.framesShown_endPeriod` and `Gpu.heldFrames_endPeriod`: what the end of a period shows and
  counts off.
- `Gpu.total_heldBackBy_le`: frames that are held back are paid for.
- `Gpu.frames_held_back`: all of it, in every reachable state and over every run from there.
-/

namespace GpuCore

/-! ## The number of held frames -/

namespace Display

/-- At most two frames are held back, and none unless interlacing is on. -/
structure Holds (display : Display) : Prop where
  atMost : display.heldFrames ≤ 2
  progressive : display.pendingInterlaced = false → display.heldFrames = 0

variable {before after display : Display}

/-- Fewer held frames, with interlacing as it was. -/
theorem Holds.mono (h : before.Holds) (hheld : after.heldFrames ≤ before.heldFrames)
    (hinterlaced : after.pendingInterlaced = before.pendingInterlaced) : after.Holds where
  atMost := Nat.le_trans hheld h.atMost
  progressive hoff := by
    rw [hinterlaced] at hoff
    have hnone := h.progressive hoff
    omega

/-- Interlacing goes from off to on. -/
def Switches (before after : Display) : Prop :=
  before.pendingInterlaced = false ∧ after.pendingInterlaced = true

instance : DecidableRel Switches := fun before after =>
  inferInstanceAs (Decidable (before.pendingInterlaced = false ∧ after.pendingInterlaced = true))

/-- A position counts held frames off, and leaves interlacing alone. -/
theorem held_setPosition (display : Display) (x y : Nat) (swapped : Bool) :
    let after := (display.setPosition x y swapped).2
    after.heldFrames ≤ display.heldFrames ∧
      after.pendingInterlaced = display.pendingInterlaced := by
  obtain ⟨_, _, _, _, held, _, hheld, hrest⟩ := display.setPosition_rest x y swapped
  rw [hrest]
  exact ⟨hheld, rfl⟩

theorem held_setLines (display : Display) (y0 y1 : Nat) :
    let after := (display.setLines y0 y1).2
    after.heldFrames = display.heldFrames ∧
      after.pendingInterlaced = display.pendingInterlaced := by
  obtain ⟨_, _, _, _, _, hrest⟩ := display.setLines_rest y0 y1
  rw [hrest]
  exact ⟨rfl, rfl⟩

/-- A mode word holds two frames back if it switches interlacing on, and none if it is off. -/
theorem held_stageMode (display : Display) (word : UInt32) :
    (display.stageMode word).heldFrames =
      if display.Switches (display.stageMode word) then 2
      else if Word.flag word 5 then display.heldFrames else 0 := by
  simp only [stageMode, Switches, Bool.and_eq_true, Bool.not_eq_true', and_comm]

/-- A command that adds held frames switches interlacing on, and adds at most two. -/
theorem held_apply (display : Display) (command : Command) :
    (display.apply command).heldFrames ≤
      display.heldFrames + if display.Switches (display.apply command) then 2 else 0 := by
  cases command with
  | setPosition x y swapped =>
      exact Nat.le_trans (held_setPosition display x y swapped).1 (Nat.le_add_right _ _)
  | setLines y0 y1 =>
      exact Nat.le_trans (Nat.le_of_eq (held_setLines display y0 y1).1) (Nat.le_add_right _ _)
  | setMode word =>
      change (display.stageMode word).heldFrames ≤
        _ + if display.Switches (display.stageMode word) then 2 else 0
      rw [held_stageMode]
      split
      · exact Nat.le_add_left 2 _
      · split
        · exact Nat.le_refl _
        · exact Nat.zero_le _
  | _ => exact Nat.le_add_right _ _

/-- The drawing environment that a display carries holds no frame back. -/
theorem held_of_withoutDrawing (hsame : after.withoutDrawing = before.withoutDrawing) :
    after.heldFrames = before.heldFrames ∧
      after.pendingInterlaced = before.pendingInterlaced := by
  have hheld : after.withoutDrawing.heldFrames = before.withoutDrawing.heldFrames := by rw [hsame]
  have hinterlaced : after.withoutDrawing.pendingInterlaced =
      before.withoutDrawing.pendingInterlaced := by rw [hsame]
  exact ⟨hheld, hinterlaced⟩

theorem holds_stageMode (h : display.Holds) (word : UInt32) : (display.stageMode word).Holds where
  atMost := by
    rw [held_stageMode]
    split
    · exact Nat.le_refl 2
    · split
      · exact h.atMost
      · exact Nat.zero_le 2
  progressive hoff := by
    have hflag : Word.flag word 5 = false := hoff
    rw [held_stageMode, hflag, if_neg fun hon => Bool.false_ne_true (hoff.symm.trans hon.2),
      if_neg Bool.false_ne_true]

/-- Whatever touches a display keeps the bound. -/
theorem keptByCommands_holds : KeptByCommands Holds where
  initial := ⟨Nat.zero_le 2, fun _ => rfl⟩
  command command h := by
    cases command with
    | setPosition x y swapped =>
        obtain ⟨hheld, hinterlaced⟩ := held_setPosition _ x y swapped
        exact h.mono hheld hinterlaced
    | setLines y0 y1 =>
        obtain ⟨hheld, hinterlaced⟩ := held_setLines _ y0 y1
        exact h.mono (Nat.le_of_eq hheld) hinterlaced
    | setMode word => exact holds_stageMode h word
    | _ => exact ⟨h.atMost, h.progressive⟩
  drawing hsame h :=
    h.mono (Nat.le_of_eq (held_of_withoutDrawing hsame).1) (held_of_withoutDrawing hsame).2
  period hheld h := by
    refine h.mono ?_ rfl
    dsimp only
    omega

end Display

/-! ## The end of a period -/

namespace Gpu

variable {gpu before after : Gpu}

/-- How many frames the renderer got. -/
def framesShown (gpu : Gpu) : Nat :=
  gpu.events.countP Event.isFrame

/-- The end of the period is one to be shown: the picture is on, and the period that comes is not
skipped. -/
def ShowsPeriod (gpu : Gpu) (pause : UInt64) : Prop :=
  (gpu.endPeriod pause).skipping = false ∧ gpu.display.current.disabled = false

instance (gpu : Gpu) (pause : UInt64) : Decidable (gpu.ShowsPeriod pause) :=
  inferInstanceAs (Decidable (_ = false ∧ _ = false))

/-- A period that is to be shown presents one frame, unless one is held back. -/
theorem framesShown_endPeriod (gpu : Gpu) (pause : UInt64) :
    (gpu.endPeriod pause).framesShown =
      gpu.framesShown +
        if gpu.ShowsPeriod pause ∧ gpu.display.heldFrames = 0 then 1 else 0 := by
  simp only [framesShown, Array.countP_eq_size_filter, presented_endPeriod, ShowsPeriod, and_assoc]
  split
  · rw [Array.size_push]
  · rfl

theorem held_applyMode (gpu : Gpu) :
    gpu.applyMode.display.heldFrames = gpu.display.heldFrames ∧
      gpu.applyMode.display.pendingInterlaced = gpu.display.pendingInterlaced ∧
      gpu.applyMode.display.current.disabled = gpu.display.current.disabled := by
  rw [display_applyMode]
  split <;> exact ⟨rfl, rfl, rfl⟩

/-- A period that is to be shown counts one held frame off, and every other one keeps them. -/
theorem held_endPeriod (gpu : Gpu) (pause : UInt64) :
    (gpu.endPeriod pause).display.heldFrames =
        (if gpu.ShowsPeriod pause then gpu.display.heldFrames - 1 else gpu.display.heldFrames) ∧
      (gpu.endPeriod pause).display.pendingInterlaced = gpu.display.pendingInterlaced := by
  obtain ⟨hheld, hinterlaced, hdisabled⟩ := held_applyMode gpu
  rw [display_endPeriod, hheld, hdisabled]
  exact ⟨rfl, hinterlaced⟩

/-! ## Switching interlacing on -/

/-- A control word switches interlacing on exactly if it is a mode word that says so and interlacing
is off. -/
theorem switches_writeControl_iff (gpu : Gpu) (word : UInt32) :
    gpu.display.Switches (gpu.writeControl word).display ↔
      Word.field word 24 8 = 8 ∧ Word.flag word 5 = true ∧
        gpu.display.pendingInterlaced = false := by
  have hoff : gpu.display.pendingInterlaced = gpu.display.output.mode.interlaced := rfl
  have hinterlaced : (gpu.writeControl word).display.pendingInterlaced =
      (gpu.display.output.obey word).mode.interlaced :=
    congrArg (·.mode.interlaced) (output_obey (gpu.keepControl word) word)
  rw [Display.Switches, hinterlaced, hoff]
  by_cases hreset : Word.field word 24 8 = 0
  · rw [Display.Output.obey_of_reset _ hreset, hreset]
    simp [Display.Output.initial, Display.output, Display.initial, Display.updateCorners]
  by_cases henable : Word.field word 24 8 = 3
  · rw [Display.Output.obey_of_enable _ henable, henable]
    simp
  by_cases hmode : Word.field word 24 8 = 8
  · rw [Display.Output.obey_of_mode _ hmode]
    simp [hmode, Display.Mode.ofWord, and_comm]
  · rw [Display.Output.obey_of_other _ hreset henable hmode]
    simp [hmode]

/-- Whatever switches interlacing on is a mode word. -/
theorem Stage.mode_of_switches (h : Stage before after)
    (hswitches : before.display.Switches after.display) :
    ∃ word, after = before.writeControl word ∧ Word.field word 24 8 = 8 ∧
      Word.flag word 5 = true := by
  obtain ⟨hoff, hon⟩ := hswitches
  have hquiet (hsame : after.display.pendingInterlaced = before.display.pendingInterlaced) :
      False :=
    Bool.false_ne_true (hoff.symm.trans (hsame.symm.trans hon))
  cases h with
  | keep hsame => exact (hquiet (Display.held_of_withoutDrawing hsame.display).2).elim
  | reset hdisplay hnotices =>
      rw [hdisplay] at hon
      cases hon
  | control word =>
      obtain ⟨hmode, hflag, -⟩ := (switches_writeControl_iff before word).1 ⟨hoff, hon⟩
      exact ⟨word, rfl, hmode, hflag⟩
  | commit hsame =>
      have hdisplay := (Display.held_of_withoutDrawing hsame.display).2
      exact (hquiet (hdisplay.trans (held_applyMode before).2.1)).elim
  | period pause => exact (hquiet (held_endPeriod before pause).2).elim

/-! ## What the stages hold back -/

/-- A stage that adds held frames switches interlacing on, and adds at most two. -/
theorem Stage.held_le (h : Stage before after) :
    after.display.heldFrames ≤
      before.display.heldFrames + if before.display.Switches after.display then 2 else 0 := by
  cases h with
  | keep hsame =>
      have hheld := (Display.held_of_withoutDrawing hsame.display).1
      exact Nat.le_trans (Nat.le_of_eq hheld) (Nat.le_add_right _ _)
  | reset hdisplay hnotices =>
      rw [hdisplay]
      exact Nat.zero_le _
  | control word =>
      rcases display_writeControl_cases before word with hreset | hsame | ⟨command, happlied⟩
      · rw [hreset]
        exact Nat.zero_le _
      · rw [hsame]
        exact Nat.le_add_right _ _
      · rw [happlied]
        exact Display.held_apply before.display command
  | commit hsame =>
      have hheld := (Display.held_of_withoutDrawing hsame.display).1
      exact Nat.le_trans (Nat.le_of_eq (hheld.trans (held_applyMode before).1))
        (Nat.le_add_right _ _)
  | period pause =>
      rw [(held_endPeriod before pause).1]
      split <;> omega

/-- How often interlacing is switched on from one state to the next. -/
def switches (before : Gpu) : List Gpu → Nat
  | [] => 0
  | after :: rest =>
    (if before.display.Switches after.display then 1 else 0) + after.switches rest

/-- Over a sequence of stages, every switch adds at most two held frames. -/
theorem Passes.held_le {states : List Gpu} (h : Passes before states after) :
    after.display.heldFrames ≤ before.display.heldFrames + 2 * before.switches states := by
  induction h with
  | nil gpu => exact Nat.le_refl _
  | @cons first next last rest hstage _ ih =>
      have hnext := hstage.held_le
      rw [switches]
      split at hnext
      · next hon =>
          rw [if_pos hon]
          omega
      · next hoff =>
          rw [if_neg hoff]
          omega

/-! ## Runs -/

/-- What the operations of a run add up to. -/
def total (measure : Gpu → Operation → Nat) (gpu : Gpu) : List Operation → Nat
  | [] => 0
  | operation :: operations =>
    measure gpu operation + total measure (gpu.apply operation) operations

/-- Whether an operation ends a period that is to be shown without presenting a frame. -/
def heldBackBy (gpu : Gpu) : Operation → Nat
  | .endPeriod pause =>
    if gpu.ShowsPeriod pause ∧ (gpu.endPeriod pause).framesShown = gpu.framesShown then 1 else 0
  | _ => 0

/-- How many held frames an operation counts off by setting the position of the display. -/
def movedOffBy (gpu : Gpu) : Operation → Nat
  | .writeControl word =>
    if Word.field word 24 8 = 5 then
      gpu.display.heldFrames - (gpu.writeControl word).display.heldFrames
    else
      0
  | _ => 0

/-- How often an operation switches interlacing on; a record that is restored can do so more than
once. -/
def switchesBy (gpu : Gpu) (operation : Operation) : Nat :=
  gpu.switches (gpu.stages operation)

theorem switchesBy_writeControl (gpu : Gpu) (word : UInt32) :
    gpu.switchesBy (.writeControl word) =
      if Word.field word 24 8 = 8 ∧ Word.flag word 5 = true ∧
          gpu.display.pendingInterlaced = false then 1 else 0 := by
  have hsum : gpu.switchesBy (.writeControl word) =
      (if gpu.display.Switches (gpu.writeControl word).display then 1 else 0) + 0 := rfl
  rw [hsum, Nat.add_zero]
  simp only [switches_writeControl_iff]

/-- A period that holds a frame back counts it off. -/
theorem heldBackBy_endPeriod (gpu : Gpu) (pause : UInt64) :
    gpu.heldBackBy (.endPeriod pause) + (gpu.endPeriod pause).display.heldFrames =
      gpu.display.heldFrames := by
  rw [heldBackBy, framesShown_endPeriod, (held_endPeriod gpu pause).1]
  by_cases hshows : gpu.ShowsPeriod pause
  · by_cases hheld : gpu.display.heldFrames = 0
    · simp [hshows, hheld]
    · simp only [hshows, hheld, true_and, and_false, if_true, if_false, Nat.add_zero]
      omega
  · simp [hshows]

/-- What an operation holds back or counts off was held, or the operation switches interlacing
on. -/
theorem heldBackBy_le (gpu : Gpu) (operation : Operation) :
    gpu.heldBackBy operation + gpu.movedOffBy operation +
        (gpu.apply operation).display.heldFrames ≤
      gpu.display.heldFrames + 2 * gpu.switchesBy operation := by
  have hheld := (passes_apply gpu operation).held_le
  cases operation with
  | endPeriod pause =>
      -- the bound of a stage is too weak here: a period counts off what it holds back
      have hcounted := heldBackBy_endPeriod gpu pause
      have hmoved : gpu.movedOffBy (.endPeriod pause) = 0 := rfl
      rw [apply]
      omega
  | writeControl word =>
      have hback : gpu.heldBackBy (.writeControl word) = 0 := rfl
      have hmoved : gpu.movedOffBy (.writeControl word) ≤
          gpu.display.heldFrames - (gpu.writeControl word).display.heldFrames := by
        rw [movedOffBy]
        split
        · exact Nat.le_refl _
        · exact Nat.zero_le _
      rw [apply] at hheld ⊢
      unfold switchesBy
      omega
  | _ => simpa only [heldBackBy, movedOffBy, switchesBy, Nat.zero_add] using hheld

/-- Over a run, every frame that is held back was held in front of it or is paid for by a switch,
two for each, and what positions count off is no longer held back. -/
theorem total_heldBackBy_le (gpu : Gpu) (operations : List Operation) :
    gpu.total heldBackBy operations + gpu.total movedOffBy operations +
        (gpu.run operations).display.heldFrames ≤
      gpu.display.heldFrames + 2 * gpu.total switchesBy operations := by
  induction operations generalizing gpu with
  | nil => exact Nat.le_of_eq (by simp only [total, run_nil]; omega)
  | cons operation operations ih =>
      have hfirst := gpu.heldBackBy_le operation
      have hrest := ih (gpu.apply operation)
      simp only [total, run_cons]
      omega

/-- In every reachable state at most two frames are held back, and none in progressive modes.  The
end of a period presents one frame if it is to be shown and none is held back; it counts one off if
it is to be shown and one is held back; otherwise it does neither.  Over every run from there, the
frames that are held back or counted off by moving the display were held before or are paid for by
switching interlacing on, two for each time; so they are at most two where it is not switched on,
and none if the mode is progressive in front.  What switches it on is a mode word that says so while
interlacing is off. -/
theorem frames_held_back (settings : Settings) (pacer : Pacing.Pacer)
    (operations later : List Operation) :
    let gpu := (create settings pacer).run operations
    gpu.display.heldFrames ≤ 2 ∧
      (gpu.display.pendingInterlaced = false → gpu.display.heldFrames = 0) ∧
      (∀ pause, (gpu.endPeriod pause).framesShown =
          gpu.framesShown + (if gpu.ShowsPeriod pause ∧ gpu.display.heldFrames = 0 then 1 else 0) ∧
        (gpu.endPeriod pause).display.heldFrames =
          if gpu.ShowsPeriod pause then gpu.display.heldFrames - 1 else gpu.display.heldFrames) ∧
      gpu.total heldBackBy later + gpu.total movedOffBy later +
          (gpu.run later).display.heldFrames ≤
        gpu.display.heldFrames + 2 * gpu.total switchesBy later ∧
      (gpu.total switchesBy later = 0 →
        gpu.total heldBackBy later + gpu.total movedOffBy later ≤ 2 ∧
          (gpu.display.pendingInterlaced = false → gpu.total heldBackBy later = 0)) ∧
      (∀ word, gpu.switchesBy (.writeControl word) =
        if Word.field word 24 8 = 8 ∧ Word.flag word 5 = true ∧
            gpu.display.pendingInterlaced = false then 1 else 0) ∧
      ∀ before after, Stage before after → before.display.Switches after.display →
        ∃ word, after = before.writeControl word ∧ Word.field word 24 8 = 8 ∧
          Word.flag word 5 = true := by
  intro gpu
  obtain ⟨hatMost, hprogressive⟩ := Display.keptByCommands_holds.run settings pacer operations
  have hpaid := gpu.total_heldBackBy_le later
  refine ⟨hatMost, hprogressive, ?period, hpaid, ?between, gpu.switchesBy_writeControl, ?switch⟩
  case period => exact fun pause => ⟨framesShown_endPeriod gpu pause, (held_endPeriod gpu pause).1⟩
  case between =>
      intro hnone
      change gpu.display.heldFrames ≤ 2 at hatMost
      refine ⟨by omega, fun hoff => ?_⟩
      have hempty : gpu.display.heldFrames = 0 := hprogressive hoff
      omega
  case switch => exact fun before after hstage hswitches => hstage.mode_of_switches hswitches

end Gpu

end GpuCore
