import GpuCore.Proofs.Alike.Setup
import GpuCore.Proofs.Operation.Stages

/-!
# Telling the renderer where the display is

The renderer is told behind a change that the displayed area moved, and it relies on what it was
told last.  Two changes are made without telling it: a reset takes the display back to where it was
at power-on, and in swapped generations a position that is set twice moves the display with the
second time.  All others are announced.

Main definitions:

- `Display.View` and `Display.view`: where the display is.
- `Gpu.Announced` and `Gpu.Silent`: a change that the renderer is told of, and one that it is not.
- `Gpu.Slides`: positions that move the display silently.
- `Gpu.told`: what the renderer was told last, and how often the display moved silently since then.

Main results:

- `Gpu.announced_or_events_writeControl` and `Gpu.silent_writeControl_iff`: what a control word
  tells, and when it is silent.
- `Gpu.Stage.reset_or_slides`: whatever is silent is a reset or such a position.
- `Gpu.silent_told_eq_zero`: without both, nothing is.
- `Gpu.view_told`: all of it, over every run.
-/

namespace GpuCore

/-! ## Where the display is -/

namespace Display

/-- Where the display is: its upper left and lower right corner, and its size. -/
structure View where
  position : Point
  corner : Point
  size : Point
deriving DecidableEq, Repr

def view (display : Display) : View where
  position := display.current.position
  corner := display.current.corner
  size := display.size

variable {before after display : Display}

/-- The drawing environment does not say where the display is. -/
theorem view_of_withoutDrawing (hsame : after.withoutDrawing = before.withoutDrawing) :
    after.view = before.view := by
  have hview : after.withoutDrawing.view = before.withoutDrawing.view := by rw [hsame]
  exact hview

/-- A range of lines that leaves the visible height alone leaves the display where it is. -/
theorem view_setLines (display : Display) (y0 y1 : Nat)
    (hsame : (display.setLines y0 y1).1 = false) :
    (display.setLines y0 y1).2.view = display.view := by
  revert hsame
  unfold setLines
  dsimp only
  split
  · exact fun _ => rfl
  · exact nofun

/-- A position goes unanswered if the output is progressive and the generation that is replaced was
at that place already: the current one, or with swapped generations the one behind. -/
theorem setPosition_eq_false_iff (display : Display) (x y : Nat) (swapped : Bool) :
    (display.setPosition x y swapped).1 = false ↔
      display.seedsLeft = 0 ∧ display.pendingInterlaced = false ∧
        (if swapped then display.previous.position else display.current.position) =
          (decodePosition display.lineFactor x y).1 := by
  unfold setPosition
  dsimp only
  cases hseeds : display.seedsLeft with
  | succ seeds =>
      refine ⟨nofun, fun h => ?_⟩
      cases h.1
  | zero =>
      have hanswer (still : Bool) (quiet loud : Display) (moved : Bool) (other : Display) :
          (if still then (false, quiet) else if moved then (true, loud) else (true, other)).1 =
            false ↔ still = true := by
        cases still <;> cases moved <;> simp
      rw [hanswer, Bool.and_eq_true, Bool.not_eq_true', Bool.not_eq_true', decide_eq_false_iff_not,
        Decidable.not_not]
      cases swapped with
      | true => simp [shiftPosition]
      | false =>
          simp only [shiftPosition, Bool.false_eq_true, if_false, true_and]
          exact and_congr_right fun _ => eq_comm

/-- A position moves the display silently exactly if the generations are swapped, the one behind was
at that place already, and the current one was elsewhere. -/
theorem silent_setPosition_iff (display : Display) (x y : Nat) (swapped : Bool) :
    (display.setPosition x y swapped).1 = false ∧
        (display.setPosition x y swapped).2.view ≠ display.view ↔
      swapped = true ∧ display.seedsLeft = 0 ∧ display.pendingInterlaced = false ∧
        display.previous.position = (decodePosition display.lineFactor x y).1 ∧
        display.current.position ≠ display.previous.position := by
  rcases setPosition_cases display x y swapped with ⟨htrue, -⟩ | ⟨hfalse, hshifted, -⟩
  · have hanswer := setPosition_eq_false_iff display x y swapped
    rw [htrue] at hanswer ⊢
    grind
  · obtain ⟨hseeds, hprogressive, hplace⟩ := (setPosition_eq_false_iff display x y swapped).1 hfalse
    rw [hfalse, hshifted]
    -- corner and size are kept, so that only the place can differ
    cases swapped with
    | true =>
        have hview : (shiftPosition { display with
            heightOffset := (decodePosition display.lineFactor x y).2 }
            (decodePosition display.lineFactor x y).1 true).view =
          { display.view with position := display.previous.position } := rfl
        rw [if_pos rfl] at hplace
        rw [hview]
        simp [hseeds, hprogressive, hplace, view, eq_comm]
    | false =>
        have hview : (shiftPosition { display with
            heightOffset := (decodePosition display.lineFactor x y).2 }
            (decodePosition display.lineFactor x y).1 false).view =
          { display.view with position := (decodePosition display.lineFactor x y).1 } := rfl
        rw [if_neg Bool.false_ne_true] at hplace
        rw [hview, ← hplace]
        simp [view]

end Display

/-! ## Notices -/

namespace Gpu

variable {gpu before after : Gpu}

/-- The renderer is told, behind the change and of nothing else. -/
def Announced (before after : Gpu) : Prop :=
  ∃ changed : Gpu, changed.events = before.events ∧ after = changed.emit .displayMoved

/-- The display moved, and the renderer was not told. -/
def Silent (before after : Gpu) : Prop :=
  after.notices = before.notices ∧ after.display.view ≠ before.display.view

/-- A display that stays where it is does not move silently. -/
theorem SameView.not_silent (h : SameView before after) : ¬ Silent before after :=
  fun hsilent => hsilent.2 (Display.view_of_withoutDrawing h.display)

/-- A change is announced or nothing is said. -/
theorem announced_or_events_emitMoved (gpu : Gpu) (moved : Bool) :
    Announced gpu (gpu.emitMoved moved) ∨ (gpu.emitMoved moved).events = gpu.events := by
  cases moved with
  | true => exact .inl ⟨gpu, rfl, rfl⟩
  | false => exact .inr rfl

theorem events_setDisplayMode (gpu : Gpu) (word : UInt32) :
    (gpu.setDisplayMode word).events = gpu.events := by
  unfold setDisplayMode
  dsimp only
  split <;> rfl

/-! ## Control words -/

/-- A control word gives one notice, behind the change, or none. -/
theorem announced_or_events_writeControl (gpu : Gpu) (word : UInt32) :
    Announced gpu (gpu.writeControl word) ∨ (gpu.writeControl word).events = gpu.events := by
  refine obey_cases (motive := fun after => Announced gpu after ∨ after.events = gpu.events)
    (gpu.keepControl word) word ?reset ?drop ?acknowledge ?enable ?direct ?position ?columns ?lines
    ?mode ?query ?ignore <;> intro _
  case position => exact announced_or_events_emitMoved { gpu.keepControl word with display := _ } _
  case columns => exact announced_or_events_emitMoved { gpu.keepControl word with display := _ } _
  case lines => exact announced_or_events_emitMoved { gpu.keepControl word with display := _ } _
  case mode => exact .inr (events_setDisplayMode (gpu.keepControl word) word)
  all_goals exact .inr rfl

/-- The word sets, in swapped generations, a position that the generation behind has already and the
current one has not. -/
def Slides (gpu : Gpu) (word : UInt32) : Prop :=
  Word.field word 24 8 = 5 ∧ gpu.settings.fixes.contains .swapFrontBack = true ∧
    gpu.display.seedsLeft = 0 ∧ gpu.display.pendingInterlaced = false ∧
    gpu.display.previous.position =
      (Display.decodePosition gpu.display.lineFactor
        (Word.field word 0 10) (Word.field word 10 10)).1 ∧
    gpu.display.current.position ≠ gpu.display.previous.position

/-- A position is silent exactly if it slides. -/
theorem silent_setDisplayPosition_iff (gpu : Gpu) (word : UInt32)
    (hposition : Word.field word 24 8 = 5) :
    Silent gpu (gpu.setDisplayPosition word) ↔ gpu.Slides word := by
  have hnotices : (gpu.setDisplayPosition word).notices = gpu.notices ↔
      (gpu.display.setPosition (Word.field word 0 10) (Word.field word 10 10)
        (gpu.settings.fixes.contains .swapFrontBack)).1 = false := by
    unfold setDisplayPosition
    dsimp only
    rw [notices_emitMoved]
    cases (gpu.display.setPosition _ _ _).1 with
    | true => simp [notices]
    | false => simp [notices]
  have hview : (gpu.setDisplayPosition word).display = (gpu.display.setPosition
      (Word.field word 0 10) (Word.field word 10 10)
      (gpu.settings.fixes.contains .swapFrontBack)).2 :=
    display_emitMoved _ _
  rw [Silent, hnotices, hview, Display.silent_setPosition_iff, Slides]
  exact (and_iff_right hposition).symm

/-- A range of lines is announced if it moves the display. -/
theorem not_silent_setDisplayLines (gpu : Gpu) (word : UInt32) :
    ¬ Silent gpu (gpu.setDisplayLines word) := by
  let answer := gpu.display.setLines (Word.field word 0 10) (Word.field word 10 10)
  have hnotices : (gpu.setDisplayLines word).notices =
      gpu.notices + if answer.1 then 1 else 0 := notices_emitMoved { gpu with display := _ } _
  have hview : (gpu.setDisplayLines word).display = answer.2 := display_emitMoved _ _
  rintro ⟨hquiet, hmoved⟩
  rw [hnotices] at hquiet
  rw [hview] at hmoved
  cases hchanged : answer.1 with
  | true =>
      rw [hchanged, if_pos rfl] at hquiet
      omega
  | false => exact hmoved (Display.view_setLines gpu.display _ _ hchanged)

/-- A reset takes the display back to where it is at power-on. -/
theorem display_writeControl_reset (gpu : Gpu) {word : UInt32}
    (hreset : Word.field word 24 8 = 0) : (gpu.writeControl word).display = .initial := by
  simp only [writeControl, obey, hreset]
  rfl

/-- A control word is silent exactly if it resets a display that is elsewhere, or slides. -/
theorem silent_writeControl_iff (gpu : Gpu) (word : UInt32) :
    Silent gpu (gpu.writeControl word) ↔
      Word.field word 24 8 = 0 ∧ gpu.display.view ≠ Display.initial.view ∨ gpu.Slides word := by
  have hquiet {after : Gpu} (hloud : ¬ Silent gpu after) (hreset : Word.field word 24 8 ≠ 0)
      (hposition : Word.field word 24 8 ≠ 5) :
      Silent gpu after ↔
        Word.field word 24 8 = 0 ∧ gpu.display.view ≠ Display.initial.view ∨ gpu.Slides word :=
    iff_of_false hloud fun hsilent => hsilent.elim (fun h => hreset h.1) fun h => hposition h.1
  have hsame {after : Gpu} (hview : after.display.view = gpu.display.view) : ¬ Silent gpu after :=
    fun hsilent => hsilent.2 hview
  refine obey_cases (motive := fun after => Silent gpu after ↔
      Word.field word 24 8 = 0 ∧ gpu.display.view ≠ Display.initial.view ∨ gpu.Slides word)
    (gpu.keepControl word) word ?reset ?drop ?acknowledge ?enable ?direct ?position ?columns ?lines
    ?mode ?query ?ignore <;> intro hword
  case reset =>
      have hslides : ¬ gpu.Slides word := fun h => by
        rw [h.1] at hword
        cases hword
      have hnotices : (gpu.keepControl word).resetCommands.notices = gpu.notices :=
        notices_congr rfl
      rw [Silent, and_iff_right hnotices, and_iff_right hword, or_iff_left hslides]
      exact ne_comm
  case position =>
      have hreset : ¬ (Word.field word 24 8 = 0 ∧ gpu.display.view ≠ Display.initial.view) :=
        fun h => by
          rw [h.1] at hword
          cases hword
      rw [or_iff_right hreset]
      exact silent_setDisplayPosition_iff (gpu.keepControl word) word hword
  case columns =>
      refine hquiet (hsame ?_) (by omega) (by omega)
      rw [setDisplayColumns, display_emitMoved]
      rfl
  case lines =>
      exact hquiet (not_silent_setDisplayLines (gpu.keepControl word) word) (by omega) (by omega)
  case mode =>
      refine hquiet (hsame ?_) (by omega) (by omega)
      rw [display_setDisplayMode]
      rfl
  all_goals exact hquiet (hsame rfl) (by omega) (by omega)

/-! ## The end of a period -/

/-- A pending mode is announced when it is applied. -/
theorem announced_applyMode (gpu : Gpu) (hpending : gpu.display.hasPending = true) :
    Announced gpu gpu.applyMode := by
  refine ⟨{ gpu with display := gpu.display.commit }, rfl, ?_⟩
  unfold applyMode
  rw [if_pos hpending]

/-- At the end of a period only the pending mode can move the display. -/
theorem view_endPeriod (gpu : Gpu) (pause : UInt64) :
    (gpu.endPeriod pause).display.view = gpu.applyMode.display.view := by
  rw [display_endPeriod]
  rfl

/-- The end of a period gives one notice if a mode was pending, and none otherwise. -/
theorem notices_endPeriod (gpu : Gpu) (pause : UInt64) :
    (gpu.endPeriod pause).notices =
      gpu.notices + if gpu.display.hasPending then 1 else 0 := by
  let waited := gpu.applyMode.flipField.awaitPeriod pause
  have hwaited : waited.notices = gpu.applyMode.notices :=
    notices_congr (events_flipField gpu.applyMode)
  have hpresented : (gpu.endPeriod pause).notices = waited.notices := by
    have hevents : (gpu.endPeriod pause).events = waited.present.events := rfl
    rw [notices, hevents, events_present]
    split
    · exact notices_emit_of_ne waited (by simp)
    · rfl
  rw [hpresented, hwaited, notices_applyMode]

/-- No display moves silently at the end of a period. -/
theorem not_silent_endPeriod (gpu : Gpu) (pause : UInt64) :
    ¬ Silent gpu (gpu.endPeriod pause) := by
  rintro ⟨hnotices, hview⟩
  rw [notices_endPeriod] at hnotices
  rw [view_endPeriod, display_applyMode] at hview
  cases hpending : gpu.display.hasPending with
  | true =>
      rw [hpending, if_pos rfl] at hnotices
      omega
  | false => simp [hpending] at hview

/-! ## Runs -/

/-- Whatever is silent is a reset or a position that slides. -/
theorem Stage.reset_or_slides (h : Stage before after) (hsilent : Silent before after) :
    after.display = .initial ∨ ∃ word, after = before.writeControl word ∧ before.Slides word := by
  cases h with
  | keep hsame => exact absurd hsilent hsame.not_silent
  | reset hdisplay hnotices => exact .inl hdisplay
  | control word =>
      rcases (silent_writeControl_iff before word).1 hsilent with ⟨hreset, -⟩ | hslides
      · exact .inl (display_writeControl_reset before hreset)
      · exact .inr ⟨word, rfl, hslides⟩
  | commit hsame =>
      have hview := Display.view_of_withoutDrawing hsame.display
      obtain ⟨hnotices, hmoved⟩ := hsilent
      rw [hsame.notices, notices_applyMode] at hnotices
      rw [hview, display_applyMode] at hmoved
      cases hpending : before.display.hasPending with
      | true =>
          rw [hpending, if_pos rfl] at hnotices
          omega
      | false => simp [hpending] at hmoved
  | period pause => exact absurd hsilent (not_silent_endPeriod before pause)

/-- What the renderer was told last, and how often the display moved silently since then. -/
structure Told where
  view : Display.View
  silent : Nat
deriving DecidableEq, Repr

/-- A notice tells where the display is behind it. -/
def Told.next (told : Told) (before after : Gpu) : Told :=
  if after.notices ≠ before.notices then
    ⟨after.display.view, 0⟩
  else if after.display.view ≠ before.display.view then
    { told with silent := told.silent + 1 }
  else
    told

/-- What the renderer was told last in a run, if it knew where the display was before. -/
def told (gpu : Gpu) (operations : List Operation) : Told :=
  observe Told.next ⟨gpu.display.view, 0⟩ gpu (gpu.passed operations)

/-- Unless it moved silently since then, the display is where the renderer was told last. -/
theorem view_of_told (gpu : Gpu) (operations : List Operation)
    (hloud : (gpu.told operations).silent = 0) :
    (gpu.run operations).display.view = (gpu.told operations).view := by
  refine (passes_run gpu operations).observe
    (P := fun (told : Told) gpu => told.silent = 0 → gpu.display.view = told.view) ?_
    (fun _ => rfl) hloud
  intro told before after _ hbefore
  unfold Told.next
  split
  · exact fun _ => rfl
  · split
    · exact nofun
    · next hsame =>
        intro hsilent
        rw [← hbefore hsilent]
        exact Decidable.not_not.1 hsame

/-- A change that is not silent leaves no silent change behind. -/
theorem Told.silent_next {told : Told} (hloud : ¬ Silent before after) (htold : told.silent = 0) :
    (told.next before after).silent = 0 := by
  unfold Told.next
  split
  · rfl
  · next hnotices =>
      split
      · next hview => exact absurd ⟨Decidable.not_not.1 hnotices, hview⟩ hloud
      · exact htold

end Gpu

/-- Operations that neither reset the display nor ask for swapped generations. -/
def Operation.announces : Operation → Bool
  | powerOn | reset | freeze .load _ | restore _ => false
  | configure settings => !settings.fixes.contains .swapFrontBack
  | writeControl word => Word.field word 24 8 != 0
  | _ => true

namespace Gpu

variable {gpu : Gpu}

theorem stages_of_announces (gpu : Gpu) {operation : Operation}
    (hannounces : operation.announces = true) :
    gpu.stages operation = [gpu.apply operation] := by
  cases operation with
  | freeze mode buffer =>
      cases mode with
      | load => cases hannounces
      | _ => rfl
  | restore record => cases hannounces
  | _ => rfl

/-- Without swapped generations, such operations announce every change. -/
theorem not_silent_apply (gpu : Gpu) {operation : Operation}
    (hannounces : operation.announces = true)
    (hplain : gpu.settings.fixes.contains .swapFrontBack = false) :
    ¬ Silent gpu (gpu.apply operation) := by
  cases operation with
  | powerOn => cases hannounces
  | reset => cases hannounces
  | writeControl word =>
      have hreset : Word.field word 24 8 ≠ 0 := by simpa [Operation.announces] using hannounces
      rw [apply, silent_writeControl_iff]
      rintro (hsilent | hslides)
      · exact hreset hsilent.1
      · exact Bool.false_ne_true (hplain.symm.trans hslides.2.1)
  | endPeriod pause => exact not_silent_endPeriod gpu pause
  | freeze mode buffer =>
      cases mode with
      | load => cases hannounces
      | _ => exact (sameView_apply gpu _ rfl).not_silent
  | restore record => cases hannounces
  | _ => exact (sameView_apply gpu _ rfl).not_silent

/-- Operations that announce keep the swap fix switched off. -/
theorem plain_apply (gpu : Gpu) {operation : Operation} (hannounces : operation.announces = true)
    (hplain : gpu.settings.fixes.contains .swapFrontBack = false) :
    (gpu.apply operation).settings.fixes.contains .swapFrontBack = false := by
  cases operation with
  | configure settings =>
      simp only [Operation.announces, Bool.not_eq_true'] at hannounces
      exact hannounces
  | _ => rwa [(sameSetup_apply gpu _ fun _ hconfigure => by cases hconfigure).settings]

/-- Nor is anything silent in a run of them. -/
theorem silent_told_eq_zero (operations : List Operation)
    (hplain : gpu.settings.fixes.contains .swapFrontBack = false)
    (hannounces : ∀ operation ∈ operations, operation.announces = true) :
    (gpu.told operations).silent = 0 := by
  have hall (told : Told) (htold : told.silent = 0) :
      (observe Told.next told gpu (gpu.passed operations)).silent = 0 := by
    induction operations generalizing gpu told with
    | nil => exact htold
    | cons operation operations ih =>
        rw [List.forall_mem_cons] at hannounces
        rw [passed, stages_of_announces gpu hannounces.1]
        exact ih (plain_apply gpu hannounces.1 hplain) hannounces.2 _
          (Told.silent_next (not_silent_apply gpu hannounces.1 hplain) htold)
  exact hall _ rfl

/-- Over every run, the display is where the renderer was told last, or where it was in front,
unless it moved silently since then.  In every state, a control word gives one notice behind the
change or none, and it is silent exactly if it resets a display that is elsewhere, or sets a
position in swapped generations that the one behind has already.  The end of a period announces a
pending mode and is never silent.  Nothing else is, so that without resets and swapped generations
nothing is at all. -/
theorem view_told (gpu : Gpu) (operations : List Operation) :
    let last := gpu.run operations
    let told := gpu.told operations
    (told.silent = 0 → last.display.view = told.view) ∧
      (gpu.settings.fixes.contains .swapFrontBack = false →
        (∀ operation ∈ operations, operation.announces = true) → told.silent = 0) ∧
      (∀ word, (Announced last (last.writeControl word) ∨
          (last.writeControl word).events = last.events) ∧
        (Silent last (last.writeControl word) ↔
          Word.field word 24 8 = 0 ∧ last.display.view ≠ Display.initial.view ∨
            last.Slides word)) ∧
      (∀ pause, (last.display.hasPending = true → Announced last last.applyMode) ∧
        (last.endPeriod pause).display.view = last.applyMode.display.view ∧
        (last.endPeriod pause).notices =
          last.notices + (if last.display.hasPending then 1 else 0) ∧
        ¬ Silent last (last.endPeriod pause)) ∧
      ∀ before after, Stage before after → Silent before after →
        after.display = .initial ∨
          ∃ word, after = before.writeControl word ∧ before.Slides word := by
  intro last told
  refine ⟨view_of_told gpu operations, silent_told_eq_zero operations, ?control, ?period, ?stage⟩
  case control =>
      exact fun word => ⟨announced_or_events_writeControl last word,
        silent_writeControl_iff last word⟩
  case period =>
      exact fun pause => ⟨announced_applyMode last, view_endPeriod last pause,
        notices_endPeriod last pause, not_silent_endPeriod last pause⟩
  case stage => exact fun before after hstage hsilent => hstage.reset_or_slides hsilent

/-- A reset takes the display from column 64 back to column 0, and in swapped generations the second
of two positions takes it to column 64.  The renderer is not told of either. -/
theorem view_ne_told :
    let moved := (create {} (.create {} 1000000)).run [.powerOn, .writeControl 0x05000040]
    let swapped := (create { fixes := .swapFrontBack } (.create {} 1000000)).run
      (.powerOn :: [0x05000000, 0x05000000, 0x05000040].map .writeControl)
    moved.display.view = ⟨⟨64, 0⟩, ⟨320, 240⟩, ⟨256, 240⟩⟩ ∧
      (moved.writeControl 0).display.view = ⟨⟨0, 0⟩, ⟨256, 240⟩, ⟨256, 240⟩⟩ ∧
      Silent moved (moved.writeControl 0) ∧
      swapped.display.view = ⟨⟨0, 0⟩, ⟨256, 240⟩, ⟨256, 240⟩⟩ ∧
      (swapped.writeControl 0x05000040).display.view = ⟨⟨64, 0⟩, ⟨256, 240⟩, ⟨256, 240⟩⟩ ∧
      Silent swapped (swapped.writeControl 0x05000040) := by
  intro moved swapped
  have hreset : Silent moved (moved.writeControl 0) :=
    (silent_writeControl_iff moved 0).2 (.inl ⟨by decide, by decide⟩)
  have hslides : swapped.Slides 0x05000040 :=
    ⟨by decide, by decide, by decide, by decide, by decide, by decide⟩
  refine ⟨by decide, by decide, hreset, by decide, by decide, ?_⟩
  exact (silent_writeControl_iff swapped 0x05000040).2 (.inr hslides)

end Gpu

end GpuCore
