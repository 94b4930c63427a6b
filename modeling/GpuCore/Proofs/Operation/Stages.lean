import GpuCore.Proofs.Display.Corner
import GpuCore.Proofs.Freeze.Replay
import GpuCore.Proofs.Status.Mirror

/-!
# The stages of a run

Most operations touch the display once, if at all.  Restoring a record touches it for every slot
that is replayed, and once more when the mode is applied.  This module cuts every operation into
stages: a reset, a control word, an applied mode, the end of a period, or something that leaves the
display alone.  What every stage keeps is kept by all runs, and an observer of the stages sees
whatever the renderer could be told of.

Main definitions:

- `Gpu.notices`: how often the renderer was told that the display moved.
- `Gpu.Stage` and `Gpu.Passes`: one stage, and a sequence of stages.
- `Gpu.stages` and `Gpu.passed`: the states that an operation and a run go through.
- `Gpu.observe`: what an observer makes of states that follow each other.
- `Display.KeptByCommands`: what everything that touches a display keeps.

Main results:

- `Gpu.passes_apply` and `Gpu.passes_run`: operations and runs are made up of stages.
- `Gpu.Passes.observe`: what every stage keeps, of a state and of what was observed.
- `Display.KeptByCommands.run`: what holds of the display in every reachable state.
-/

namespace GpuCore

namespace Gpu

variable {gpu before after : Gpu}

/-! ## Notices -/

/-- How often the renderer was told that the displayed part changed. -/
def notices (gpu : Gpu) : Nat :=
  gpu.events.count .displayMoved

/-- Notices are counted in the log and nowhere else. -/
theorem notices_congr (hevents : after.events = before.events) :
    after.notices = before.notices := by
  rw [notices, notices, hevents]

/-- One event is one notice, all others are none. -/
theorem notices_emit (gpu : Gpu) (event : Event) :
    (gpu.emit event).notices = gpu.notices + if event = .displayMoved then 1 else 0 := by
  simp only [notices, emit, Array.count_push, beq_iff_eq]

/-- Whatever else the renderer is told is no notice. -/
theorem notices_emit_of_ne (gpu : Gpu) {event : Event} (hother : event ≠ .displayMoved) :
    (gpu.emit event).notices = gpu.notices := by
  rw [notices_emit, if_neg hother, Nat.add_zero]

/-- A notice is given exactly if the display moved. -/
theorem notices_emitMoved (gpu : Gpu) (moved : Bool) :
    (gpu.emitMoved moved).notices = gpu.notices + if moved then 1 else 0 := by
  unfold emitMoved
  cases moved with
  | true => rw [if_pos rfl, notices_emit, if_pos rfl, if_pos rfl]
  | false => rw [if_neg Bool.false_ne_true, if_neg Bool.false_ne_true, Nat.add_zero]

/-- A mode that is applied is announced. -/
theorem notices_applyMode (gpu : Gpu) :
    gpu.applyMode.notices = gpu.notices + if gpu.display.hasPending then 1 else 0 := by
  unfold applyMode
  split
  · rw [notices_emit, if_pos rfl]
    rfl
  · rfl

/-- A primitive gives no notice, drawn or not. -/
theorem notices_drawPrimitive (gpu : Gpu) {event? : Option Event}
    (hother : ∀ event ∈ event?, event ≠ .displayMoved) :
    (gpu.drawPrimitive event?).notices = gpu.notices := by
  unfold drawPrimitive
  split
  · rfl
  · cases event? with
    | none => rfl
    | some event => exact notices_emit_of_ne gpu (hother event rfl)

/-- A command that sets the drawing environment gives no notice. -/
theorem notices_setEnvironment (gpu : Gpu) (index : Nat) (word : UInt32) :
    (gpu.setEnvironment index word).notices = gpu.notices := by
  unfold setEnvironment
  split
  case h_7 => rfl
  all_goals exact (notices_emit_of_ne _ (by simp)).trans (notices_congr rfl)

/-- Packets give no notice. -/
theorem notices_perform (gpu : Gpu) (family : Family) (words : List UInt32) :
    (gpu.perform family words).notices = gpu.notices := by
  unfold perform
  split
  case h_1 => exact notices_emit_of_ne _ (by simp)
  case h_2 => exact notices_drawPrimitive gpu (by simp)
  case h_3 => exact notices_drawPrimitive gpu (by simp)
  case h_4 => exact notices_drawPrimitive gpu (by simp)
  case h_5 =>
      unfold moveImage
      dsimp only
      split
      · rfl
      · exact (notices_emit_of_ne _ (by simp)).trans (notices_congr rfl)
  case h_8 => exact notices_setEnvironment gpu _ _
  all_goals rfl

/-- The data channel gives no notice. -/
theorem keptOnPort_notices (count : Nat) : KeptOnPort fun gpu => gpu.notices = count where
  collect _ h := h
  perform family words h := (notices_perform _ family words).trans h
  storePixels word _ h := by
    unfold storePixels
    split
    · exact h
    · exact (notices_emit_of_ne _ (by simp)).trans h
  dropUpload _ h := h
  showBusy _ h := h
  remember _ _ h := h

/-! ## Stages -/

/-- `after` has the display of `before`, apart from the drawing environment, and no notice was
given. -/
structure SameView (before after : Gpu) : Prop where
  display : after.display.withoutDrawing = before.display.withoutDrawing
  notices : after.notices = before.notices

theorem SameView.refl (gpu : Gpu) : SameView gpu gpu :=
  ⟨rfl, rfl⟩

/-- One stage of an operation. -/
inductive Stage (before : Gpu) : Gpu → Prop where
  /-- The display is left alone. -/
  | keep {after : Gpu} (hsame : SameView before after) : Stage before after
  /-- The display is reset, without a notice. -/
  | reset {after : Gpu} (hdisplay : after.display = .initial)
      (hnotices : after.notices = before.notices) : Stage before after
  | control (word : UInt32) : Stage before (before.writeControl word)
  /-- The pending mode is applied, with a notice if there is one. -/
  | commit {after : Gpu} (hsame : SameView before.applyMode after) : Stage before after
  | period (pause : UInt64) : Stage before (before.endPeriod pause)

/-- Stages lead from a state through states to the last of them. -/
inductive Passes : Gpu → List Gpu → Gpu → Prop where
  | nil (gpu : Gpu) : Passes gpu [] gpu
  | cons {first next last : Gpu} {rest : List Gpu} (hstage : Stage first next)
      (hrest : Passes next rest last) : Passes first (next :: rest) last

namespace Passes

variable {first middle last : Gpu} {states states' : List Gpu}

theorem one (hstage : Stage first last) : Passes first [last] last :=
  .cons hstage (.nil last)

/-- Two sequences of stages, the second from where the first ends, are one. -/
theorem append (h : Passes first states middle) (h' : Passes middle states' last) :
    Passes first (states ++ states') last := by
  induction h with
  | nil gpu => exact h'
  | cons hstage _ ih => exact .cons hstage (ih h')

end Passes

/-! ## Operations -/

/-- The states behind slots that are replayed, in order. -/
def replayStages (control : Vector UInt32 controlSlots) (gpu : Gpu) :
    List (Fin controlSlots) → List Gpu
  | [] => []
  | slot :: slots =>
    let after := replaySlot control gpu slot
    after :: replayStages control after slots

/-- The states that thawing goes through: with the image, behind every slot, and the last one. -/
def thawStages (gpu : Gpu) (record : Freeze.Record) : List Gpu :=
  let loaded := { gpu.setRegisters record with vram := gpu.vram.load record.pixels }
  loaded :: replayStages record.control loaded replayOrder ++ [gpu.thaw record]

/-- The states that restoring goes through; none if the record is refused. -/
def restoreStages (gpu : Gpu) (record : Freeze.Record) : List Gpu :=
  match (gpu.restore record).1 with
  | .ok () => gpu.thawStages record
  | .error _ => []

/-- The states that an operation goes through, its result the last one. -/
def stages (gpu : Gpu) : Operation → List Gpu
  | .restore record => gpu.restoreStages record
  | .freeze .load buffer =>
    match Freeze.Record.ofBytes buffer gpu.vram.size with
    | .ok record => gpu.restoreStages record
    | .error _ => []
  | operation => [gpu.apply operation]

/-- Every slot that is replayed is a stage: a control word, or nothing at all. -/
theorem passes_replay (control : Vector UInt32 controlSlots) (gpu : Gpu)
    (slots : List (Fin controlSlots)) :
    Passes gpu (replayStages control gpu slots) (slots.foldl (replaySlot control) gpu) := by
  induction slots generalizing gpu with
  | nil => exact .nil gpu
  | cons slot slots ih =>
      refine .cons ?_ (ih (replaySlot control gpu slot))
      unfold replaySlot
      dsimp only
      split
      · exact .control _
      · exact .keep (.refl gpu)

/-- A record is taken over in stages: the registers, the slots, and the mode that is applied in the
end. -/
theorem passes_thaw (gpu : Gpu) (record : Freeze.Record) :
    Passes gpu (gpu.thawStages record) (gpu.thaw record) := by
  let loaded : Gpu := { gpu.setRegisters record with vram := gpu.vram.load record.pixels }
  have hloaded : Stage gpu loaded := .keep ⟨rfl, rfl⟩
  have happlied : Stage (replayOrder.foldl (replaySlot record.control) loaded)
      (gpu.thaw record) := .commit ⟨rfl, rfl⟩
  exact .cons hloaded ((passes_replay record.control loaded replayOrder).append (.one happlied))

/-- A record that is refused is taken over in no stage. -/
theorem passes_restore (gpu : Gpu) (record : Freeze.Record) :
    Passes gpu (gpu.restoreStages record) (gpu.restore record).2 := by
  unfold restoreStages
  obtain hthawed | ⟨fault, hrefused⟩ := restore_cases gpu record
  · rw [hthawed]
    exact passes_thaw gpu record
  · rw [hrefused]
    exact .nil gpu

/-- Without video memory no record is restored, whatever the buffer holds. -/
theorem freeze_load_rest (gpu : Gpu) (buffer : Array UInt8) :
    (gpu.freeze .load buffer).2.2 = (gpu.restoreBytes buffer).2 := by
  unfold freeze ifInitialized
  dsimp only
  split
  · rfl
  · next huninitialized =>
      unfold restoreBytes
      split
      · rw [restore, ifInitialized, if_neg huninitialized]
      · rfl

end Gpu

/-- Operations that leave the display alone. -/
def Operation.keepsView : Operation → Bool
  | powerOn | reset | writeControl _ | endPeriod _ | freeze .load _ | restore _ => false
  | _ => true

namespace Gpu

/-- Operations that cannot touch the display leave it where it is and give no notice. -/
theorem sameView_apply (gpu : Gpu) (operation : Operation) (hkeeps : operation.keepsView = true) :
    SameView gpu (gpu.apply operation) := by
  have hread (count : Nat) : SameView gpu (gpu.readData count).2 := by
    rw [(readFrame_readData gpu count).rest]
    exact ⟨rfl, rfl⟩
  cases operation with
  | powerOff => exact ⟨rfl, rfl⟩
  | configure settings => exact ⟨rfl, rfl⟩
  | writeData words =>
      exact ⟨(dataFrame_writeData gpu words).display,
        (keptOnPort_notices gpu.notices).writeData words rfl⟩
  | readInto slots =>
      rw [apply, state_readInto]
      exact hread slots.length
  | readWord =>
      rw [apply, state_readWord]
      exact hread 1
  | readStatus =>
      rw [apply, readStatus_rest]
      exact ⟨rfl, rfl⟩
  | followChain memory address =>
      exact ⟨(dataFrame_followChain gpu memory address).display,
        (keptOnPort_notices gpu.notices).followChain memory address rfl⟩
  | freeze mode buffer =>
      cases mode with
      | load => cases hkeeps
      | save =>
          rw [apply, freeze_save_rest]
          exact .refl gpu
      | info =>
          rw [apply, freeze_info_rest]
          exact ⟨rfl, rfl⟩
  | adjustPace adjustment => exact ⟨rfl, rfl⟩
  | _ => cases hkeeps

/-- Every operation is made up of stages. -/
theorem passes_apply (gpu : Gpu) (operation : Operation) :
    Passes gpu (gpu.stages operation) (gpu.apply operation) := by
  cases operation with
  | powerOn => exact .one (.reset rfl rfl)
  | reset => exact .one (.reset rfl rfl)
  | writeControl word => exact .one (.control word)
  | endPeriod pause => exact .one (.period pause)
  | freeze mode buffer =>
      cases mode with
      | load =>
          rw [apply, freeze_load_rest]
          unfold stages restoreBytes
          cases hread : Freeze.Record.ofBytes buffer gpu.vram.size with
          | ok record => simpa only [hread] using passes_restore gpu record
          | error fault => simpa only [hread] using Passes.nil gpu
      | _ => exact .one (.keep (sameView_apply gpu _ rfl))
  | restore record => exact passes_restore gpu record
  | _ => exact .one (.keep (sameView_apply gpu _ rfl))

/-! ## Runs -/

/-- The states that a run goes through. -/
def passed (gpu : Gpu) : List Operation → List Gpu
  | [] => []
  | operation :: operations => gpu.stages operation ++ (gpu.apply operation).passed operations

/-- Every run is made up of stages, by induction on its operations. -/
theorem passes_run (gpu : Gpu) (operations : List Operation) :
    Passes gpu (gpu.passed operations) (gpu.run operations) := by
  induction operations generalizing gpu with
  | nil => exact .nil gpu
  | cons operation operations ih => exact (passes_apply gpu operation).append (ih _)

/-- What an observer makes of states that follow each other. -/
def observe {α : Type} (next : α → Gpu → Gpu → α) (value : α) (gpu : Gpu) : List Gpu → α
  | [] => value
  | after :: rest => observe next (next value gpu after) after rest

/-- What every stage keeps, of the state and of what was observed, holds behind all stages. -/
theorem Passes.observe {α : Type} {next : α → Gpu → Gpu → α} {P : α → Gpu → Prop}
    (hstage : ∀ value before after, Stage before after → P value before →
      P (next value before after) after)
    {first last : Gpu} {states : List Gpu} (h : Passes first states last) {value : α}
    (hfirst : P value first) : P (observe next value first states) last := by
  induction h generalizing value with
  | nil gpu => exact hfirst
  | cons hnext _ ih => exact ih (hstage value _ _ hnext hfirst)

/-- What every stage keeps of the state alone. -/
theorem Passes.preserves {P : Gpu → Prop}
    (hstage : ∀ before after, Stage before after → P before → P after)
    {first last : Gpu} {states : List Gpu} (h : Passes first states last) (hfirst : P first) :
    P last := by
  induction h with
  | nil gpu => exact hfirst
  | cons hnext _ ih => exact ih (hstage _ _ hnext hfirst)

/-! ## The display behind a stage -/

/-- A control word resets the display, gives it a command, or leaves it alone. -/
theorem display_writeControl_cases (gpu : Gpu) (word : UInt32) :
    (gpu.writeControl word).display = .initial ∨
      (gpu.writeControl word).display = gpu.display ∨
      ∃ command, (gpu.writeControl word).display = gpu.display.apply command := by
  have hsame : gpu.display = .initial ∨ gpu.display = gpu.display ∨
      ∃ command, gpu.display = gpu.display.apply command := .inr (.inl rfl)
  refine obey_cases (motive := fun after => after.display = .initial ∨
      after.display = gpu.display ∨ ∃ command, after.display = gpu.display.apply command)
    (gpu.keepControl word) word ?reset ?drop ?acknowledge ?enable ?direct ?position ?columns ?lines
    ?mode ?query ?ignore <;> intro _
  case reset => exact .inl rfl
  case drop => exact hsame
  case acknowledge => exact hsame
  case enable => exact .inr (.inr ⟨.setEnabled _, rfl⟩)
  case direct => exact hsame
  case position =>
      rw [setDisplayPosition, display_emitMoved]
      exact .inr (.inr ⟨.setPosition _ _ _, rfl⟩)
  case columns => exact .inr (.inr ⟨.setColumns _ _, rfl⟩)
  case lines =>
      rw [setDisplayLines, display_emitMoved]
      exact .inr (.inr ⟨.setLines _ _, rfl⟩)
  case mode =>
      rw [display_setDisplayMode]
      exact .inr (.inr ⟨.setMode word, rfl⟩)
  case query => exact hsame
  case ignore => exact hsame

end Gpu

/-! ## What holds of every display -/

namespace Display

/-- What is kept by everything that touches a display. -/
structure KeptByCommands (P : Display → Prop) : Prop where
  initial : P .initial
  command : ∀ {display : Display} (command : Command), P display → P (display.apply command)
  drawing : ∀ {before after : Display}, after.withoutDrawing = before.withoutDrawing →
    P before → P after
  /-- A period ends, with or without a frame that is held back. -/
  period : ∀ {display : Display} {held : Nat},
    held = display.heldFrames ∨ held = display.heldFrames - 1 →
      P display → P { display with heldFrames := held, justInterlaced := false }

namespace KeptByCommands

variable {P : Display → Prop}

/-- Applying a mode keeps it, whether there is one pending or not. -/
theorem applyMode (h : KeptByCommands P) {gpu : Gpu} (hgpu : P gpu.display) :
    P gpu.applyMode.display := by
  rw [Gpu.display_applyMode]
  split
  · exact h.command .commit hgpu
  · exact hgpu

/-- Every stage keeps it. -/
theorem stage (h : KeptByCommands P) {before after : Gpu} (hstage : Gpu.Stage before after)
    (hbefore : P before.display) : P after.display := by
  cases hstage with
  | keep hsame => exact h.drawing hsame.display hbefore
  | reset hdisplay hnotices =>
      rw [hdisplay]
      exact h.initial
  | control word =>
      rcases Gpu.display_writeControl_cases before word with hreset | hsame | ⟨command, happlied⟩
      · rw [hreset]
        exact h.initial
      · rw [hsame]
        exact hbefore
      · rw [happlied]
        exact h.command command hbefore
  | commit hsame => exact h.drawing hsame.display (h.applyMode hbefore)
  | period pause =>
      rw [Gpu.display_endPeriod]
      refine h.period ?_ (h.applyMode hbefore)
      split
      · exact .inr rfl
      · exact .inl rfl

/-- So it holds in every reachable state. -/
theorem run (h : KeptByCommands P) (settings : Settings) (pacer : Pacing.Pacer)
    (operations : List Operation) : P ((Gpu.create settings pacer).run operations).display :=
  (Gpu.passes_run _ operations).preserves (fun _ _ hstage => h.stage hstage) h.initial

end KeptByCommands

end Display

end GpuCore
