import GpuCore.Proofs.Alike.Setup

/-!
# The rate of the current mode

The pacer keeps the ticks of a period, which follow from settings, region and interlacing.  They are
computed again only when a mode word, a reset or new settings say so, and from the interlacing that
is pending.  No other operation changes what they follow from.

Main definitions:

- `Gpu.OnRate`: the pacer keeps the ticks of the current mode.
- `Gpu.SameRate`: setup, ticks and mode are those of another processor.

Main results:

- `Gpu.onRate_obey`: no control word leaves the ticks of another mode behind.
- `Gpu.OnRate.apply` and `Gpu.OnRate.run`: nor does any operation, or any run.
- `Gpu.paced_by_mode`: a pacer that was made for its processor runs at the rate of the mode.
-/

namespace GpuCore.Gpu

/-! ## Rate and mode -/

/-- The pacer follows the settings, and it keeps the timing that the current mode has under them on
its clock. -/
structure OnRate (ticksPerSecond : UInt64) (gpu : Gpu) : Prop where
  clock : gpu.pacer.ticksPerSecond = ticksPerSecond
  paced : PacedBySettings gpu
  timing : gpu.pacer.timing =
    .ofMode ticksPerSecond gpu.settings.pacing.chipAccurate gpu.settings.pacing.customRate
      gpu.display.output.mode.region gpu.display.output.mode.interlaced

/-- Setup, ticks and mode of `after` are those of `before`. -/
structure SameRate (after before : Gpu) : Prop extends SameSetup after before where
  timing : after.pacer.timing = before.pacer.timing
  region : after.display.output.mode.region = before.display.output.mode.region
  interlaced : after.display.output.mode.interlaced = before.display.output.mode.interlaced

theorem SameRate.of_output {after before : Gpu} (hsetup : SameSetup after before)
    (htiming : after.pacer.timing = before.pacer.timing)
    (houtput : after.display.output = before.display.output) : SameRate after before :=
  { hsetup with
    timing := htiming
    region := by rw [houtput]
    interlaced := by rw [houtput] }

variable {ticksPerSecond : UInt64}

theorem OnRate.of_sameRate {after before : Gpu} (h : OnRate ticksPerSecond before)
    (hsame : SameRate after before) : OnRate ticksPerSecond after where
  clock := hsame.ticksPerSecond.trans h.clock
  paced := h.paced.of_sameSetup hsame.toSameSetup
  timing := by
    rw [hsame.timing, hsame.settings, hsame.region, hsame.interlaced]
    exact h.timing

/-- The rate is selected anew under the settings of the processor. -/
theorem onRate_updateRate {gpu : Gpu} (hclock : gpu.pacer.ticksPerSecond = ticksPerSecond)
    (hpaced : PacedBySettings gpu) : OnRate ticksPerSecond gpu.updateRate where
  clock := hclock
  paced := hpaced
  timing := by
    have hselected : gpu.updateRate.pacer.timing =
        .ofMode gpu.pacer.ticksPerSecond gpu.pacer.chipAccurate gpu.settings.pacing.customRate
          gpu.display.region gpu.display.pendingInterlaced := rfl
    rw [hselected, hclock, hpaced]
    rfl

/-- A reset selects the rate of the mode at power-on. -/
theorem onRate_resetCommands {gpu : Gpu} (h : OnRate ticksPerSecond gpu) :
    OnRate ticksPerSecond gpu.resetCommands :=
  onRate_updateRate h.clock h.paced

/-- Taking the time anew behind it keeps the rate. -/
theorem onRate_reset {gpu : Gpu} (h : OnRate ticksPerSecond gpu) :
    OnRate ticksPerSecond gpu.reset :=
  (onRate_resetCommands h).of_sameRate ⟨⟨rfl, rfl, rfl⟩, rfl, rfl, rfl⟩

/-! ## Control words -/

theorem sameRate_emitMoved (gpu : Gpu) (moved : Bool) : SameRate (gpu.emitMoved moved) gpu := by
  unfold emitMoved
  split <;> exact ⟨⟨rfl, rfl, rfl⟩, rfl, rfl, rfl⟩

/-- A mode word selects the rate again unless region and interlacing stay the same. -/
theorem onRate_setDisplayMode {gpu : Gpu} (h : OnRate ticksPerSecond gpu) (word : UInt32) :
    OnRate ticksPerSecond (gpu.setDisplayMode word) := by
  unfold setDisplayMode Display.setMode
  dsimp only
  split
  · exact onRate_updateRate h.clock h.paced
  · next hsame =>
      simp only [Bool.or_eq_true, decide_eq_true_eq, bne_iff_ne, not_or,
        Decidable.not_not] at hsame
      exact h.of_sameRate ⟨⟨rfl, rfl, rfl⟩, rfl, hsame.1, hsame.2⟩

/-- No control word leaves the ticks of another mode behind. -/
theorem onRate_obey {gpu : Gpu} (h : OnRate ticksPerSecond gpu) (word : UInt32) :
    OnRate ticksPerSecond (gpu.obey word) := by
  have hmoved {after : Gpu} (moved : Bool) (hafter : OnRate ticksPerSecond after) :=
    hafter.of_sameRate (sameRate_emitMoved after moved)
  refine obey_cases gpu word ?reset ?drop ?acknowledge ?enable ?direct ?position ?columns ?lines
    ?mode ?query ?ignore <;> intro _
  case reset => exact onRate_resetCommands h
  case drop => exact h.of_sameRate ⟨⟨rfl, rfl, rfl⟩, rfl, rfl, rfl⟩
  case acknowledge => exact h.of_sameRate ⟨⟨rfl, rfl, rfl⟩, rfl, rfl, rfl⟩
  case enable => exact h.of_sameRate ⟨⟨rfl, rfl, rfl⟩, rfl, rfl, rfl⟩
  case direct => exact h.of_sameRate ⟨⟨rfl, rfl, rfl⟩, rfl, rfl, rfl⟩
  case position =>
      exact hmoved _ (h.of_sameRate (.of_output ⟨rfl, rfl, rfl⟩ rfl
        (Display.output_setPosition gpu.display _ _ _)))
  case columns => exact hmoved _ (h.of_sameRate ⟨⟨rfl, rfl, rfl⟩, rfl, rfl, rfl⟩)
  case lines =>
      exact hmoved _ (h.of_sameRate (.of_output ⟨rfl, rfl, rfl⟩ rfl
        (Display.output_setLines gpu.display _ _)))
  case mode => exact onRate_setDisplayMode h word
  case query => exact h.of_sameRate ⟨⟨rfl, rfl, rfl⟩, rfl, rfl, rfl⟩
  case ignore => exact h

theorem onRate_writeControl {gpu : Gpu} (h : OnRate ticksPerSecond gpu) (word : UInt32) :
    OnRate ticksPerSecond (gpu.writeControl word) := by
  have hkept : OnRate ticksPerSecond (gpu.keepControl word) :=
    h.of_sameRate ⟨⟨rfl, rfl, rfl⟩, rfl, rfl, rfl⟩
  exact onRate_obey hkept word

/-! ## Other operations -/

/-- The data channel reaches neither pacer nor mode. -/
theorem DataFrame.sameRate {before after : Gpu} (h : DataFrame Status.Mask.port before after) :
    SameRate after before :=
  .of_output h.sameSetup (by rw [h.pacer]) h.quiet.output

theorem ReadFrame.sameRate {changed : UInt32} {before after : Gpu}
    (h : ReadFrame changed before after) : SameRate after before := by
  rw [h.rest]
  exact ⟨⟨rfl, rfl, rfl⟩, rfl, rfl, rfl⟩

/-- The end of a period commits the mode whose rate is already in force. -/
theorem sameRate_endPeriod (gpu : Gpu) (pause : UInt64) : SameRate (gpu.endPeriod pause) gpu := by
  obtain ⟨blocking, odd, hpacer⟩ := pacer_endPeriod gpu pause
  refine .of_output (sameSetup_endPeriod gpu pause) ?timing (periodFrame_endPeriod gpu pause).output
  rw [hpacer, Pacing.Pacer.timing_wait]

/-- The words that thawing replays select the rate of the mode that they set. -/
theorem onRate_thaw {gpu : Gpu} (h : OnRate ticksPerSecond gpu) (record : Freeze.Record) :
    OnRate ticksPerSecond (gpu.thaw record) := by
  have hset {gpu : Gpu} (h : OnRate ticksPerSecond gpu) :
      OnRate ticksPerSecond (gpu.setRegisters record) :=
    h.of_sameRate ⟨⟨rfl, rfl, rfl⟩, rfl, rfl, rfl⟩
  have hloaded : OnRate ticksPerSecond
      { gpu.setRegisters record with vram := gpu.vram.load record.pixels } :=
    (hset h).of_sameRate ⟨⟨rfl, rfl, rfl⟩, rfl, rfl, rfl⟩
  have hreplayed : OnRate ticksPerSecond (replayOrder.foldl (replaySlot record.control)
      { gpu.setRegisters record with vram := gpu.vram.load record.pixels }) :=
    replay_preserves (P := OnRate ticksPerSecond) (fun _ word h => onRate_writeControl h word)
      record.control replayOrder hloaded
  have happlied (gpu : Gpu) : SameRate gpu.applyMode gpu :=
    .of_output (sameSetup_applyMode gpu) (by rw [pacer_applyMode])
      (periodFrame_applyMode gpu).output
  exact hset (hreplayed.of_sameRate (happlied _))

/-! ## Runs -/

namespace OnRate

variable {gpu : Gpu}

/-- A new processor starts at the rate of the mode at power-on. -/
theorem create (settings : Settings) (ticksPerSecond : UInt64) :
    OnRate ticksPerSecond (.create settings (.create settings.pacing ticksPerSecond)) :=
  ⟨rfl, rfl, rfl⟩

/-- No operation leaves the ticks of another mode behind. -/
theorem apply (h : OnRate ticksPerSecond gpu) (operation : Operation) :
    OnRate ticksPerSecond (gpu.apply operation) := by
  have hthaw (gpu : Gpu) (record : Freeze.Record) (h : OnRate ticksPerSecond gpu) :
      OnRate ticksPerSecond (gpu.thaw record) := onRate_thaw h record
  cases operation with
  | powerOn => exact onRate_reset (h.of_sameRate ⟨⟨rfl, rfl, rfl⟩, rfl, rfl, rfl⟩)
  | powerOff => exact h.of_sameRate ⟨⟨rfl, rfl, rfl⟩, rfl, rfl, rfl⟩
  | reset => exact onRate_reset h
  | configure settings =>
      have hfollowed : PacedBySettings
          { gpu with settings := settings, pacer := gpu.pacer.configure settings.pacing } := rfl
      exact onRate_updateRate h.clock hfollowed
  | writeData words => exact h.of_sameRate (dataFrame_writeData gpu words).sameRate
  | writeControl word => exact onRate_writeControl h word
  | readInto slots =>
      rw [Gpu.apply, state_readInto]
      exact h.of_sameRate (readFrame_readData gpu slots.length).sameRate
  | readWord =>
      rw [Gpu.apply, state_readWord]
      exact h.of_sameRate (readFrame_readData gpu 1).sameRate
  | readStatus =>
      rw [Gpu.apply, readStatus_rest]
      exact h.of_sameRate ⟨⟨rfl, rfl, rfl⟩, rfl, rfl, rfl⟩
  | endPeriod pause => exact h.of_sameRate (sameRate_endPeriod gpu pause)
  | followChain memory address =>
      exact h.of_sameRate (dataFrame_followChain gpu memory address).sameRate
  | freeze mode buffer =>
      refine freeze_preserves hthaw (fun _ _ hkept => ?_) h mode buffer
      exact hkept.of_sameRate ⟨⟨rfl, rfl, rfl⟩, rfl, rfl, rfl⟩
  | restore record => exact restore_preserves hthaw h record
  | adjustPace adjustment =>
      refine h.of_sameRate ?_
      cases adjustment <;> exact ⟨⟨rfl, rfl, rfl⟩, rfl, rfl, rfl⟩

/-- Nor does any run, by induction on the operations. -/
theorem run (h : OnRate ticksPerSecond gpu) (operations : List Operation) :
    OnRate ticksPerSecond (gpu.run operations) := by
  induction operations generalizing gpu with
  | nil => exact h
  | cons operation operations ih => exact ih (h.apply operation)

end OnRate

/-- A pacer that was made for its processor runs at the rate of the current mode under the current
settings after all operations: selecting the rate again would not change it. -/
theorem paced_by_mode (settings : Settings) (ticksPerSecond : UInt64)
    (operations : List Operation) :
    let gpu := (create settings (.create settings.pacing ticksPerSecond)).run operations
    gpu.pacer.chipAccurate = gpu.settings.pacing.chipAccurate ∧
      gpu.pacer.timing =
        .ofMode ticksPerSecond gpu.settings.pacing.chipAccurate gpu.settings.pacing.customRate
          gpu.display.region gpu.display.pendingInterlaced ∧
      gpu.updateRate.pacer.timing = gpu.pacer.timing := by
  have hrate := (OnRate.create settings ticksPerSecond).run operations
  refine ⟨hrate.paced, hrate.timing, ?_⟩
  rw [(onRate_updateRate hrate.clock hrate.paced).timing, hrate.timing]
  rfl

end GpuCore.Gpu
