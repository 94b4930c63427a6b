import GpuCore.Proofs.Display.Corner
import GpuCore.Proofs.Display.Output

/-!
# Exchanged generations

A new position goes to the current generation, and the old one to the previous generation; in
swapped generations it is the other way around.  Nothing else tells the two orders apart: a display
that is told the same in either order has its two places exchanged, and is the same in everything
else.  Only a mode word that starts interlacing breaks this, since it copies the current position.

Main definitions:

- `Display.exchanged`: a display whose generations have exchanged their places.
- `Display.Command.inOrder`: a command in one of the two orders.
- `Display.Joined`: both generations have the same place.

Main results:

- `Display.setPosition_exchanged` and `Display.apply_exchanged`: what one command does in the two
  orders.
- `Display.Joined.run`: the positions that set both generations keep them joined.
- `Display.run_swapped`: the display behind any progressive commands in the two orders.
-/

namespace GpuCore.Display

/-! ## Places and orders -/

/-- The display whose generations have exchanged their positions and corners. -/
def exchanged (display : Display) : Display :=
  { display with
    current :=
      { display.current with
        position := display.previous.position, corner := display.previous.corner }
    previous :=
      { display.previous with
        position := display.current.position, corner := display.current.corner } }

/-- The same command, for swapped generations or for plain ones. -/
def Command.inOrder (swapped : Bool) : Command → Command
  | setPosition x y _ => setPosition x y swapped
  | command => command

/-- A command that sets a position. -/
def Command.isPosition : Command → Bool
  | setPosition _ _ _ => true
  | _ => false

/-- A mode word for interlaced output. -/
def Command.isInterlaced : Command → Bool
  | setMode word => Word.flag word 5
  | _ => false

/-- Both generations have the same place. -/
structure Joined (display : Display) : Prop where
  position : display.current.position = display.previous.position
  corner : display.current.corner = display.previous.corner

variable {display : Display} {command : Command} {commands : List Command}

/-- The order concerns positions, and not modes. -/
theorem isInterlaced_inOrder (swapped : Bool) (command : Command) :
    (command.inOrder swapped).isInterlaced = command.isInterlaced := by
  cases command <;> rfl

theorem isPosition_inOrder (swapped : Bool) (command : Command) :
    (command.inOrder swapped).isPosition = command.isPosition := by
  cases command <;> rfl

@[simp]
theorem exchanged_exchanged (display : Display) : display.exchanged.exchanged = display :=
  rfl

/-- Generations with the same place have nothing to exchange. -/
theorem Joined.exchanged_eq (h : display.Joined) : display.exchanged = display := by
  have hcurrent :
      { display.current with
        position := display.previous.position, corner := display.previous.corner } =
        display.current := by
    rw [← h.position, ← h.corner]
  have hprevious :
      { display.previous with
        position := display.current.position, corner := display.current.corner } =
        display.previous := by
    rw [h.position, h.corner]
  rw [exchanged, hcurrent, hprevious]

/-- Both generations start in the same place. -/
theorem joined_initial : initial.Joined :=
  ⟨rfl, rfl⟩

/-! ## Positions -/

/-- The decoded height offset of a position is taken over first. -/
def withHeightOffset (display : Display) (heightOffset : Int) : Display :=
  { display with heightOffset := heightOffset }

/-- Both generations get a position, which uses up a seed. -/
def seedPosition (display : Display) (position : Point) (seeds : Nat) : Display :=
  updateCorners
    { display with
      seedsLeft := seeds
      current := { display.current with position := position }
      previous := { display.previous with position := position } }

/-- The answer to a position behind the shift of the generations. -/
def answerShift (shifted : Display) : Bool × Display :=
  let moved := decide (shifted.current.position ≠ shifted.previous.position)
  if !shifted.pendingInterlaced && !moved then
    (false, shifted)
  else if shifted.pendingInterlaced && moved then
    (true, { shifted.updateCorners with heldFrames := shifted.heldFrames - 1 })
  else
    (true, shifted.updateCorners)

/-- A position sets both generations while there are seeds, and shifts them from then on. -/
theorem setPosition_eq (display : Display) (x y : Nat) (swapped : Bool) :
    let decoded := decodePosition display.lineFactor x y
    display.setPosition x y swapped =
      match display.seedsLeft with
      | seeds + 1 => (true, (display.withHeightOffset decoded.2).seedPosition decoded.1 seeds)
      | 0 =>
        answerShift ((display.withHeightOffset decoded.2).shiftPosition decoded.1 swapped) := by
  rfl

/-- Shifting the exchanged generations in the other order exchanges what is shifted. -/
theorem shiftPosition_exchanged (display : Display) (position : Point) (swapped : Bool) :
    display.exchanged.shiftPosition position (!swapped) =
      (display.shiftPosition position swapped).exchanged := by
  cases swapped <;> rfl

/-- Whether the display has moved does not depend on the order of its generations. -/
theorem answerShift_exchanged (shifted : Display) :
    answerShift shifted.exchanged =
      ((answerShift shifted).1, (answerShift shifted).2.exchanged) := by
  have hmoved :
      decide (shifted.exchanged.current.position ≠ shifted.exchanged.previous.position) =
        decide (shifted.current.position ≠ shifted.previous.position) :=
    decide_eq_decide.2 ne_comm
  have hpending : shifted.exchanged.pendingInterlaced = shifted.pendingInterlaced := rfl
  unfold answerShift
  dsimp only
  rw [hmoved, hpending]
  split
  · rfl
  · split
    · rfl
    · rfl

/-- A position in the other order gives the same answer, and exchanges the places behind it. -/
theorem setPosition_exchanged (display : Display) (x y : Nat) (swapped : Bool) :
    display.exchanged.setPosition x y (!swapped) =
      ((display.setPosition x y swapped).1, (display.setPosition x y swapped).2.exchanged) := by
  have hfactor : display.exchanged.lineFactor = display.lineFactor := rfl
  have hseeds : display.exchanged.seedsLeft = display.seedsLeft := rfl
  rw [setPosition_eq, setPosition_eq display, hfactor, hseeds]
  cases display.seedsLeft with
  | succ seeds => rfl
  | zero =>
      dsimp only
      rw [← answerShift_exchanged, ← shiftPosition_exchanged]
      rfl

/-! ## One command -/

/-- A range of lines changes the heights, and the corners of both generations alike. -/
theorem setLines_exchanged (display : Display) (y0 y1 : Nat) :
    display.exchanged.setLines y0 y1 =
      ((display.setLines y0 y1).1, (display.setLines y0 y1).2.exchanged) := by
  have hheight : display.exchanged.current.height = display.current.height := rfl
  have hoffset : display.exchanged.heightOffset = display.heightOffset := rfl
  unfold setLines
  rw [hheight, hoffset]
  dsimp only
  split
  · rfl
  · rfl

/-- A mode word that does not start interlacing leaves the places alone. -/
theorem stageMode_exchanged (display : Display) {word : UInt32}
    (hprogressive : Word.flag word 5 = false) :
    display.exchanged.stageMode word = (display.stageMode word).exchanged := by
  unfold stageMode
  rw [hprogressive]
  rfl

/-- A command in the other order exchanges the places behind it. -/
theorem apply_exchanged (display : Display) (swapped : Bool)
    (hprogressive : command.isInterlaced = false) :
    display.exchanged.apply (command.inOrder (!swapped)) =
      (display.apply (command.inOrder swapped)).exchanged := by
  cases command with
  | setPosition x y order => exact congrArg Prod.snd (setPosition_exchanged display x y swapped)
  | setLines y0 y1 => exact congrArg Prod.snd (setLines_exchanged display y0 y1)
  | setMode word => exact stageMode_exchanged display hprogressive
  | _ => rfl

/-- So do any commands. -/
theorem run_exchanged (display : Display) (swapped : Bool)
    (hprogressive : ∀ command ∈ commands, command.isInterlaced = false) :
    display.exchanged.run (commands.map (·.inOrder (!swapped))) =
      (display.run (commands.map (·.inOrder swapped))).exchanged := by
  induction commands generalizing display with
  | nil => rfl
  | cons command commands ih =>
      rw [List.forall_mem_cons] at hprogressive
      have hlater := ih (display.apply (command.inOrder swapped)) hprogressive.2
      rw [← apply_exchanged display swapped hprogressive.1] at hlater
      exact hlater

/-! ## Seeds -/

/-- Corners that are computed anew are the same where the positions are. -/
theorem joined_updateCorners (h : display.current.position = display.previous.position) :
    display.updateCorners.Joined := by
  refine ⟨h, ?_⟩
  simp only [updateCorners, h]

theorem seedsLeft_shiftPosition (display : Display) (position : Point) (swapped : Bool) :
    (display.shiftPosition position swapped).seedsLeft = display.seedsLeft := by
  cases swapped <;> rfl

/-- Answering a shift takes no seed. -/
theorem seedsLeft_answerShift (shifted : Display) :
    (answerShift shifted).2.seedsLeft = shifted.seedsLeft := by
  unfold answerShift
  dsimp only
  split
  · rfl
  · split
    · rfl
    · rfl

/-- Every position uses up a seed, and nothing else does. -/
theorem seedsLeft_apply (display : Display) (command : Command) :
    (display.apply command).seedsLeft = display.seedsLeft - command.isPosition.toNat := by
  cases command with
  | setPosition x y swapped =>
      rw [apply, setPosition_eq]
      cases hseeds : display.seedsLeft with
      | succ seeds => rfl
      | zero =>
          dsimp only
          rw [seedsLeft_answerShift, seedsLeft_shiftPosition]
          exact hseeds
  | setLines y0 y1 =>
      obtain ⟨_, _, _, _, _, hrest⟩ := display.setLines_rest y0 y1
      rw [apply, hrest]
      rfl
  | _ => rfl

/-- As long as there is a seed for every position, the generations stay joined. -/
theorem Joined.apply (h : display.Joined) (hprogressive : command.isInterlaced = false)
    (hseeded : command.isPosition.toNat ≤ display.seedsLeft) :
    (display.apply command).Joined := by
  cases command with
  | setPosition x y swapped =>
      obtain ⟨seeds, hseeds⟩ := Nat.exists_eq_add_of_le' hseeded
      rw [Display.apply, setPosition_eq, hseeds]
      exact joined_updateCorners rfl
  | setLines y0 y1 =>
      unfold Display.apply setLines
      dsimp only
      split
      · exact ⟨h.position, h.corner⟩
      · exact joined_updateCorners h.position
  | setMode word =>
      have hstays : (Word.flag word 5 && !display.pendingInterlaced) = false := by
        rw [show Word.flag word 5 = false from hprogressive, Bool.false_and]
      unfold Display.apply setMode stageMode
      dsimp only
      rw [hstays]
      exact ⟨h.position, h.corner⟩
  | commit => exact joined_updateCorners h.position
  | _ => exact ⟨h.position, h.corner⟩

/-- As long as there are seeds for all positions, progressive commands keep the generations
joined. -/
theorem Joined.run (h : display.Joined)
    (hprogressive : ∀ command ∈ commands, command.isInterlaced = false)
    (hseeded : commands.countP Command.isPosition ≤ display.seedsLeft) :
    (display.run commands).Joined := by
  induction commands generalizing display with
  | nil => exact h
  | cons command commands ih =>
      rw [List.forall_mem_cons] at hprogressive
      rw [List.countP_cons] at hseeded
      have hcount : command.isPosition.toNat = if command.isPosition = true then 1 else 0 := by
        cases command.isPosition <;> rfl
      refine ih (h.apply hprogressive.1 (by omega)) hprogressive.2 ?_
      rw [seedsLeft_apply]
      omega

/-! ## Both orders -/

/-- The order of the generations does not change how many positions there are. -/
theorem countP_inOrder (swapped : Bool) (commands : List Command) :
    (commands.map (·.inOrder swapped)).countP Command.isPosition =
      commands.countP Command.isPosition := by
  simp only [List.countP_map, Function.comp_def, isPosition_inOrder]

theorem progressive_inOrder (swapped : Bool)
    (hprogressive : ∀ command ∈ commands, command.isInterlaced = false) :
    ∀ command ∈ commands.map (·.inOrder swapped), command.isInterlaced = false := by
  rw [List.forall_mem_map]
  intro command hmem
  rw [isInterlaced_inOrder]
  exact hprogressive command hmem

/-- A display at power-on that is told the same in plain and in swapped generations, with no mode
word for interlaced output, has its two places exchanged: position and corner of each generation
are those of the other one, and everything else is the same.  Whatever position comes next, it gives
the same answer.  With no more than the two positions that set both generations, the displays are
the same, and so are the places of their generations. -/
theorem run_swapped {commands : List Command}
    (hprogressive : ∀ command ∈ commands, command.isInterlaced = false) :
    let plain := initial.run (commands.map (·.inOrder false))
    let swapped := initial.run (commands.map (·.inOrder true))
    swapped = plain.exchanged ∧ plain = swapped.exchanged ∧
      (∀ x y, (swapped.setPosition x y true).1 = (plain.setPosition x y false).1) ∧
      (commands.countP Command.isPosition ≤ 2 →
        swapped = plain ∧ plain.current.position = plain.previous.position ∧
          plain.current.corner = plain.previous.corner) := by
  intro plain swapped
  have hexchanged : swapped = plain.exchanged := by
    have hrun := run_exchanged initial false hprogressive
    rwa [joined_initial.exchanged_eq] at hrun
  refine ⟨hexchanged, ?_, fun x y => ?answer, fun hseeded => ?seeds⟩
  · rw [hexchanged, exchanged_exchanged]
  case answer =>
      have hanswer := congrArg Prod.fst (setPosition_exchanged plain x y false)
      rwa [← hexchanged] at hanswer
  case seeds =>
      have hplain : plain.Joined := by
        refine joined_initial.run (progressive_inOrder false hprogressive) ?_
        rwa [countP_inOrder]
      exact ⟨hexchanged.trans hplain.exchanged_eq, hplain.position, hplain.corner⟩

/-- Two seeds, a position in front of a new mode that is committed, and a column that is told twice
with different lines above the image, so that the corners stay behind. -/
theorem run_swapped_stale :
    let commands : List Command :=
      [.setEnabled false, .setPosition 0 0 false, .setPosition 16 0 false, .setPosition 64 8 false,
        .setMode 0x0D, .setLines 16 272, .commit, .setPosition 80 0x3F0 false,
        .setPosition 80 0x3E0 false]
    let plain := initial.run (commands.map (·.inOrder false))
    let swapped := initial.run (commands.map (·.inOrder true))
    (∀ command ∈ commands, command.isInterlaced = false) ∧ swapped = plain.exchanged ∧
      swapped ≠ plain ∧
      (swapped.setPosition 80 0 true).1 = (plain.setPosition 80 0 false).1 := by
  intro commands plain swapped
  have hprogressive : ∀ command ∈ commands, command.isInterlaced = false := by decide
  obtain ⟨hexchanged, -, hanswer, -⟩ := run_swapped hprogressive
  exact ⟨hprogressive, hexchanged, by decide, hanswer 80 0⟩

end GpuCore.Display
