import GpuCore.Display

/-!
# The lower right corner of the display

The lower right corner of the displayed area follows from position, size and height offset, and it
is kept until a command computes it anew.  The size never changes without that.  A position may be
set without it: the command looks only at whether the two generations differ behind the change, so
that it overlooks a new height offset, and with swapped generations also a new position.

Main definitions:

- `Display.Command`, `Display.apply` and `Display.run`: what the display is told, and the display
  behind it.
- `Display.recomputes` and `Display.settled`: the commands that compute the corners, and the display
  behind the last of them.
- `Display.dueCorner`: the corner that position, size and height offset ask for.

Main results:

- `Display.corner_of_recomputes` and `Display.corner_of_keeps`: the corner behind one command.
- `Display.corner_eq_dueCorner_iff`: the corner behind any commands, and when it is the right one.
-/

namespace GpuCore.Display

/-! ## Commands -/

/-- What the display is told. -/
inductive Command where
  | setPosition (x y : Nat) (swapped : Bool)
  | setColumns (x0 x1 : Nat)
  | setLines (y0 y1 : Nat)
  | setMode (word : UInt32)
  | setEnabled (disabled : Bool)
  | commit
  | setAreaTopLeft (x y : Nat)
  | setAreaBottomRight (x y : Nat)
  | setDrawOffset (offset : Point)
deriving DecidableEq, Repr, Inhabited

/-- A position that is set in swapped generations. -/
def Command.swaps : Command → Bool
  | setPosition _ _ swapped => swapped
  | _ => false

/-- The display behind a command. -/
def apply (display : Display) : Command → Display
  | .setPosition x y swapped => (display.setPosition x y swapped).2
  | .setColumns x0 x1 => display.setColumns x0 x1
  | .setLines y0 y1 => (display.setLines y0 y1).2
  | .setMode word => (display.setMode word {}).2.1
  | .setEnabled disabled => (display.setEnabled disabled {}).1
  | .commit => display.commit
  | .setAreaTopLeft x y => display.setAreaTopLeft x y
  | .setAreaBottomRight x y => display.setAreaBottomRight x y
  | .setDrawOffset offset => display.setDrawOffset offset

/-- The display behind commands. -/
def run (display : Display) (commands : List Command) : Display :=
  commands.foldl apply display

/-- Whether a command computes the corners anew, which a new position and new lines answer. -/
def recomputes (display : Display) : Command → Bool
  | .setPosition x y swapped => (display.setPosition x y swapped).1
  | .setLines y0 y1 => (display.setLines y0 y1).1
  | .commit => true
  | _ => false

/-- The display behind the last command that computed the corners, or else `last`. -/
def settledFrom (last display : Display) : List Command → Display
  | [] => last
  | command :: commands =>
    let after := display.apply command
    settledFrom (if display.recomputes command then after else last) after commands

/-- The display behind the last of some commands that computed the corners. -/
def settled (display : Display) (commands : List Command) : Display :=
  display.settledFrom display commands

/-- The lower right corner that position, size and height offset ask for. -/
def dueCorner (display : Display) : Point where
  x := display.current.position.x + display.size.x
  y := display.current.position.y + display.size.y + display.heightOffset

variable {display : Display} {command : Command} {commands : List Command}

/-! ## One command -/

/-- A position either computes the corners anew, or it is set without that because both generations
have the same position then. -/
theorem setPosition_cases (display : Display) (x y : Nat) (swapped : Bool) :
    let answer := display.setPosition x y swapped
    let decoded := decodePosition display.lineFactor x y
    answer.1 = true ∧ answer.2.current.corner = answer.2.dueCorner ∨
      answer.1 = false ∧
        answer.2 = shiftPosition { display with heightOffset := decoded.2 } decoded.1 swapped ∧
        answer.2.current.position = answer.2.previous.position := by
  intro answer decoded
  have hanswer : answer = display.setPosition x y swapped := rfl
  unfold setPosition at hanswer
  dsimp only at hanswer
  split at hanswer
  · rw [hanswer]
    exact .inl ⟨rfl, rfl⟩
  · split at hanswer
    · next hstill =>
        rw [hanswer]
        refine .inr ⟨rfl, rfl, ?_⟩
        simpa using (Bool.and_eq_true_iff.1 hstill).2
    · split at hanswer
      · rw [hanswer]
        exact .inl ⟨rfl, rfl⟩
      · rw [hanswer]
        exact .inl ⟨rfl, rfl⟩

/-- A command that computes the corners computes the right one. -/
theorem corner_of_recomputes (hrecomputes : display.recomputes command = true) :
    (display.apply command).current.corner = (display.apply command).dueCorner := by
  cases command with
  | setPosition x y swapped =>
      rcases setPosition_cases display x y swapped with ⟨-, hcorner⟩ | ⟨hfalse, -⟩
      · exact hcorner
      · rw [recomputes, hfalse] at hrecomputes
        cases hrecomputes
  | setLines y0 y1 =>
      simp only [recomputes, apply, setLines] at hrecomputes ⊢
      split
      · next hsame => simp [hsame] at hrecomputes
      · rfl
  | commit => rfl
  | _ => cases hrecomputes

/-- Every other command keeps the corner and the size. -/
theorem corner_of_keeps (hkeeps : display.recomputes command = false) :
    (display.apply command).current.corner = display.current.corner ∧
      (display.apply command).size = display.size := by
  cases command with
  | setPosition x y swapped =>
      rcases setPosition_cases display x y swapped with ⟨htrue, -⟩ | ⟨-, hshifted, -⟩
      · rw [recomputes, htrue] at hkeeps
        cases hkeeps
      · rw [apply, hshifted]
        cases swapped with
        | true => exact ⟨rfl, rfl⟩
        | false => exact ⟨rfl, rfl⟩
  | setLines y0 y1 =>
      simp only [recomputes, apply, setLines] at hkeeps ⊢
      split
      · exact ⟨rfl, rfl⟩
      · next hchanged => simp [hchanged] at hkeeps
  | commit => cases hkeeps
  | _ => exact ⟨rfl, rfl⟩

/-- Only a position that is set in swapped generations moves the display without computing the
corners. -/
theorem position_of_keeps (hkeeps : display.recomputes command = false)
    (hplain : command.swaps = false) :
    (display.apply command).current.position = display.current.position := by
  cases command with
  | setPosition x y swapped =>
      have hswapped : swapped = false := hplain
      subst hswapped
      rcases setPosition_cases display x y false with ⟨htrue, -⟩ | ⟨-, hshifted, hstill⟩
      · rw [recomputes, htrue] at hkeeps
        cases hkeeps
      · rw [apply, hstill, hshifted]
        rfl
  | setLines y0 y1 =>
      simp only [apply, setLines]
      split
      · rfl
      · rfl
  | commit => rfl
  | _ => rfl

/-- Only positions change what the corner is computed from without computing it. -/
theorem dueCorner_of_keeps (hkeeps : display.recomputes command = false)
    (hother : ∀ x y swapped, command ≠ .setPosition x y swapped) :
    (display.apply command).dueCorner = display.dueCorner := by
  cases command with
  | setPosition x y swapped => exact absurd rfl (hother x y swapped)
  | setLines y0 y1 =>
      simp only [recomputes, apply, setLines] at hkeeps ⊢
      split
      · rfl
      · next hchanged => simp [hchanged] at hkeeps
  | commit => cases hkeeps
  | _ => rfl

/-! ## Many commands -/

/-- A display with the corner of another one, and of the same size. -/
structure CornerOf (last display : Display) : Prop where
  corner : display.current.corner = last.dueCorner
  size : display.size = last.size

/-- The corner is the one that was due when it was computed last. -/
theorem CornerOf.run {last : Display} (h : CornerOf last display) (commands : List Command) :
    CornerOf (settledFrom last display commands) (display.run commands) := by
  induction commands generalizing last display with
  | nil => exact h
  | cons command commands ih =>
      refine ih ?_
      cases hrecomputes : display.recomputes command with
      | true => exact ⟨corner_of_recomputes hrecomputes, rfl⟩
      | false =>
          obtain ⟨hcorner, hsize⟩ := corner_of_keeps hrecomputes
          exact ⟨hcorner.trans h.corner, hsize.trans h.size⟩

/-- Without swapped positions, the display has not moved since then. -/
theorem position_run {last : Display} (h : display.current.position = last.current.position)
    (hplain : ∀ command ∈ commands, command.swaps = false) :
    (display.run commands).current.position =
      (settledFrom last display commands).current.position := by
  induction commands generalizing last display with
  | nil => exact h
  | cons command commands ih =>
      refine ih ?_ fun later hlater => hplain later (List.mem_cons_of_mem _ hlater)
      cases hrecomputes : display.recomputes command with
      | true => rfl
      | false =>
          have hkept := position_of_keeps hrecomputes (hplain command List.mem_cons_self)
          exact hkept.trans h

/-- As long as every position computes the corners, the corner is the right one. -/
theorem corner_run (h : display.current.corner = display.dueCorner)
    (hpositions : ∀ before x y swapped after,
      commands = before ++ .setPosition x y swapped :: after →
        (display.run before).recomputes (.setPosition x y swapped) = true) :
    (display.run commands).current.corner = (display.run commands).dueCorner := by
  induction commands generalizing display with
  | nil => exact h
  | cons command commands ih =>
      refine ih ?_ fun before x y swapped after hsplit =>
        hpositions (command :: before) x y swapped after (by rw [hsplit]; rfl)
      cases hrecomputes : display.recomputes command with
      | true => exact corner_of_recomputes hrecomputes
      | false =>
          have hother : ∀ x y swapped, command ≠ .setPosition x y swapped := by
            rintro x y swapped rfl
            have hfirst := hpositions [] x y swapped commands rfl
            rw [show display.run [] = display from rfl, hrecomputes] at hfirst
            cases hfirst
          rw [(corner_of_keeps hrecomputes).1, h, dueCorner_of_keeps hrecomputes hother]

/-- Two displays of the same size have the same corner due if they lie at the same place. -/
theorem dueCorner_eq_iff {other : Display} (hsize : display.size = other.size) :
    display.dueCorner = other.dueCorner ↔
      display.current.position.x = other.current.position.x ∧
        display.current.position.y + display.heightOffset =
          other.current.position.y + other.heightOffset := by
  simp only [dueCorner, Point.mk.injEq, hsize]
  omega

/-- After any commands to a display at power-on, the lower right corner is the one that was due when
the corners were computed last.  It is the right one if every position that was set had the corners
computed, and otherwise exactly if column and lower line are still what they were then.  The
position itself is, unless one was set in swapped generations. -/
theorem corner_eq_dueCorner_iff (commands : List Command) :
    let display := initial.run commands
    let last := initial.settled commands
    display.current.corner = last.dueCorner ∧ display.size = last.size ∧
      (display.current.corner = display.dueCorner ↔
        display.current.position.x = last.current.position.x ∧
          display.current.position.y + display.heightOffset =
            last.current.position.y + last.heightOffset) ∧
      ((∀ before x y swapped after, commands = before ++ .setPosition x y swapped :: after →
          (initial.run before).recomputes (.setPosition x y swapped) = true) →
        display.current.corner = display.dueCorner) ∧
      ((∀ command ∈ commands, command.swaps = false) →
        display.current.position = last.current.position) := by
  intro display last
  have hinitial : CornerOf initial initial := ⟨rfl, rfl⟩
  obtain ⟨hcorner, hsize⟩ := hinitial.run commands
  refine ⟨hcorner, hsize, ?_, corner_run rfl, position_run rfl⟩
  have hplace := dueCorner_eq_iff hsize
  rw [hcorner, eq_comm]
  exact hplace

/-- In swapped generations, a position that is set twice moves the display without computing the
corners: it lies at column 64 then, and ends where it ended at column 0.  Nor does a new height
offset move the lower line of a display that stays where it is. -/
theorem corner_ne_dueCorner :
    let before := initial.run [.setPosition 0 0 true, .setPosition 0 0 true, .setPosition 64 0 true]
    let display := before.apply (.setPosition 64 0 true)
    let offset := initial.run
      [.setPosition 0 0 false, .setPosition 0 0 false, .setPosition 0 0x3F0 false]
    before.recomputes (.setPosition 64 0 true) = false ∧
      before.current.position = ⟨0, 0⟩ ∧ display.current.position = ⟨64, 0⟩ ∧
      display.current.corner = ⟨256, 240⟩ ∧ display.dueCorner = ⟨320, 240⟩ ∧
      offset.heightOffset = -16 ∧ offset.current.corner = ⟨256, 240⟩ ∧
      offset.dueCorner = ⟨256, 224⟩ := by
  decide

end GpuCore.Display
