import GpuCore.Proofs.Packet.Grammar
import GpuCore.Proofs.Primitive.Slot

/-!
# The layout of lines

A flat line has a vertex in every slot behind the command word.  A shaded line has a color in every
even slot, that of the command word included, and a vertex in every odd one.  The word that ended a
polyline is no point of it, and a color without a vertex behind it is dropped.

Main definitions:

- `Line.isEnded`: the last word of a packet is the one that ended it.
- `Line.pointCount` and `Line.ofSlots`: the points of a line, and a line read off its slots.
- `Line.ReadsPacket`: the decoder takes a packet as it is.

Main results:

- `Line.flatPoints_eq` and `Line.shadedPoints_eq`: how far the decoder gets, and what it takes from
  which slot.
- `Line.readsPacket`: where a packet ends by the grammar, its decoder ends too.
-/

namespace GpuCore.Line

open Packet

/-! ## Layout -/

/-- Whether the last word of a packet is a terminator that ended it. -/
def isEnded (words : List UInt32) : Bool :=
  let opcode := Word.command (slot words 0)
  let last := words.length - 1
  isFlatPolyline opcode && endsFlat last (slot words last) ||
    isShadedPolyline opcode && endsShaded last (slot words last)

/-- Number of points: one for every vertex slot up to the word that ended the packet. -/
def pointCount (words : List UInt32) : Nat :=
  let filled := words.length - (isEnded words).toNat
  if Word.flag (slot words 0) 28 then filled / 2 else filled - 1

/-- Point number `index` of a line. -/
def pointAt (shaded : Bool) (words : List UInt32) (index : Nat) : LinePoint :=
  if shaded then
    ⟨.ofWord (slot words (2 * index + 1)), .ofWord (slot words (2 * index))⟩
  else
    ⟨.ofWord (slot words (index + 1)), .ofWord (slot words 0)⟩

/-- A line of so many points, read off the slots of a packet. -/
def withPoints (words : List UInt32) (count : Nat) : Line :=
  let command := slot words 0
  let shaded := Word.flag command 28
  { points := (List.range count).map (pointAt shaded words)
    shaded
    polyline := Word.flag command 27
    semiTransparent := Word.flag command 25 }

/-- The line of a packet, read off its slots. -/
def ofSlots (words : List UInt32) : Line :=
  withPoints words (pointCount words)

@[simp]
theorem length_points_ofSlots (words : List UInt32) :
    (ofSlots words).points.length = pointCount words := by
  simp [ofSlots, withPoints]

/-- The decoder makes a line of a packet, with all its points.  It knows by itself where a packet
ends that is no polyline or has a terminator, so that what follows makes no difference, and it needs
all words of a single line. -/
structure ReadsPacket (words : List UInt32) : Prop where
  decodes : decode? words = some (ofSlots words)
  two_le : 2 ≤ (ofSlots words).points.length
  stops : (ofSlots words).polyline = false ∨ isEnded words = true →
    ∀ rest, decode? (words ++ rest) = some (ofSlots words)
  needs : (ofSlots words).polyline = false →
    ∀ count < words.length, decode? (words.take count) = none

/-! ## Reading points -/

/-- A flat line takes a point from every slot before the one at which it ends. -/
theorem flatPoints_eq {polyline : Bool} (color : Color) {count number : Nat} {words : List UInt32}
    (hroom : number ≤ words.length)
    (hgoes : ∀ index < number, endsBefore polyline (count + index) (slot words index) = false)
    (hstops : words.length = number ∨
      endsBefore polyline (count + number) (slot words number) = true) :
    flatPoints polyline color count words =
      (List.range number).map fun index => ⟨.ofWord (slot words index), color⟩ := by
  induction number generalizing count words with
  | zero =>
      cases words with
      | nil => rfl
      | cons vertex words =>
          rcases hstops with hempty | hends
          · simp at hempty
          · rw [flatPoints, if_pos (by simpa using hends)]
            rfl
  | succ number ih =>
      cases words with
      | nil => simp at hroom
      | cons vertex words =>
          have hfirst := hgoes 0 (by omega)
          have hlater := @ih (count + 1) words (by simpa using hroom)
            (fun index hindex => by
              simpa [Nat.add_assoc, Nat.add_comm 1] using hgoes (index + 1) (by omega))
            (by simpa [Nat.add_assoc, Nat.add_comm 1] using hstops)
          rw [flatPoints, if_neg (by simpa using hfirst), hlater, List.range_succ_eq_map]
          simp [Function.comp_def]

/-- A shaded line takes a point from every pair of slots before the color at which it ends. -/
theorem shadedPoints_eq {polyline : Bool} {count number : Nat} {words : List UInt32}
    (hroom : 2 * number ≤ words.length)
    (hgoes : ∀ index < number,
      endsBefore polyline (count + index) (slot words (2 * index)) = false)
    (hstops : words.length ≤ 2 * number + 1 ∨
      endsBefore polyline (count + number) (slot words (2 * number)) = true) :
    shadedPoints polyline count words =
      (List.range number).map fun index =>
        ⟨.ofWord (slot words (2 * index + 1)), .ofWord (slot words (2 * index))⟩ := by
  induction number generalizing count words with
  | zero =>
      rcases words with _ | ⟨color, _ | ⟨vertex, words⟩⟩
      · rfl
      · rfl
      · rcases hstops with hshort | hends
        · simp at hshort
        · rw [shadedPoints, if_pos (by simpa using hends)]
          rfl
  | succ number ih =>
      rcases words with _ | ⟨color, _ | ⟨vertex, words⟩⟩
      · simp at hroom
      · rw [List.length_singleton] at hroom
        omega
      · have hfirst := hgoes 0 (by omega)
        have hlater := @ih (count + 1) words
          (by simp only [List.length_cons] at hroom; omega)
          (fun index hindex => by
            simpa [Nat.mul_add, Nat.add_assoc, Nat.add_comm 1] using hgoes (index + 1) (by omega))
          (by
            simp only [List.length_cons, Nat.mul_add, slot_cons_succ] at hstops
            simp only [Nat.add_assoc, Nat.add_comm 1]
            refine hstops.imp (by omega) id)
        rw [shadedPoints, if_neg (by simpa using hfirst), hlater, List.range_succ_eq_map]
        simp [Function.comp_def, Nat.mul_add]

/-! ## Decoding -/

variable {command : UInt32} {rest : List UInt32} {number : Nat}

/-- Two points make a line. -/
theorem decode?_of_points (htwo : 2 ≤ number)
    (hpoints : pointsOf (Word.flag command 28) (Word.flag command 27) (.ofWord command) rest =
      (List.range number).map (pointAt (Word.flag command 28) (command :: rest))) :
    decode? (command :: rest) = some (withPoints (command :: rest) number) := by
  simp only [decode?, hpoints, List.length_map, List.length_range]
  rw [if_neg (by omega)]
  rfl

/-- The decoder makes a flat line of the vertices before the slot at which it ends. -/
theorem decode?_flat (hflat : Word.flag command 28 = false) (htwo : 2 ≤ number)
    (hroom : number ≤ rest.length)
    (hgoes : ∀ index < number,
      endsBefore (Word.flag command 27) index (slot (command :: rest) (index + 1)) = false)
    (hstops : rest.length = number ∨
      endsBefore (Word.flag command 27) number (slot (command :: rest) (number + 1)) = true) :
    decode? (command :: rest) = some (withPoints (command :: rest) number) := by
  refine decode?_of_points htwo ?_
  rw [hflat]
  simp only [slot_cons_succ] at hgoes hstops
  have hpoints := @flatPoints_eq (Word.flag command 27) (.ofWord command) 0 number rest hroom
    (by simpa using hgoes) (by simpa using hstops)
  rw [pointsOf, hpoints]
  refine List.map_congr_left fun index _ => ?_
  simp [pointAt]

/-- The decoder makes a shaded line of the pairs of a color and a vertex before the slot at which
it ends. -/
theorem decode?_shaded (hshaded : Word.flag command 28 = true) (htwo : 2 ≤ number)
    (hroom : 2 * number ≤ rest.length + 1)
    (hgoes : ∀ index < number,
      endsBefore (Word.flag command 27) index (slot (command :: rest) (2 * index)) = false)
    (hstops : rest.length ≤ 2 * number ∨
      endsBefore (Word.flag command 27) number (slot (command :: rest) (2 * number)) = true) :
    decode? (command :: rest) = some (withPoints (command :: rest) number) := by
  refine decode?_of_points htwo ?_
  rw [hshaded]
  -- The command word is the color of the first vertex; the pairs begin behind that.
  obtain ⟨pairs, rfl⟩ : ∃ pairs, number = pairs + 1 := ⟨number - 1, by omega⟩
  cases rest with
  | nil => simp at hroom; omega
  | cons vertex rest =>
      have hslot (index : Nat) :
          slot (command :: vertex :: rest) (2 * (index + 1)) = slot rest (2 * index) := by
        simp [Nat.mul_add]
      have hpoints := @shadedPoints_eq (Word.flag command 27) 1 pairs rest
        (by simp only [List.length_cons] at hroom; omega)
        (fun index hindex => by
          simpa [hslot, Nat.add_comm 1] using hgoes (index + 1) (by omega))
        (by
          rw [hslot, Nat.add_comm pairs] at hstops
          exact hstops.imp (fun hshort => by rw [List.length_cons] at hshort; omega) id)
      rw [List.range_succ_eq_map]
      simp [pointsOf, pointAt, hpoints, Function.comp_def, Nat.mul_add]

/-- A line does not depend on the words behind the slots of its points. -/
theorem withPoints_append {words : List UInt32}
    (hroom : (if Word.flag (slot words 0) 28 then 2 * number else number + 1) ≤ words.length)
    (hpos : 0 < words.length) (more : List UInt32) :
    withPoints (words ++ more) number = withPoints words number := by
  have hcommand : slot (words ++ more) 0 = slot words 0 := slot_append hpos more
  have hpoints : ∀ index ∈ List.range number,
      pointAt (Word.flag (slot words 0) 28) (words ++ more) index =
        pointAt (Word.flag (slot words 0) 28) words index := by
    intro index hindex
    have hlt := List.mem_range.1 hindex
    unfold pointAt
    split
    · next hshaded =>
        rw [if_pos hshaded] at hroom
        rw [slot_append (by omega), slot_append (by omega)]
    · next hflat =>
        rw [if_neg hflat] at hroom
        rw [slot_append (by omega), slot_append (by omega)]
  simp only [withPoints, hcommand]
  rw [List.map_congr_left hpoints]

/-! ## Kinds of lines -/

/-- A terminator that ends a flat polyline is one before which its decoder ends. -/
theorem endsBefore_flat (index : Nat) (word : UInt32) :
    endsBefore true index word = endsFlat (index + 1) word := by
  simp [endsBefore, endsFlat]

/-- A terminator that ends a shaded polyline is one before which its decoder ends. -/
theorem endsBefore_shaded (index : Nat) (word : UInt32) :
    endsBefore true index word = endsShaded (2 * index) word := by
  have hiff : 2 ≤ index ↔ 4 ≤ 2 * index := by omega
  simp [endsBefore, endsShaded, hiff]

/-- The opcode tells single lines, flat and shaded polylines apart as the flags do. -/
theorem kinds (hkind : 0x40 ≤ Word.command command ∧ Word.command command ≤ 0x5F) :
    isFlatPolyline (Word.command command) =
        (Word.flag command 27 && !Word.flag command 28) ∧
      isShadedPolyline (Word.command command) =
        (Word.flag command 27 && Word.flag command 28) ∧
      (length (Word.command command) ≠ 0 → Word.flag command 27 = false →
        length (Word.command command) = 3 + (Word.flag command 28).toNat) := by
  have hbit (i : Nat) (hi : i < 8) := (Word.testBit_command command hi).symm
  have htable : ∀ code : Fin 256, 0x40 ≤ code.val ∧ code.val ≤ 0x5F →
      (decide (0x48 ≤ code.val) && decide (code.val ≤ 0x4F)) =
          (code.val.testBit 3 && !code.val.testBit 4) ∧
        (decide (0x58 ≤ code.val) && decide (code.val ≤ 0x5F)) =
          (code.val.testBit 3 && code.val.testBit 4) ∧
        (lengths.get code ≠ 0 → code.val.testBit 3 = false →
          lengths.get code = 3 + (code.val.testBit 4).toNat) := by
    decide +kernel
  rw [hbit 4 (by decide), hbit 3 (by decide), isFlatPolyline, isShadedPolyline]
  simp only [UInt8.le_iff_toNat_le] at hkind ⊢
  exact htable ⟨_, (Word.command command).toNat_lt⟩ hkind

/-! ## Whole packets -/

/-- It suffices to decode the packet with what may follow it. -/
theorem ReadsPacket.of_decode {words : List UInt32} (hcount : pointCount words = number)
    (htwo : 2 ≤ number)
    (hdecode : ∀ more, more = [] ∨ Word.flag (slot words 0) 27 = false ∨ isEnded words = true →
      decode? (words ++ more) = some (withPoints words number))
    (hneeds : Word.flag (slot words 0) 27 = false →
      ∀ count < words.length, decode? (words.take count) = none) :
    ReadsPacket words := by
  have hslots : ofSlots words = withPoints words number := by rw [ofSlots, hcount]
  refine ⟨?_, ?_, fun hcloses more => ?_, hneeds⟩
  · simpa [hslots] using hdecode [] (.inl rfl)
  · simpa [hslots, withPoints] using htwo
  · rw [hslots]
    exact hdecode more (.inr hcloses)

/-- A slot of a packet holds a word of it. -/
theorem slot_eq_getElem {words : List UInt32} {index : Nat} (h : index < words.length) :
    slot words index = words[index] := by
  simp [slot, h]

/-- With a word less, the second vertex of a single line is missing. -/
theorem needs_of_single (hlength : rest.length = 2 + (Word.flag command 28).toNat) :
    ∀ count < (command :: rest).length, decode? ((command :: rest).take count) = none := by
  intro count hfewer
  rw [List.length_cons] at hfewer
  cases hshaded : Word.flag command 28
  · rw [hshaded, Bool.toNat_false] at hlength
    obtain ⟨first, second, rfl⟩ : ∃ first second, rest = [first, second] := by
      rcases rest with _ | ⟨first, _ | ⟨second, _ | ⟨third, rest⟩⟩⟩ <;> simp at hlength ⊢
    rcases count with _ | _ | _ | count
    · rfl
    · simp [decode?, pointsOf, hshaded, flatPoints]
    · simp [decode?, pointsOf, hshaded, flatPoints, endsBefore]
    · omega
  · rw [hshaded, Bool.toNat_true] at hlength
    obtain ⟨first, color, second, rfl⟩ : ∃ first color second, rest = [first, color, second] := by
      rcases rest with _ | ⟨first, _ | ⟨color, _ | ⟨second, _ | ⟨third, rest⟩⟩⟩⟩ <;>
        simp at hlength ⊢
    rcases count with _ | _ | _ | _ | count
    · rfl
    · simp [decode?, pointsOf, hshaded]
    · simp [decode?, pointsOf, hshaded, shadedPoints]
    · simp [decode?, pointsOf, hshaded, shadedPoints]
    · omega

/-- A single line has two points, for which all its words are needed. -/
theorem readsPacket_single (hsingle : Word.flag command 27 = false)
    (hlength : rest.length = 2 + (Word.flag command 28).toNat)
    (hended : isEnded (command :: rest) = false) : ReadsPacket (command :: rest) := by
  have hcount : pointCount (command :: rest) = 2 := by
    cases hshaded : Word.flag command 28 <;> simp [pointCount, hended, hshaded, hlength]
  have hroom : (if Word.flag (slot (command :: rest) 0) 28 then 2 * 2 else 2 + 1) ≤
      (command :: rest).length := by
    cases hshaded : Word.flag command 28 <;> simp [hshaded, hlength]
  -- A single line goes on to its second point, whatever the words are, and ends there.
  have hgoes (more : List UInt32) (index : Nat) (hindex : index < 2) (place : Nat) :
      endsBefore (Word.flag command 27) index (slot (command :: (rest ++ more)) place) = false := by
    simp [endsBefore, Nat.not_le.2 hindex]
  have hstops (word : UInt32) : endsBefore (Word.flag command 27) 2 word = true := by
    simp [endsBefore, hsingle]
  refine .of_decode hcount (Nat.le_refl 2) (fun more _ => ?_) fun _ => needs_of_single hlength
  rw [← withPoints_append hroom (by simp) more, List.cons_append]
  have hlonger : (rest ++ more).length = 2 + (Word.flag command 28).toNat + more.length := by
    rw [List.length_append, hlength]
  cases hshaded : Word.flag command 28
  · refine decode?_flat hshaded (Nat.le_refl 2) ?_ (fun index hindex => hgoes more index hindex _)
      (.inr (hstops _))
    omega
  · refine decode?_shaded hshaded (Nat.le_refl 2) ?_
      (fun index hindex => hgoes more index hindex _) (.inr (hstops _))
    rw [hlonger, hshaded, Bool.toNat_true]
    omega

section Polyline

variable {ends : Nat → UInt32 → Bool} {limit : Nat}

/-- In a packet that ends at its last word no earlier word is a terminator. -/
theorem not_ends_before (huntil : wordsUntil ends limit (command :: rest) = rest.length + 1)
    {index : Nat} (hindex : index < rest.length) :
    ends index (slot (command :: rest) index) = false := by
  have hlt : index < (command :: rest).length := by
    rw [List.length_cons]
    omega
  rw [slot_eq_getElem hlt]
  have hbefore : index + 1 < wordsUntil ends limit (command :: rest) := by omega
  exact not_ends_of_lt_wordsUntil hbefore hlt

/-- A packet that ends at its last word, which is no terminator, has all the words there can be. -/
theorem eq_limit_of_not_ends (huntil : wordsUntil ends limit (command :: rest) = rest.length + 1)
    (hlast : ends rest.length (slot (command :: rest) rest.length) = false) :
    rest.length + 1 = limit := by
  have hle := wordsUntil_le ends limit (command :: rest)
  have hnot : ¬ rest.length + 1 < limit := by
    intro hearly
    have hends := ends_of_wordsUntil_eq huntil hearly (by simp)
    rw [← slot_eq_getElem, hlast] at hends
    contradiction
  omega

/-- A polyline needs no word in particular. -/
theorem needs_of_polyline (hpolyline : Word.flag command 27 = true) :
    Word.flag (slot (command :: rest) 0) 27 = false →
      ∀ count < (command :: rest).length, decode? ((command :: rest).take count) = none := by
  intro hsingle
  rw [slot_cons_zero, hpolyline] at hsingle
  contradiction

/-- Only a terminator keeps a polyline from going on. -/
theorem more_eq_nil (hpolyline : Word.flag command 27 = true)
    (hends : isEnded (command :: rest) = false) {more : List UInt32}
    (hmore : more = [] ∨ Word.flag (slot (command :: rest) 0) 27 = false ∨
      isEnded (command :: rest) = true) : more = [] := by
  simpa [hpolyline, hends] using hmore

/-- A flat polyline has a point for every vertex slot up to its terminator or the last slot. -/
theorem readsPacket_flat (hflat : Word.flag command 28 = false)
    (hpolyline : Word.flag command 27 = true)
    (hended : isEnded (command :: rest) =
      endsFlat rest.length (slot (command :: rest) rest.length))
    (huntil : wordsUntil endsFlat 254 (command :: rest) = rest.length + 1) :
    ReadsPacket (command :: rest) := by
  cases hends : isEnded (command :: rest)
  · have hlast : endsFlat rest.length (slot (command :: rest) rest.length) = false := by
      rw [← hended, hends]
    have hfull := eq_limit_of_not_ends huntil hlast
    have hcount : pointCount (command :: rest) = rest.length := by
      simp [pointCount, hends, hflat]
    refine .of_decode hcount (by omega) (fun more hmore => ?_) (needs_of_polyline hpolyline)
    rw [more_eq_nil hpolyline hends hmore, List.append_nil]
    refine decode?_flat hflat (by omega) (Nat.le_refl _) (fun index hindex => ?_) (.inl rfl)
    rw [hpolyline, endsBefore_flat]
    by_cases hbehind : index + 1 = rest.length
    · rw [hbehind, hlast]
    · exact not_ends_before huntil (by omega)
  · have hlast : endsFlat rest.length (slot (command :: rest) rest.length) = true := by
      rw [← hended, hends]
    have hlong : 3 ≤ rest.length := by
      simp only [endsFlat, Bool.and_eq_true, decide_eq_true_eq] at hlast
      exact hlast.1
    obtain ⟨number, hnumber⟩ : ∃ number, rest.length = number + 1 := ⟨rest.length - 1, by omega⟩
    have hcount : pointCount (command :: rest) = number := by
      simp [pointCount, hends, hflat, hnumber]
    refine .of_decode hcount (by omega) (fun more _ => ?_) (needs_of_polyline hpolyline)
    rw [← withPoints_append (by simp [hflat, hnumber]) (by simp) more, List.cons_append]
    have hroom : number ≤ (rest ++ more).length := by
      rw [List.length_append]
      omega
    refine decode?_flat hflat (by omega) hroom (fun index hindex => ?_) (.inr ?_)
    · rw [hpolyline, endsBefore_flat, slot_cons_append (by omega)]
      exact not_ends_before huntil (by omega)
    · rw [hpolyline, endsBefore_flat, slot_cons_append (by omega), ← hnumber]
      exact hlast

/-- A shaded polyline has a point for every vertex slot up to its terminator; a color in the last
slot has no vertex. -/
theorem readsPacket_shaded (hshaded : Word.flag command 28 = true)
    (hpolyline : Word.flag command 27 = true)
    (hended : isEnded (command :: rest) =
      endsShaded rest.length (slot (command :: rest) rest.length))
    (huntil : wordsUntil endsShaded 255 (command :: rest) = rest.length + 1) :
    ReadsPacket (command :: rest) := by
  cases hends : isEnded (command :: rest)
  · have hlast : endsShaded rest.length (slot (command :: rest) rest.length) = false := by
      rw [← hended, hends]
    have hfull := eq_limit_of_not_ends huntil hlast
    have hcount : pointCount (command :: rest) = 127 := by
      rw [pointCount, hends, slot_cons_zero, hshaded, List.length_cons, hfull]
      rfl
    refine .of_decode hcount (by omega) (fun more hmore => ?_) (needs_of_polyline hpolyline)
    rw [more_eq_nil hpolyline hends hmore, List.append_nil]
    refine decode?_shaded hshaded (by omega) (by omega) (fun index hindex => ?_) (.inl (by omega))
    rw [hpolyline, endsBefore_shaded]
    exact not_ends_before huntil (by omega)
  · have hlast : endsShaded rest.length (slot (command :: rest) rest.length) = true := by
      rw [← hended, hends]
    obtain ⟨hlong, heven⟩ : 4 ≤ rest.length ∧ rest.length % 2 = 0 := by
      simp only [endsShaded, Bool.and_eq_true, decide_eq_true_eq, beq_iff_eq] at hlast
      exact hlast.1
    obtain ⟨number, hnumber⟩ : ∃ number, rest.length = 2 * number :=
      ⟨rest.length / 2, by omega⟩
    have hcount : pointCount (command :: rest) = number := by
      simp [pointCount, hends, hshaded, hnumber]
    refine .of_decode hcount (by omega) (fun more _ => ?_) (needs_of_polyline hpolyline)
    rw [← withPoints_append (by simp [hshaded, hnumber]) (by simp) more, List.cons_append]
    have hroom : 2 * number ≤ (rest ++ more).length + 1 := by
      rw [List.length_append]
      omega
    refine decode?_shaded hshaded (by omega) hroom (fun index hindex => ?_) (.inr ?_)
    · rw [hpolyline, endsBefore_shaded, slot_cons_append (by omega)]
      exact not_ends_before huntil (by omega)
    · rw [hpolyline, endsBefore_shaded, ← hnumber, slot_cons_append (Nat.le_refl _)]
      exact hlast

end Polyline

/-- The word that ended a packet is looked for among the last words of polylines only. -/
theorem isEnded_cons (command : UInt32) (rest : List UInt32) :
    isEnded (command :: rest) =
      (isFlatPolyline (Word.command command) &&
          endsFlat rest.length (slot (command :: rest) rest.length) ||
        isShadedPolyline (Word.command command) &&
          endsShaded rest.length (slot (command :: rest) rest.length)) := by
  simp [isEnded]

/-- A polyline that no terminator ended has as many points as there is room for. -/
theorem pointCount_of_not_isEnded
    (hkind : 0x40 ≤ Word.command command ∧ Word.command command ≤ 0x5F)
    (hspan : span command rest = rest.length + 1) (hends : isEnded (command :: rest) = false) :
    (isFlatPolyline (Word.command command) = true → pointCount (command :: rest) = 253) ∧
      (isShadedPolyline (Word.command command) = true → pointCount (command :: rest) = 127) := by
  obtain ⟨hisFlat, hisShaded, _⟩ := kinds hkind
  have hlast := hends
  rw [isEnded_cons, Bool.or_eq_false_iff] at hlast
  unfold span at hspan
  constructor
  · intro hflat
    rw [hflat, Bool.true_and] at hlast
    rw [if_pos hflat] at hspan
    rw [hflat, eq_comm, Bool.and_eq_true, Bool.not_eq_true'] at hisFlat
    have hfull : rest.length = 253 := Nat.succ.inj (eq_limit_of_not_ends hspan hlast.1)
    simp [pointCount, hends, hisFlat.2, hfull]
  · intro hshaded
    rw [hshaded, Bool.true_and] at hlast
    rw [hshaded, eq_comm, Bool.and_eq_true] at hisShaded
    have hnot : ¬ isFlatPolyline (Word.command command) = true := by
      simp [hisFlat, hisShaded.2]
    rw [if_neg hnot, if_pos hshaded] at hspan
    have hfull := eq_limit_of_not_ends hspan hlast.2
    simp [pointCount, hends, hisShaded.2, hfull]

/-- Where a packet ends by the grammar, the decoder of lines ends too. -/
theorem readsPacket (hkind : 0x40 ≤ Word.command command ∧ Word.command command ≤ 0x5F)
    (hlength : length (Word.command command) ≠ 0)
    (hspan : span command rest = rest.length + 1) : ReadsPacket (command :: rest) := by
  obtain ⟨hisFlat, hisShaded, hsingle⟩ := kinds hkind
  unfold span at hspan
  have hended := isEnded_cons command rest
  cases hpolyline : Word.flag command 27
  · rw [hpolyline, Bool.false_and] at hisFlat hisShaded
    rw [hisFlat, hisShaded] at hended
    rw [hisFlat, hisShaded, if_neg Bool.false_ne_true, if_neg Bool.false_ne_true,
      hsingle hlength hpolyline] at hspan
    exact readsPacket_single hpolyline (by omega) (by simpa using hended)
  · cases hshaded : Word.flag command 28
    · rw [hpolyline, hshaded] at hisFlat hisShaded
      rw [hisFlat, hisShaded] at hended
      rw [hisFlat, if_pos (by decide)] at hspan
      exact readsPacket_flat hshaded hpolyline (by simpa using hended) hspan
    · rw [hpolyline, hshaded] at hisFlat hisShaded
      rw [hisFlat, hisShaded] at hended
      rw [hisFlat, hisShaded, if_neg (by decide), if_pos (by decide)] at hspan
      exact readsPacket_shaded hshaded hpolyline (by simpa using hended) hspan

end GpuCore.Line
