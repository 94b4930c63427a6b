import GpuCore.Proofs.Vram.Access
import GpuCore.Vram.Cursor

/-!
# Folding cursors back

Folding a cursor back into the image is reduction modulo the size of the image.  The loops that do
it in machine words take off and put on whole images, which keeps the cursor congruent; they stop in
the image, and an image holds one number of every class.

Main definitions:

- `Memory.Reaches`: access through a cursor is access to one pixel.

Main results:

- `wrap_eq_wrap_iff`: cursors stand for one position exactly if they are congruent.
- `exists_foldWord?`: the loops end without an overflow, in the position that the cursor stands for.
- `reaches_wrap`: a cursor reaches the pixel of its position.
- `reduces_modulo_size`: what the loops compute, and what is read and written through a cursor.
-/

namespace GpuCore.Vram.Memory

variable {memory : Memory}

/-! ## Congruent cursors -/

/-- A cursor is congruent to the position it stands for. -/
theorem wrap_emod (memory : Memory) (cursor : Int) :
    (memory.wrap cursor : Int) % memory.size = cursor % memory.size := by
  have hsize : (0 : Int) < memory.size := by exact_mod_cast memory.height.pixels_pos
  have hnonneg := Int.emod_nonneg (cursor - margin) (Int.ne_of_gt hsize)
  have hcast : (memory.wrap cursor : Int) = margin + (cursor - margin) % memory.size := by
    rw [wrap]
    omega
  have hsum : (margin : Int) + (cursor - margin) = cursor := by omega
  rw [hcast, Int.add_emod_emod, hsum]

/-- Cursors stand for the same position exactly if they are congruent. -/
theorem wrap_eq_wrap_iff (first second : Int) :
    memory.wrap first = memory.wrap second ↔ first % memory.size = second % memory.size := by
  refine ⟨fun hsame => ?_, fun hcongruent => ?_⟩
  · rw [← wrap_emod, ← wrap_emod memory second, hsame]
  · rw [wrap, wrap, Int.sub_emod, hcongruent, ← Int.sub_emod]

/-- The position that a cursor stands for is the only one in the image that is congruent to it. -/
theorem eq_wrap_iff (position cursor : Int) :
    position = memory.wrap cursor ↔
      memory.start ≤ position ∧ position < memory.stop ∧
        position % memory.size = cursor % memory.size := by
  refine ⟨?_, fun ⟨hstart, hstop, hcongruent⟩ => ?_⟩
  · rintro rfl
    obtain ⟨hstart, hstop⟩ := memory.wrap_mem cursor
    exact ⟨by exact_mod_cast hstart, by exact_mod_cast hstop, memory.wrap_emod cursor⟩
  · obtain ⟨place, rfl⟩ := Int.eq_ofNat_of_zero_le (by omega : 0 ≤ position)
    rw [← (wrap_eq_wrap_iff _ _).2 hcongruent, wrap_of_mem]
    · exact Int.ofNat_le.1 hstart
    · exact Int.ofNat_lt.1 hstop

/-! ## The loops -/

/-- Taking images off gets in front of the end of the image and never overflows, by induction on the
rounds: a cursor behind the image is one that an image can be taken off. -/
theorem exists_lower? (memory : Memory) (cursor : Int64) :
    ∃ lowered, memory.lower? cursor = some lowered ∧ lowered.toInt < memory.stop ∧
      lowered.toInt % memory.size = cursor.toInt % memory.size := by
  have hstop := toInt_ofNat_of_le_stop (Nat.le_refl memory.stop)
  have hsize := toInt_ofNat_of_le_stop memory.size_le_stop
  have hfits := memory.size_le_stop
  fun_induction lower? memory cursor with
  | case1 cursor hbehind hlower =>
      rw [Int64.le_iff_toInt_le, hstop] at hbehind
      have hmost := cursor.toInt_le
      refine absurd hlower (subWord?_ne_none ?_ ?_)
      · rw [hsize, toInt_bounds.1]
        omega
      · rw [hsize]
        omega
  | case2 cursor hbehind lower hlower _ ih =>
      obtain ⟨lowered, hlowered, hbefore, hcongruent⟩ := ih
      refine ⟨lowered, hlowered, hbefore, ?_⟩
      rw [hcongruent, (toInt_lower hbehind hlower).1, Int.sub_emod_right]
  | case3 cursor hbehind =>
      rw [Int64.le_iff_toInt_le, hstop] at hbehind
      exact ⟨cursor, rfl, Int.lt_of_not_ge hbehind, rfl⟩

/-- Putting images on gets to the beginning of the image and not behind its end, and never
overflows, by induction on the rounds: a cursor before the image is one that an image can be put
on. -/
theorem exists_raise? (memory : Memory) {cursor : Int64} (hcursor : cursor.toInt < memory.stop) :
    ∃ raised, memory.raise? cursor = some raised ∧ memory.start ≤ raised.toInt ∧
      raised.toInt < memory.stop ∧ raised.toInt % memory.size = cursor.toInt % memory.size := by
  have hstart := toInt_ofNat_of_le_stop memory.start_le_stop
  have hsize := toInt_ofNat_of_le_stop memory.size_le_stop
  have hstop : (memory.stop : Int) = memory.start + memory.size := rfl
  have hfits := memory.stop_lt
  fun_induction raise? memory cursor with
  | case1 cursor hbefore hhigher =>
      rw [Int64.lt_iff_toInt_lt, hstart] at hbefore
      have hleast := cursor.le_toInt
      refine absurd hhigher (addWord?_ne_none ?_ ?_)
      · rw [hsize, toInt_bounds.1]
        omega
      · rw [hsize, toInt_bounds.2]
        omega
  | case2 cursor hbefore higher hhigher _ ih =>
      have hnext := (toInt_higher hbefore hhigher).1
      rw [Int64.lt_iff_toInt_lt, hstart] at hbefore
      obtain ⟨raised, hraised, hinside, hbehind, hcongruent⟩ := ih (by omega)
      refine ⟨raised, hraised, hinside, hbehind, ?_⟩
      rw [hcongruent, hnext, Int.add_emod_right]
  | case3 cursor hbefore =>
      rw [Int64.lt_iff_toInt_lt, hstart] at hbefore
      exact ⟨cursor, rfl, Int.le_of_not_gt hbefore, hcursor, rfl⟩

/-- The loops fold every word back to the position that it stands for. -/
theorem exists_foldWord? (memory : Memory) (cursor : Int64) :
    ∃ position, memory.foldWord? cursor = some position ∧
      position.toNat = memory.wrap cursor.toInt := by
  obtain ⟨lowered, hlowered, hbefore, hlow⟩ := memory.exists_lower? cursor
  obtain ⟨raised, hraised, hstart, hstop, hhigh⟩ := memory.exists_raise? hbefore
  refine ⟨raised.toUInt64, ?_, ?_⟩
  · rw [foldWord?, hlowered]
    simp only [Option.bind_eq_bind, Option.bind_some, hraised]
    rfl
  · have hposition : raised.toInt = memory.wrap cursor.toInt :=
      (eq_wrap_iff raised.toInt cursor.toInt).2 ⟨hstart, hstop, hhigh.trans hlow⟩
    have hnonneg : 0 ≤ raised := by
      rw [Int64.le_iff_toInt_le]
      exact Int.le_trans (Int.natCast_nonneg _) hstart
    rw [Int64.toNat_toUInt64_of_le hnonneg, Int64.toNatClampNeg, hposition, Int.toNat_natCast]

/-! ## Pixels -/

/-- Access through a cursor is access to one pixel of the image: it is the one that is read, and the
only cell of the buffer that writing may change. -/
structure Reaches (memory : Memory) (cursor : Int) (index : Nat) : Prop where
  inside : index < memory.pixels.size
  read : memory.pixels[index]? = some (memory.read cursor)
  write : ∀ pixel, (memory.write cursor pixel).pixels = memory.pixels.setIfInBounds index pixel
  size_cells : ∀ pixel, (memory.write cursor pixel).cells.size = memory.cells.size
  margins : ∀ pixel position, position < memory.start ∨ memory.stop ≤ position →
    (memory.write cursor pixel).cells[position]? = memory.cells[position]?

/-- Replacing an element of an array replaces it in a part of the array. -/
theorem extract_setIfInBounds {α : Type} (cells : Array α) {first last index : Nat}
    (hfirst : first ≤ index) (hlast : index < last) (value : α) :
    (cells.setIfInBounds index value).extract first last =
      (cells.extract first last).setIfInBounds (index - first) value := by
  obtain ⟨offset, rfl⟩ := Nat.exists_eq_add_of_le hfirst
  rw [Nat.add_sub_cancel_left]
  apply Array.ext_getElem?
  intro i
  simp only [Array.getElem?_extract, Array.getElem?_setIfInBounds, Array.size_extract,
    Array.size_setIfInBounds, Nat.add_right_inj]
  by_cases hsame : offset = i
  · subst hsame
    rw [if_pos rfl, if_pos rfl]
    by_cases hinside : first + offset < cells.size
    · rw [if_pos (by omega), if_pos hinside, if_pos (by omega)]
    · rw [if_neg (by omega), if_neg (by omega)]
  · rw [if_neg hsame, if_neg hsame]

/-- A cursor reaches the pixel whose number is its distance from the beginning of the image. -/
theorem reaches_wrap (hinit : memory.isAllocated = true) (cursor : Int) :
    memory.Reaches cursor (memory.wrap cursor - memory.start) := by
  obtain ⟨hstart, hstop⟩ := memory.wrap_mem cursor
  have hindex : memory.wrap cursor - memory.start < memory.size := by
    rw [stop] at hstop
    rw [start] at hstart ⊢
    omega
  have hplace : margin + (memory.wrap cursor - memory.start) = memory.wrap cursor :=
    Nat.add_sub_cancel' hstart
  have hread : memory.read (memory.wrap cursor : Nat) = memory.read cursor := by
    rw [read, read, wrap_of_mem hstart hstop]
  refine ⟨?inside, ?read, fun pixel => ?write, fun pixel => ?size,
    fun pixel position hout => ?margins⟩
  case inside => rwa [size_pixels hinit]
  case read => rw [getElem?_pixels hinit _ hindex, hplace, hread]
  case write => exact extract_setIfInBounds memory.cells hstart hstop pixel
  case size => exact (sameShape_write memory cursor pixel).2
  case margins =>
      have hother : memory.wrap cursor ≠ position := by omega
      rw [write, Array.getElem?_setIfInBounds_ne hother]

/-- Folding a cursor back is reduction modulo the size of the image. -/
theorem reduces_modulo_size (hinit : memory.isAllocated = true) (cursor : Int64) :
    (∃ position, memory.foldWord? cursor = some position ∧
      position.toNat = memory.wrap cursor.toInt) ∧
    (∀ position : Int, position = memory.wrap cursor.toInt ↔
      memory.start ≤ position ∧ position < memory.stop ∧
        position % memory.size = cursor.toInt % memory.size) ∧
    (∀ (images : Int) (moved : Int64), moved.toInt = cursor.toInt + images * memory.size →
      memory.foldWord? moved = memory.foldWord? cursor) ∧
    memory.Reaches cursor.toInt (memory.wrap cursor.toInt - memory.start) ∧
    ∀ (pixel : UInt16) (other : Int64),
      (memory.write cursor.toInt pixel).read other.toInt =
        if cursor.toInt % memory.size = other.toInt % memory.size then pixel
        else memory.read other.toInt := by
  refine ⟨memory.exists_foldWord? cursor, fun position => eq_wrap_iff position cursor.toInt,
    fun images moved hmoved => ?images, reaches_wrap hinit cursor.toInt,
    fun pixel other => ?exchange⟩
  case images =>
      obtain ⟨position, hposition, hwrap⟩ := memory.exists_foldWord? cursor
      obtain ⟨position', hposition', hwrap'⟩ := memory.exists_foldWord? moved
      have hsame : memory.wrap moved.toInt = memory.wrap cursor.toInt := by
        rw [wrap_eq_wrap_iff, hmoved, Int.add_mul_emod_self_right]
      rw [hposition, hposition', Option.some_inj]
      exact UInt64.toNat_inj.1 (hwrap'.trans (hsame.trans hwrap.symm))
  case exchange =>
      rw [read_write hinit]
      simp only [wrap_eq_wrap_iff]

/-- The least cursor of all stands for the first pixel of the middle line. -/
theorem reduces_modulo_size_least :
    ((Memory.allocate .standard).foldWord? Int64.minValue).map UInt64.toNat = some 524288 ∧
      (Memory.allocate .standard).Reaches Int64.minValue.toInt 262144 := by
  have hwrap : (Memory.allocate .standard).wrap Int64.minValue.toInt = 524288 := by decide
  obtain ⟨⟨position, hposition, hplace⟩, -, -, hreaches, -⟩ :=
    reduces_modulo_size (allocate_isAllocated .standard) Int64.minValue
  refine ⟨?_, ?_⟩
  · rw [hposition, Option.map_some, hplace, hwrap]
  · rw [hwrap] at hreaches
    exact hreaches

end GpuCore.Vram.Memory
