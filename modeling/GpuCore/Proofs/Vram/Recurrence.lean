import GpuCore.Proofs.Vram.LoopDetector

/-!
# What the loop detector finds

The detector reports an address that was the last one reached on its way, down or up: it finds a
recurrence exactly if between the two visits of an address no other one was reached in the direction
of the first visit.  This holds of every sequence of addresses that keeps clear of the one that ends
a chain.

Main definitions:

- `goesDown`: whether an address of a sequence lies below the one in front of it.
- `LastOn`: the last address that was reached on one way.
- `Recurs`: an address that the detector finds.
- `AddressHistory.Tracks`: what the detector holds behind the first addresses of a sequence.

Main results:

- `AddressHistory.Tracks.visit_eq_none_iff` and `AddressHistory.Tracks.visit`: the next address is
  found, or the detector goes on.
- `AddressHistory.visitAll_eq_none_iff`: the first addresses of a sequence.
- `AddressHistory.exists_visitAll_le`: how far the detector goes.
-/

namespace GpuCore.Vram

/-! ## Ways -/

/-- The address in front of one of a sequence, which begins behind the address that ends a chain. -/
def addressBefore (addresses : Nat → UInt32) : Nat → UInt32
  | 0 => 0xFFFFFF
  | index + 1 => addresses index

/-- Whether an address of a sequence lies below the one in front of it. -/
def goesDown (addresses : Nat → UInt32) (index : Nat) : Bool :=
  addresses index < addressBefore addresses index

/-- Address number `index` is the last one among the first `count` that was reached downwards, or
not downwards. -/
structure LastOn (addresses : Nat → UInt32) (down : Bool) (count index : Nat) : Prop where
  lt : index < count
  way : goesDown addresses index = down
  others : ∀ later, index < later → later < count → goesDown addresses later ≠ down

/-- An address that was the last one reached on its way when it was visited before. -/
def Recurs (addresses : Nat → UInt32) (index : Nat) : Prop :=
  ∃ earlier, LastOn addresses (goesDown addresses earlier) index earlier ∧
    addresses earlier = addresses index

namespace LastOn

variable {addresses : Nat → UInt32} {down : Bool} {count index index' : Nat}

theorem unique (h : LastOn addresses down count index) (h' : LastOn addresses down count index') :
    index = index' := by
  rcases Nat.lt_trichotomy index index' with hlt | heq | hgt
  · exact absurd h'.way (h.others index' hlt h'.lt)
  · exact heq
  · exact absurd h.way (h'.others index hgt h.lt)

/-- The next address on the same way is the last one then. -/
theorem self (hway : goesDown addresses count = down) :
    LastOn addresses down (count + 1) count where
  lt := Nat.lt_succ_self count
  way := hway
  others later hlater hcount := by omega

/-- An address on the other way changes nothing. -/
theorem succ (h : LastOn addresses down count index) (hway : goesDown addresses count ≠ down) :
    LastOn addresses down (count + 1) index where
  lt := Nat.lt_succ_of_lt h.lt
  way := h.way
  others later hlater hcount := by
    rcases Nat.lt_succ_iff_lt_or_eq.1 hcount with hlt | rfl
    · exact h.others later hlater hlt
    · exact hway

end LastOn

namespace AddressHistory

variable {addresses : Nat → UInt32} {down : Bool} {count : Nat} {history after : AddressHistory}

/-! ## Brackets -/

/-- A bracket holds the last address that was reached on its way, or still the one that it starts
with. -/
def Holds (addresses : Nat → UInt32) (down : Bool) (count : Nat) (bracket : UInt32) : Prop :=
  (∃ index, LastOn addresses down count index ∧ addresses index = bracket) ∨
    bracket = 0xFFFFFF ∧ ∀ index < count, goesDown addresses index ≠ down

/-- The bracket of a way on which an address is the last one holds it. -/
theorem Holds.eq {bracket : UInt32} {index : Nat} (h : Holds addresses down count bracket)
    (hlast : LastOn addresses down count index) : addresses index = bracket := by
  rcases h with ⟨index', hlast', hbracket⟩ | ⟨-, hnone⟩
  · rw [hlast.unique hlast', hbracket]
  · exact absurd hlast.way (hnone index hlast.lt)

/-- An address on the other way leaves a bracket as it is. -/
theorem Holds.succ {bracket : UInt32} (h : Holds addresses down count bracket)
    (hway : goesDown addresses count ≠ down) : Holds addresses down (count + 1) bracket := by
  rcases h with ⟨index, hlast, hbracket⟩ | ⟨hstart, hnone⟩
  · exact .inl ⟨index, hlast.succ hway, hbracket⟩
  · refine .inr ⟨hstart, fun index hindex => ?_⟩
    rcases Nat.lt_succ_iff_lt_or_eq.1 hindex with hlt | rfl
    · exact hnone index hlt
    · exact hway

/-- The detector behind the first addresses of a sequence. -/
structure Tracks (addresses : Nat → UInt32) (count : Nat) (history : AddressHistory) : Prop where
  last : history.last = addressBefore addresses count
  lower : Holds addresses true count history.lower
  upper : Holds addresses false count history.upper

theorem tracks_start (addresses : Nat → UInt32) : Tracks addresses 0 {} where
  last := rfl
  lower := .inr ⟨rfl, fun index hindex => absurd hindex (Nat.not_lt_zero index)⟩
  upper := .inr ⟨rfl, fun index hindex => absurd hindex (Nat.not_lt_zero index)⟩

/-- An alarm is raised by the address of a bracket. -/
theorem visit_eq_none_iff (history : AddressHistory) (address : UInt32) :
    history.visit address = none ↔ address = history.lower ∨ address = history.upper := by
  unfold visit
  split
  · next hbracket => simp [hbracket]
  · next hquiet =>
      split
      · simp [hquiet]
      · simp [hquiet]

/-- The detector finds the recurrences, and nothing else. -/
theorem Tracks.visit_eq_none_iff (h : Tracks addresses count history)
    (hend : addresses count ≠ 0xFFFFFF) :
    history.visit (addresses count) = none ↔ Recurs addresses count := by
  rw [AddressHistory.visit_eq_none_iff]
  constructor
  · have hfound {down : Bool} {bracket : UInt32} (hbracket : Holds addresses down count bracket)
        (heq : addresses count = bracket) : Recurs addresses count := by
      rcases hbracket with ⟨index, hlast, hheld⟩ | ⟨hstart, -⟩
      · exact ⟨index, hlast.way.symm ▸ hlast, hheld.trans heq.symm⟩
      · exact absurd (heq.trans hstart) hend
    rintro (hlower | hupper)
    · exact hfound h.lower hlower
    · exact hfound h.upper hupper
  · rintro ⟨index, hlast, heq⟩
    cases hway : goesDown addresses index with
    | true =>
        rw [hway] at hlast
        exact .inl (heq.symm.trans (h.lower.eq hlast))
    | false =>
        rw [hway] at hlast
        exact .inr (heq.symm.trans (h.upper.eq hlast))

/-- Without an alarm the detector goes on to the next address. -/
theorem Tracks.visit (h : Tracks addresses count history)
    (hvisit : history.visit (addresses count) = some after) :
    Tracks addresses (count + 1) after := by
  unfold AddressHistory.visit at hvisit
  split at hvisit
  · cases hvisit
  · split at hvisit
    · next hdown =>
        have hway : goesDown addresses count = true := by
          simpa [goesDown, ← h.last] using hdown
        cases hvisit
        exact ⟨rfl, .inl ⟨count, .self hway, rfl⟩, h.upper.succ (by simp [hway])⟩
    · next hup =>
        have hway : goesDown addresses count = false := by
          simpa [goesDown, ← h.last] using hup
        cases hvisit
        exact ⟨rfl, h.lower.succ (by simp [hway]), .inl ⟨count, .self hway, rfl⟩⟩

/-! ## Many addresses -/

theorem visitAll_append (history : AddressHistory) (first second : List UInt32) :
    history.visitAll (first ++ second) =
      (history.visitAll first).bind fun history => history.visitAll second := by
  induction first generalizing history with
  | nil => rfl
  | cons address first ih =>
      simp only [List.cons_append, visitAll, ih, Option.bind_assoc]

/-- One address more. -/
theorem visitAll_range_succ (history : AddressHistory) (addresses : Nat → UInt32) (count : Nat) :
    history.visitAll ((List.range (count + 1)).map addresses) =
      (history.visitAll ((List.range count).map addresses)).bind
        fun history => history.visit (addresses count) := by
  rw [List.range_succ, List.map_append, visitAll_append]
  simp [visitAll]

/-- A detector goes through the first addresses of a sequence up to a limit, or up to its first
alarm. -/
theorem exists_visitAll_le (history : AddressHistory) (addresses : Nat → UInt32) (limit : Nat) :
    ∃ count ≤ limit, ∃ after,
      history.visitAll ((List.range count).map addresses) = some after ∧
      (count = limit ∨ after.visit (addresses count) = none) := by
  induction limit with
  | zero => exact ⟨0, Nat.le_refl 0, history, rfl, .inl rfl⟩
  | succ limit ih =>
      obtain ⟨count, hcount, after, hvisited, hend⟩ := ih
      cases hvisit : after.visit (addresses count) with
      | none => exact ⟨count, Nat.le_succ_of_le hcount, after, hvisited, .inr hvisit⟩
      | some next =>
          obtain rfl : count = limit := hend.resolve_right (by rw [hvisit]; simp)
          refine ⟨count + 1, Nat.le_refl _, next, ?_, .inl rfl⟩
          rw [visitAll_range_succ, hvisited, Option.bind_some, hvisit]

/-- The first addresses of a sequence raise an alarm, or the detector has gone through them. -/
theorem visitAll_range (hend : ∀ index, addresses index ≠ 0xFFFFFF) (count : Nat) :
    (∃ index < count, Recurs addresses index) ∧
        visitAll {} ((List.range count).map addresses) = none ∨
      (∀ index < count, ¬ Recurs addresses index) ∧
        ∃ history, visitAll {} ((List.range count).map addresses) = some history ∧
          Tracks addresses count history := by
  induction count with
  | zero =>
      exact .inr ⟨fun index hindex => absurd hindex (Nat.not_lt_zero index), {}, rfl,
        tracks_start addresses⟩
  | succ count ih =>
      rw [visitAll_range_succ]
      rcases ih with ⟨⟨index, hindex, hrecurs⟩, halarm⟩ | ⟨hquiet, history, hvisited, htracks⟩
      · exact .inl ⟨⟨index, Nat.lt_succ_of_lt hindex, hrecurs⟩, by rw [halarm, Option.bind_none]⟩
      · have hnext := htracks.visit_eq_none_iff (hend count)
        rw [hvisited, Option.bind_some]
        cases hvisit : history.visit (addresses count) with
        | none => exact .inl ⟨⟨count, Nat.lt_succ_self count, hnext.1 hvisit⟩, rfl⟩
        | some after =>
            refine .inr ⟨fun index hindex hrecurs => ?_, after, rfl, htracks.visit hvisit⟩
            rcases Nat.lt_succ_iff_lt_or_eq.1 hindex with hlt | rfl
            · exact hquiet index hlt hrecurs
            · rw [hnext.2 hrecurs] at hvisit
              cases hvisit

/-- Among the first addresses of a sequence an alarm is raised if there is a recurrence. -/
theorem visitAll_eq_none_iff (hend : ∀ index, addresses index ≠ 0xFFFFFF) (count : Nat) :
    visitAll {} ((List.range count).map addresses) = none ↔
      ∃ index < count, Recurs addresses index := by
  rcases visitAll_range hend count with ⟨hrecurs, halarm⟩ | ⟨hquiet, history, hvisited, -⟩
  · exact ⟨fun _ => hrecurs, fun _ => halarm⟩
  · rw [hvisited]
    constructor
    · intro hnone
      cases hnone
    · rintro ⟨index, hindex, hrecurs⟩
      exact absurd hrecurs (hquiet index hindex)

end AddressHistory

end GpuCore.Vram
