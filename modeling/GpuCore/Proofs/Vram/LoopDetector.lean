import GpuCore.Vram.AddressHistory

/-!
# No false alarms

The loop detector keeps three addresses of all that it has seen, and it starts from the address
that ends a chain.  Whatever way the addresses jump, its brackets hold that address or addresses
that were visited, so that an address which is neither raises no alarm.

Main definitions:

- `AddressHistory.visitAll`: record addresses one after another.
- `AddressHistory.Recalls`: what the brackets can hold.

Main results:

- `AddressHistory.Recalls.visit`: a fresh address is recorded.
- `AddressHistory.exists_visitAll`: distinct addresses raise no alarm.
-/

namespace GpuCore.Vram.AddressHistory

/-- Record addresses one after another; `none` when one of them suggests a loop. -/
def visitAll (history : AddressHistory) : List UInt32 → Option AddressHistory
  | [] => some history
  | address :: addresses => (history.visit address).bind fun history => history.visitAll addresses

/-- The brackets hold visited addresses, or still the one that they start with. -/
structure Recalls (history : AddressHistory) (visited : List UInt32) : Prop where
  lower : history.lower ∈ 0xFFFFFF :: visited
  upper : history.upper ∈ 0xFFFFFF :: visited

variable {history : AddressHistory} {visited addresses : List UInt32} {address : UInt32}

theorem recalls_nil : Recalls {} [] :=
  ⟨List.mem_cons_self, List.mem_cons_self⟩

/-- A fresh address is recorded. -/
theorem Recalls.visit (h : history.Recalls visited) (hfresh : address ∉ 0xFFFFFF :: visited) :
    ∃ after, history.visit address = some after ∧ after.Recalls (address :: visited) := by
  have hlater {bracket : UInt32} (hbracket : bracket ∈ 0xFFFFFF :: visited) :
      bracket ∈ 0xFFFFFF :: address :: visited := by
    rcases List.mem_cons.1 hbracket with hstart | hvisited
    · rw [hstart]
      exact List.mem_cons_self
    · exact List.mem_cons_of_mem _ (List.mem_cons_of_mem _ hvisited)
  have hnew : address ∈ 0xFFFFFF :: address :: visited :=
    List.mem_cons_of_mem _ List.mem_cons_self
  have hquiet : ¬ (address = history.lower ∨ address = history.upper) := by
    rintro (rfl | rfl)
    · exact hfresh h.lower
    · exact hfresh h.upper
  unfold AddressHistory.visit
  rw [if_neg hquiet]
  split
  · exact ⟨_, rfl, hnew, hlater h.upper⟩
  · exact ⟨_, rfl, hlater h.lower, hnew⟩

/-- Fresh addresses are recorded when they are distinct. -/
theorem Recalls.visitAll (h : history.Recalls visited) (hdistinct : addresses.Nodup)
    (hfresh : ∀ address ∈ addresses, address ∉ 0xFFFFFF :: visited) :
    ∃ after, history.visitAll addresses = some after := by
  induction addresses generalizing history visited with
  | nil => exact ⟨history, rfl⟩
  | cons address addresses ih =>
      obtain ⟨hother, hdistinct⟩ := List.nodup_cons.1 hdistinct
      obtain ⟨next, hvisit, hnext⟩ := h.visit (hfresh address List.mem_cons_self)
      obtain ⟨after, hafter⟩ := ih hnext hdistinct fun later hlater => by
        have hbefore := hfresh later (List.mem_cons_of_mem _ hlater)
        have hne : later ≠ address := fun heq => hother (heq ▸ hlater)
        simp only [List.mem_cons, not_or] at hbefore ⊢
        exact ⟨hbefore.1, hne, hbefore.2⟩
      exact ⟨after, by rw [AddressHistory.visitAll, hvisit, Option.bind_some, hafter]⟩

/-- Distinct addresses raise no alarm, unless the address that ends a chain is among them. -/
theorem exists_visitAll (hdistinct : addresses.Nodup) (hend : 0xFFFFFF ∉ addresses) :
    ∃ after, visitAll {} addresses = some after := by
  refine recalls_nil.visitAll hdistinct fun address haddress hmem => ?_
  rw [List.mem_singleton] at hmem
  exact hend (hmem ▸ haddress)

end GpuCore.Vram.AddressHistory
