import GpuCore.Proofs.Control.Slots
import GpuCore.Proofs.DataChannel.Chunking
import GpuCore.Proofs.Freeze.Replay
import GpuCore.Proofs.Status.Polling
import GpuCore.Session

/-!
# Polling in sessions with saved states

A record holds the status word but not the number of busy reads left, and thawing leaves none.  A
program that waits for the processor is therefore answered in a session exactly as long as every
record that is taken over shows the processor available.

Main definitions:

- `Session.Sound`: control slots hold words of their own opcodes, in all records too.

Main results:

- `Session.sound_step`: every step keeps a session sound.
- `Session.load_cases`: what a step takes over.
- `Session.pollable_iff_taken`: no session is stuck on busy exactly when every record that was
  taken over shows the processor available.
-/

namespace GpuCore.Session

/-! ## Sound sessions -/

/-- Every control slot, of the processor and of the records, holds zero or a word of its own
opcode. -/
structure Sound (session : Session) : Prop where
  slots : Gpu.OwnSlots session.gpu.control
  records : ∀ record ∈ session.records, Gpu.OwnSlots record.control

theorem sound_start (settings : Settings) (pacer : Pacing.Pacer) :
    (start settings pacer).Sound where
  slots := Gpu.ownSlots_replicate
  records := fun _ hrecord => absurd hrecord List.not_mem_nil

/-- A load either takes a saved record over or leaves the processor alone. -/
theorem load_cases (session : Session) (index : Nat) :
    session.taken? (.load index) = none ∧ session.load index = session ∨
      ∃ record ∈ session.records, session.taken? (.load index) = some record ∧
        session.load index = { session with gpu := session.gpu.thaw record } := by
  cases hindex : session.records[index]? with
  | none =>
      refine .inl ⟨?_, ?_⟩
      · rw [taken?, hindex, Option.filter_none]
      · rw [load, hindex]
  | some record =>
      have hmem := List.mem_of_getElem? hindex
      cases session.gpu.restore_cases record with
      | inl hthawed =>
          refine .inr ⟨record, hmem, ?_, ?_⟩
          · rw [taken?, hindex, Option.filter_some, hthawed]
            rfl
          · rw [load, hindex]
            dsimp only
            rw [hthawed]
      | inr hrefused =>
          obtain ⟨fault, hrefused⟩ := hrefused
          refine .inl ⟨?_, ?_⟩
          · rw [taken?, hindex, Option.filter_some, hrefused]
            rfl
          · rw [load, hindex]
            dsimp only
            rw [hrefused]

/-- A save takes the control slots over. -/
theorem save_cases (session : Session) :
    session.save = session ∨
      session.save = { session with records := session.records ++ [session.gpu.record] } := by
  unfold save Gpu.snapshot
  split
  · next hsaved =>
      split at hsaved
      · cases hsaved
        exact .inr rfl
      · contradiction
  · exact .inl rfl

/-- Every step keeps a session sound. -/
theorem sound_step {session : Session} (h : session.Sound) (step : Step) :
    (session.step step).Sound := by
  cases step with
  | operate operation hlive => exact ⟨Gpu.ownSlots_apply h.slots operation hlive, h.records⟩
  | save =>
      cases session.save_cases with
      | inl hsame => rwa [Session.step, hsame]
      | inr hsaved =>
          rw [Session.step, hsaved]
          refine ⟨h.slots, fun record hrecord => ?_⟩
          rw [List.mem_append, List.mem_singleton] at hrecord
          cases hrecord with
          | inl hold => exact h.records record hold
          | inr hnew =>
              rw [hnew]
              exact h.slots
  | load index =>
      rcases session.load_cases index with ⟨-, hsame⟩ | ⟨record, hrecord, -, hloaded⟩
      · rwa [Session.step, hsame]
      · rw [Session.step, hloaded]
        exact ⟨h.records record hrecord, h.records⟩

/-! ## Polling -/

/-- A step that takes no record over keeps the alternation up. -/
theorem alternates_step {session : Session} (h : session.gpu.status.Alternates) {step : Step}
    (hnone : session.taken? step = none) : (session.step step).gpu.status.Alternates := by
  cases step with
  | operate operation hlive => exact Gpu.alternates_apply h operation hlive
  | save =>
      cases session.save_cases with
      | inl hsame => rwa [Session.step, hsame]
      | inr hsaved =>
          rw [Session.step, hsaved]
          exact h
  | load index =>
      rcases session.load_cases index with ⟨-, hsame⟩ | ⟨record, -, htaken, -⟩
      · rwa [Session.step, hsame]
      · rw [htaken] at hnone
        contradiction

/-- A step that takes a record over leaves no busy read and the status word of the record. -/
theorem status_step {session : Session} (h : session.Sound) {step : Step}
    {record : Freeze.Record} (htaken : session.taken? step = some record) :
    (session.step step).gpu.status.busyReads = 0 ∧
      (session.step step).gpu.status.word = record.status := by
  cases step with
  | operate operation hlive => contradiction
  | save => contradiction
  | load index =>
      rcases session.load_cases index with ⟨hnone, -⟩ | ⟨loaded, hloaded, hsome, hstep⟩
      · rw [hnone] at htaken
        contradiction
      · rw [hsome] at htaken
        cases htaken
        rw [Session.step, hstep]
        exact ⟨Gpu.busyReads_thaw session.gpu (h.records record hloaded).reset, rfl⟩

/-- As long as the alternation is up, a run goes on without a stuck session exactly when every
record that it takes over shows the processor available. -/
theorem pollable_trace_iff {session : Session} (h : session.Sound)
    (halternates : session.gpu.status.Alternates) (steps : List Step) :
    (∀ reached ∈ session.trace steps, reached.gpu.status.Pollable) ↔
      ∀ record ∈ session.taken steps, Status.ShowsAvailable record.status := by
  induction steps generalizing session with
  | nil =>
      rw [trace, taken, List.forall_mem_singleton]
      exact ⟨fun _ _ hrecord => absurd hrecord List.not_mem_nil, fun _ => halternates.pollable⟩
  | cons step steps ih =>
      have hnext := sound_step h step
      rw [trace, taken, List.forall_mem_cons, List.forall_mem_append]
      cases htaken : session.taken? step with
      | none =>
          have hrest := ih hnext (alternates_step halternates htaken)
          rw [hrest, Option.toList_none]
          exact ⟨fun hall => ⟨fun _ hrecord => absurd hrecord List.not_mem_nil, hall.2⟩,
            fun hall => ⟨halternates.pollable, hall.2⟩⟩
      | some record =>
          obtain ⟨hreads, hword⟩ := status_step h htaken
          have hshows : (session.step step).gpu.status.IsAvailable ↔
              Status.ShowsAvailable record.status := by
            rw [Status.IsAvailable, hword]
          -- the next session has no busy read left, so that it is stuck unless the record shows
          -- the processor available
          have hrest : (∀ reached ∈ (session.step step).trace steps,
              reached.gpu.status.Pollable) ↔
                Status.ShowsAvailable record.status ∧
                  ∀ record ∈ (session.step step).taken steps,
                    Status.ShowsAvailable record.status := by
            constructor
            · intro hall
              have havailable := hall _ (mem_trace _ steps) hreads
              exact ⟨hshows.1 havailable, (ih hnext havailable.alternates).1 hall⟩
            · intro hall
              exact (ih hnext (hshows.2 hall.1).alternates).2 hall.2
          rw [hrest, Option.toList_some, List.forall_mem_singleton]
          exact ⟨fun hall => hall.2, fun hall => ⟨halternates.pollable, hall⟩⟩

/-- In a session of any steps, no state is stuck on busy exactly when every record that is taken
over shows the processor available.  In each state, a program that polls is answered by one of the
next two reads or, if the state is stuck, by no read at all. -/
theorem pollable_iff_taken (settings : Settings) (pacer : Pacing.Pacer) (steps : List Step) :
    ((∀ session ∈ (start settings pacer).trace steps, session.gpu.status.Pollable) ↔
        ∀ record ∈ (start settings pacer).taken steps, Status.ShowsAvailable record.status) ∧
      ∀ session ∈ (start settings pacer).trace steps,
        (session.gpu.status.Pollable ↔
          Status.ShowsAvailable session.gpu.readStatus.1 ∨
            Status.ShowsAvailable session.gpu.readStatus.2.readStatus.1) ∧
        (¬ session.gpu.status.Pollable → ∀ reads, ¬ Status.ShowsAvailable
          (session.gpu.run (List.replicate reads .readStatus)).readStatus.1) := by
  refine ⟨?_, fun session _ => ⟨?_, ?_⟩⟩
  · exact pollable_trace_iff (sound_start settings pacer)
      Status.isAvailable_powerOn.alternates steps
  · exact session.gpu.pollable_iff_readStatus
  · exact Gpu.readStatus_of_not_pollable

theorem taken_operate (session : Session) (operation : Operation)
    (hlive : operation.restores = false) (steps : List Step) :
    session.taken (.operate operation hlive :: steps) =
      ({ session with gpu := session.gpu.apply operation } : Session).taken steps :=
  rfl

/-- A record that is restored right after it was saved is taken over. -/
theorem taken_save_load {session : Session} (hinitialized : session.gpu.isInitialized = true) :
    session.taken [.save, .load session.records.length] = [session.gpu.record] := by
  have hsaved : session.save =
      { session with records := session.records ++ [session.gpu.record] } := by
    rw [save, Gpu.snapshot, if_pos hinitialized]
  have hrestored : session.gpu.restore session.gpu.record = (.ok (), _) :=
    Gpu.restore_of_fits hinitialized rfl (Gpu.size_record_pixels hinitialized)
  have htaken : session.save.taken? (.load session.records.length) = some session.gpu.record := by
    rw [hsaved, taken?, List.getElem?_concat_length, Option.filter_some, hrestored]
    rfl
  rw [taken, taken, taken, Session.step, htaken]
  rfl

/-- A polygon, a status read, a save in the middle of the pretended busy sequence, and a load: the
busy bits are back, the sequence is not, and the session is stuck for good. -/
theorem stuck_after_load :
    let steps : List Step :=
      [.operate .powerOn (by decide),
        .operate (.writeData [0x200000FF, 0, 0x10, 0x00100000]) (by decide),
        .operate .readStatus (by decide), .save, .load 0]
    ∃ session ∈ (start { fixes := .fakeBusy } (.create {} 1000000)).trace steps,
      session.gpu.status.busyReads = 0 ∧ ¬ session.gpu.status.IsAvailable ∧
        ∀ reads, ¬ Status.ShowsAvailable
          (session.gpu.run (List.replicate reads .readStatus)).readStatus.1 := by
  intro steps
  let started := (Gpu.create { fixes := .fakeBusy } (.create {} 1000000)).powerOn
  let busy := (started.takeChunk [0x200000FF, 0, 0x10, 0x00100000]).readStatus.2
  have hstarted : started.isInitialized = true := Gpu.powerOn_isInitialized _
  have hbusy : busy.isInitialized = true := by
    rw [Gpu.isInitialized_readStatus, Gpu.takeChunk_isInitialized]
    exact hstarted
  have hstatus : busy.status = ⟨0x00802000, 3⟩ := by decide +kernel
  have htaken : (start { fixes := .fakeBusy } (.create {} 1000000)).taken steps =
      [busy.record] := by
    have hsaved : ({ gpu := busy } : Session).taken [.save, .load 0] = [busy.record] :=
      taken_save_load hbusy
    rw [taken_operate, taken_operate, taken_operate, start, Gpu.apply, Gpu.apply, Gpu.apply,
      Gpu.writeData_of_isInitialized hstarted]
    exact hsaved
  have hstuck : ¬ ∀ session ∈ (start { fixes := .fakeBusy } (.create {} 1000000)).trace steps,
      session.gpu.status.Pollable := by
    rw [pollable_trace_iff (sound_start _ _) Status.isAvailable_powerOn.alternates, htaken,
      List.forall_mem_singleton]
    change ¬ Status.ShowsAvailable busy.status.word
    rw [hstatus]
    decide
  simp only [Status.Pollable, Classical.not_forall] at hstuck
  obtain ⟨session, hsession, hreads, havailable⟩ := hstuck
  refine ⟨session, hsession, hreads, havailable, Gpu.readStatus_of_not_pollable ?_⟩
  exact fun hpollable => havailable (hpollable hreads)

end GpuCore.Session
