import GpuCore.Operation
import GpuCore.Proofs.Chain.Path
import GpuCore.Proofs.DataChannel.Chunking
import GpuCore.Proofs.Ports.DataSide
import GpuCore.Proofs.Vram.LoopDetector

/-!
# Walking a chain delivers its blocks

Along a chain that ends, the loop detector stays silent, and the walk does what writing the data of
the blocks does, one after another, and showing the processor as idle.  Any other walk delivers a
part of its chain, and ends too.

Main definitions:

- `Gpu.withHistory`: the same state with other addresses in the loop detector.
- `Chain.writes` and `Gpu.delivered`: the writes that a path asks for, and the state after them.

Main results:

- `Gpu.takeChunk_withHistory`: data words do not concern the loop detector.
- `Gpu.walkChain_path`: a walk along a path, behind which it goes on.
- `Gpu.walkChain_whole`: a walk along a path that leads to the end of the chain.
- `Gpu.exists_walkChain`: any walk goes along some path.
- `Gpu.followChain_delivers`: a whole chain, and any chain.
-/

namespace GpuCore

/-- The writes to the data channel that the blocks of a path ask for: one for every block that has
data. -/
def Chain.writes (blocks : List Block) : List Operation :=
  (blocks.filter fun block => !block.words.isEmpty).map fun block => .writeData block.words

namespace Gpu

open Vram Chain

/-! ## The loop detector -/

/-- The same state with other addresses in the loop detector. -/
def withHistory (gpu : Gpu) (history : AddressHistory) : Gpu :=
  { gpu with vram := gpu.vram.withHistory history }

/-- States that agree but for what they have told, and have told the same, are equal. -/
theorem eq_of_clearEvents {left right : Gpu} (h : left.clearEvents = right.clearEvents)
    (hevents : left.events = right.events) : left = right := by
  cases left
  cases right
  simp only [clearEvents, mk.injEq, and_true] at h hevents ⊢
  simp only [h, hevents, and_self]

/-- Data words do not concern the loop detector. -/
theorem takeChunk_withHistory (gpu : Gpu) (history : AddressHistory) (words : List UInt32) :
    (gpu.withHistory history).takeChunk words = (gpu.takeChunk words).withHistory history := by
  have hplain : Beside #[] gpu gpu gpu :=
    { Joined.refl gpu with events := Array.empty_append.symm }
  have hother : Beside #[] gpu (gpu.withHistory history) (gpu.withHistory history) :=
    { hplain with vram := rfl }
  have htaken := actsOnData_takeChunk words hother
  have hmoved := actsOnData_takeChunk words hplain
  have hwith : Joined (gpu.takeChunk words) (gpu.withHistory history)
      ((gpu.takeChunk words).withHistory history) :=
    { hmoved.toJoined with vram := rfl }
  exact eq_of_clearEvents (htaken.toJoined.unique hwith)
    (htaken.events.trans hmoved.events.symm)

theorem takeBlock_withHistory (gpu : Gpu) (history : AddressHistory) (words : List UInt32) :
    (gpu.withHistory history).takeBlock words = (gpu.takeBlock words).withHistory history := by
  unfold takeBlock
  split
  · rfl
  · exact takeChunk_withHistory gpu history words

/-- Addresses are cut in the same way after a block. -/
theorem chainAddress_takeBlock (gpu : Gpu) (words : List UInt32) :
    (gpu.takeBlock words).chainAddress = gpu.chainAddress := by
  funext address
  rw [chainAddress, (dataFrame_takeBlock gpu words).shape.1]
  rfl

/-! ## Paths -/

/-- The data of the blocks of a path, one block after another. -/
def takeBlocks (gpu : Gpu) (blocks : List Block) : Gpu :=
  blocks.foldl (fun gpu block => gpu.takeBlock block.words) gpu

variable {memory : Array UInt32} {cut : UInt32 → UInt32} {address : UInt32} {blocks : List Block}
  {next : Option UInt32} {gpu : Gpu}

/-- A step of a walk, when the loop detector stays silent. -/
theorem walkChain_step (hcut : gpu.chainAddress = cut) {history after : AddressHistory}
    (hvisit : history.visit (cut address) = some after) (limit : Nat) :
    walkChain memory (limit + 1) address (gpu.withHistory history) =
      match block? memory (cut address) with
      | none => gpu.withHistory after
      | some (header, words) =>
        if header.next = terminator then
          (gpu.takeBlock words).withHistory after
        else
          walkChain memory limit header.next ((gpu.takeBlock words).withHistory after) := by
  have haddress : (gpu.withHistory history).chainAddress address = cut address :=
    congrFun hcut address
  have hvisited : (gpu.withHistory history).vram.visit (cut address) =
      (false, gpu.vram.withHistory after) := by
    simp only [Memory.visit, withHistory, Memory.history_withHistory, hvisit]
    rfl
  have htaken (words : List UInt32) := takeBlock_withHistory gpu after words
  rw [walkChain, haddress, hvisited]
  change (match block? memory (cut address) with
    | none => gpu.withHistory after
    | some (header, words) =>
      if header.next = terminator then (gpu.withHistory after).takeBlock words
      else walkChain memory limit header.next ((gpu.withHistory after).takeBlock words)) = _
  simp only [htaken]

/-- A suspected loop ends a walk. -/
theorem walkChain_loop (hcut : gpu.chainAddress = cut) {history : AddressHistory}
    (hvisit : history.visit (cut address) = none) (limit : Nat) :
    walkChain memory (limit + 1) address (gpu.withHistory history) = gpu.withHistory history := by
  have haddress : (gpu.withHistory history).chainAddress address = cut address :=
    congrFun hcut address
  have hvisited : (gpu.withHistory history).vram.visit (cut address) =
      (true, gpu.vram.withHistory history) := by
    simp only [Memory.visit, withHistory, Memory.history_withHistory, hvisit]
  rw [walkChain, haddress, hvisited]
  rfl

/-- Addresses are cut in the same way after any number of blocks. -/
theorem chainAddress_takeBlocks (gpu : Gpu) (blocks : List Block) :
    (gpu.takeBlocks blocks).chainAddress = gpu.chainAddress := by
  induction blocks generalizing gpu with
  | nil => rfl
  | cons block blocks ih =>
      exact (ih (gpu.takeBlock block.words)).trans (chainAddress_takeBlock _ _)

/-- A walk goes on behind a path on which the loop detector stays silent. -/
theorem walkChain_path {last : UInt32} (hpath : Path memory cut address blocks (some last))
    (hcut : gpu.chainAddress = cut) {limit : Nat} (hlimit : blocks.length ≤ limit)
    {history after : AddressHistory}
    (hvisit : history.visitAll (blocks.map Block.address) = some after) :
    walkChain memory limit address (gpu.withHistory history) =
      walkChain memory (limit - blocks.length) last
        ((gpu.takeBlocks blocks).withHistory after) := by
  generalize hstop : some last = stop at hpath
  induction hpath generalizing gpu limit history with
  | stop address =>
      cases hstop
      obtain rfl : history = after := by simpa [AddressHistory.visitAll] using hvisit
      rfl
  | last => cases hstop
  | @link address _ words blocks next hblock hnext hrest ih =>
      obtain ⟨limit, rfl⟩ : ∃ rest, limit = rest + 1 := ⟨limit - 1, by simp at hlimit; omega⟩
      obtain ⟨middle, hfirst, hlater⟩ : ∃ middle, history.visit (cut address) = some middle ∧
          middle.visitAll (blocks.map Block.address) = some after := by
        simpa [AddressHistory.visitAll, Option.bind_eq_some_iff] using hvisit
      have htaken : (gpu.takeBlock words).chainAddress = cut := by
        rw [chainAddress_takeBlock, hcut]
      rw [walkChain_step hcut hfirst, hblock, List.length_cons, Nat.add_sub_add_right]
      simp only [hnext, if_false]
      exact ih htaken (Nat.le_of_succ_le_succ hlimit) hlater hstop

/-- A walk along a path that leads to the end of the chain, when the loop detector stays silent. -/
theorem walkChain_whole (hpath : Path memory cut address blocks next)
    (hwhole : IsWhole memory cut next) (hcut : gpu.chainAddress = cut) {limit : Nat}
    (hlimit : blocks.length ≤ limit) {history after : AddressHistory}
    (hvisit : history.visitAll ((visited cut blocks next).take limit) = some after) :
    walkChain memory limit address (gpu.withHistory history) =
      (gpu.takeBlocks blocks).withHistory after := by
  induction hpath generalizing gpu limit history with
  | stop address =>
      cases limit with
      | zero =>
          obtain rfl : history = after := by simpa [AddressHistory.visitAll] using hvisit
          rfl
      | succ limit =>
          have hfirst : history.visit (cut address) = some after := by
            simpa [visited, AddressHistory.visitAll] using hvisit
          rw [walkChain_step hcut hfirst, hwhole address rfl]
          rfl
  | @last address _ _ hblock hnext =>
      obtain ⟨limit, rfl⟩ : ∃ rest, limit = rest + 1 := ⟨limit - 1, by simp at hlimit; omega⟩
      have hfirst : history.visit (cut address) = some after := by
        simpa [visited, AddressHistory.visitAll] using hvisit
      rw [walkChain_step hcut hfirst, hblock]
      simp only [hnext, if_true]
      rfl
  | @link address _ words blocks next hblock hnext hrest ih =>
      obtain ⟨limit, rfl⟩ : ∃ rest, limit = rest + 1 := ⟨limit - 1, by simp at hlimit; omega⟩
      obtain ⟨middle, hfirst, hlater⟩ : ∃ middle, history.visit (cut address) = some middle ∧
          middle.visitAll ((visited cut blocks next).take limit) = some after := by
        simpa [visited, AddressHistory.visitAll, Option.bind_eq_some_iff] using hvisit
      rw [walkChain_step hcut hfirst, hblock]
      simp only [hnext, if_false]
      have htaken : (gpu.takeBlock words).chainAddress = cut := by
        rw [chainAddress_takeBlock, hcut]
      exact ih hwhole htaken (Nat.le_of_succ_le_succ hlimit) hlater

/-- Any walk goes along a path of no more blocks than its limit. -/
theorem exists_walkChain (memory : Array UInt32) (limit : Nat) (address : UInt32) {gpu : Gpu}
    (hcut : gpu.chainAddress = cut) (history : AddressHistory) :
    ∃ blocks next after, Path memory cut address blocks next ∧ blocks.length ≤ limit ∧
      walkChain memory limit address (gpu.withHistory history) =
        (gpu.takeBlocks blocks).withHistory after := by
  induction limit generalizing address gpu history with
  | zero => exact ⟨[], some address, history, .stop address, Nat.le_refl 0, rfl⟩
  | succ limit ih =>
      cases hvisit : history.visit (cut address) with
      | none =>
          refine ⟨[], some address, history, .stop address, Nat.zero_le _, ?_⟩
          exact walkChain_loop hcut hvisit limit
      | some after =>
          rw [walkChain_step hcut hvisit]
          cases hblock : block? memory (cut address) with
          | none => exact ⟨[], some address, after, .stop address, Nat.zero_le _, rfl⟩
          | some block =>
              obtain ⟨header, words⟩ := block
              by_cases hnext : header.next = terminator
              · refine ⟨_, none, after, .last hblock hnext, Nat.succ_le_succ (Nat.zero_le _), ?_⟩
                simp only [hnext, if_true]
                rfl
              · have htaken : (gpu.takeBlock words).chainAddress = cut := by
                  rw [chainAddress_takeBlock, hcut]
                obtain ⟨blocks, next, final, hpath, hlength, hwalk⟩ := ih header.next htaken after
                refine ⟨_, next, final, .link hblock hnext hpath, Nat.succ_le_succ hlength, ?_⟩
                simp only [hnext, if_false, hwalk]
                rfl

/-! ## Writes -/

/-- The blocks of a path are taken by writing those that have data. -/
theorem takeBlocks_eq_run (hinit : gpu.isInitialized = true) (blocks : List Block) :
    gpu.takeBlocks blocks = gpu.run (writes blocks) := by
  induction blocks generalizing gpu with
  | nil => rfl
  | cons block blocks ih =>
      change (gpu.takeBlock block.words).takeBlocks blocks = _
      by_cases hempty : block.words.isEmpty = true
      · have hskipped : gpu.takeBlock block.words = gpu := if_pos hempty
        rw [hskipped, ih hinit]
        simp [writes, hempty]
      · have htaken : gpu.takeBlock block.words = gpu.takeChunk block.words := if_neg hempty
        have hlater : (gpu.takeChunk block.words).isInitialized = true := by
          rw [takeChunk_isInitialized, hinit]
        rw [htaken, ih hlater]
        simp [writes, hempty, apply, writeData_of_isInitialized hinit]

/-! ## Whole chains -/

/-- The state that shows itself as idle. -/
def showIdle (gpu : Gpu) : Gpu :=
  { gpu with status := gpu.status.set Status.Mask.idle }

/-- The state that does not show itself as idle. -/
def hideIdle (gpu : Gpu) : Gpu :=
  { gpu with status := gpu.status.unset Status.Mask.idle }

/-- The state after the writes that a path asks for, shown as idle. -/
def delivered (gpu : Gpu) (blocks : List Block) : Gpu :=
  (gpu.run (writes blocks)).showIdle

/-- A chunk takes back the idle bit by itself. -/
theorem takeChunk_hideIdle (gpu : Gpu) (words : List UInt32) :
    gpu.hideIdle.takeChunk words = gpu.takeChunk words := by
  have hmasks : ~~~Status.Mask.idle &&& ~~~Status.Mask.available = ~~~Status.Mask.available := by
    decide
  have hunset : gpu.hideIdle.status.unset Status.Mask.available =
      gpu.status.unset Status.Mask.available := by
    simp only [hideIdle, Status.unset, UInt32.and_assoc, hmasks]
  simp only [takeChunk, whileBusy, hunset]
  rfl

/-- Showing the processor as idle undoes that it was not shown. -/
theorem showIdle_hideIdle (gpu : Gpu) : gpu.hideIdle.showIdle = gpu.showIdle := by
  have hstatus : (gpu.status.unset Status.Mask.idle).set Status.Mask.idle =
      gpu.status.set Status.Mask.idle := by
    rw [Status.set_eq_replace, Status.unset_eq_replace, Status.replace_replace,
      Status.set_eq_replace]
  simp only [showIdle, hideIdle, hstatus]

/-- In the end it does not show that the processor was busy at first. -/
theorem showIdle_takeBlocks (gpu : Gpu) (blocks : List Block) :
    (gpu.hideIdle.takeBlocks blocks).showIdle = (gpu.takeBlocks blocks).showIdle := by
  induction blocks with
  | nil => exact showIdle_hideIdle gpu
  | cons block blocks ih =>
      change ((gpu.hideIdle.takeBlock block.words).takeBlocks blocks).showIdle =
        ((gpu.takeBlock block.words).takeBlocks blocks).showIdle
      unfold takeBlock
      split
      · exact ih
      · rw [takeChunk_hideIdle]

/-- Following a chain is a walk, from an empty loop detector. -/
theorem followChain_eq (hinit : gpu.isInitialized = true) {after : AddressHistory}
    (hwalk : walkChain memory blockLimit address (gpu.hideIdle.withHistory {}) =
      (gpu.hideIdle.takeBlocks blocks).withHistory after) :
    gpu.followChain memory address = (.ok (), (gpu.delivered blocks).withHistory after) := by
  have hfollow : gpu.followChain memory address =
      (.ok (), (walkChain memory blockLimit address (gpu.hideIdle.withHistory {})).showIdle) := by
    rw [followChain, ifInitialized, if_pos hinit]
    rfl
  rw [hfollow, hwalk, delivered, ← takeBlocks_eq_run hinit, ← showIdle_takeBlocks]
  rfl

/-- Only on boards with doubled video memory can an address be the terminator. -/
theorem chainAddress_ne_terminator (gpu : Gpu)
    (haddress : gpu.vram.height = .doubled → address ≠ terminator) :
    gpu.chainAddress address ≠ terminator := by
  unfold chainAddress
  split
  · intro heq
    have hmasked := congrArg (· &&& addressMask) heq
    simp only [UInt32.and_assoc, UInt32.and_self] at hmasked
    rw [heq] at hmasked
    exact absurd hmasked (by decide)
  · next hdoubled => exact haddress hdoubled

/-- A chain is followed to where it ends.  When it ends within two million blocks, and no walk
begins at the terminator, the loop detector records every address that is visited, and the effect is
that of writing the data of the blocks that have any, one after another, and of showing the
processor as idle.  In any case a part of the chain is delivered in this way, of at most two million
blocks, and the processor is shown as idle. -/
theorem followChain_delivers {gpu : Gpu} (hinit : gpu.isInitialized = true)
    (memory : Array UInt32) (address : UInt32) :
    (∀ blocks next, Path memory gpu.chainAddress address blocks next →
      IsWhole memory gpu.chainAddress next → blocks.length ≤ blockLimit →
      (gpu.vram.height = .doubled → address ≠ terminator) →
      ∃ history,
        AddressHistory.visitAll {} ((visited gpu.chainAddress blocks next).take blockLimit) =
          some history ∧
        gpu.followChain memory address = (.ok (), (gpu.delivered blocks).withHistory history)) ∧
    (∃ blocks next history, Path memory gpu.chainAddress address blocks next ∧
      blocks.length ≤ blockLimit ∧
      gpu.followChain memory address = (.ok (), (gpu.delivered blocks).withHistory history)) ∧
    (gpu.followChain memory address).2.status.bits Status.Mask.idle = Status.Mask.idle := by
  have hcut : gpu.hideIdle.chainAddress = gpu.chainAddress := rfl
  obtain ⟨part, stop, final, hpart, hlength, hwalk⟩ :=
    exists_walkChain memory blockLimit address hcut {}
  have hfollow := followChain_eq hinit hwalk
  refine ⟨fun blocks next hpath hwhole hlimit hfirst => ?_, ?_, ?_⟩
  · have hdistinct := (hpath.nodup hwhole).sublist (List.take_sublist blockLimit _)
    have hterminator : terminator ∉ visited gpu.chainAddress blocks next := by
      refine hpath.ne_terminator (fun address hother => ?_) (gpu.chainAddress_ne_terminator hfirst)
      exact gpu.chainAddress_ne_terminator fun _ => hother
    have hend := fun hmem => hterminator (List.mem_of_mem_take (i := blockLimit) hmem)
    obtain ⟨after, hafter⟩ := AddressHistory.exists_visitAll hdistinct hend
    exact ⟨after, hafter, followChain_eq hinit (walkChain_whole hpath hwhole hcut hlimit hafter)⟩
  · exact ⟨part, stop, final, hpart, hlength, hfollow⟩
  · rw [hfollow]
    exact Status.bits_set_self _

/-- The header of an image in two blocks, with two empty blocks in between, the second of which lies
below the first.  The last block leads out of memory. -/
theorem followChain_delivers_image :
    let gpu := (create {} (.create {} 1000000)).powerOn
    let memory : Array UInt32 :=
      #[0x02000010, 0xA0000000, 0x00000000, 0x00000014, 0x0000000C, 0x01000400, 0x00010002]
    let blocks : List Block :=
      [⟨0x00, [0xA0000000, 0x00000000]⟩, ⟨0x10, []⟩, ⟨0x0C, []⟩, ⟨0x14, [0x00010002]⟩]
    gpu.isInitialized = true ∧ Path memory gpu.chainAddress 0 blocks (some 0x400) ∧
      IsWhole memory gpu.chainAddress (some 0x400) ∧ blocks.length ≤ blockLimit ∧
      ∃ history,
        AddressHistory.visitAll {} [0x00, 0x10, 0x0C, 0x14, 0x400] = some history ∧
        gpu.followChain memory 0 =
          (.ok (), (gpu.run [.writeData [0xA0000000, 0x00000000], .writeData [0x00010002]]
            |>.showIdle).withHistory history) := by
  intro gpu memory blocks
  have hinit : gpu.isInitialized = true := powerOn_isInitialized _
  have hfirst : block? memory (gpu.chainAddress 0x00) = some (⟨2, 0x10⟩, [0xA0000000, 0]) := by
    decide
  have hsecond : block? memory (gpu.chainAddress 0x10) = some (⟨0, 0x0C⟩, []) := by decide
  have hthird : block? memory (gpu.chainAddress 0x0C) = some (⟨0, 0x14⟩, []) := by decide
  have hfourth : block? memory (gpu.chainAddress 0x14) = some (⟨1, 0x400⟩, [0x00010002]) := by
    decide
  have hpath : Path memory gpu.chainAddress 0 blocks (some 0x400) :=
    .link hfirst (by decide) <| .link hsecond (by decide) <| .link hthird (by decide) <|
      .link hfourth (by decide) (.stop 0x400)
  have hwhole : IsWhole memory gpu.chainAddress (some 0x400) := by
    rintro address ⟨⟩
    decide
  have hlimit : blocks.length ≤ blockLimit := by decide
  obtain ⟨history, hvisit, hfollow⟩ :=
    (followChain_delivers hinit memory 0).1 blocks (some 0x400) hpath hwhole hlimit (by decide)
  exact ⟨hinit, hpath, hwhole, hlimit, history, hvisit, hfollow⟩

end Gpu

end GpuCore
