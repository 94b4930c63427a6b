import GpuCore.Proofs.Chain.Walk
import GpuCore.Proofs.Vram.Lasso

/-!
# Chains that run in a circle

A chain whose blocks lead back into themselves has no end.  It is walked round and round until the
loop detector raises an alarm, which it does before any block is delivered for the third time if the
addresses turn around only once in a round, or else until the limit of blocks is reached.

Main results:

- `Chain.exists_path_lasso`: the path of such a chain, which is as long as one likes.
- `Gpu.exists_walkChain_lasso`: where a walk along it ends.
- `Gpu.loops_found_iff`: which loops the detector finds, and what a walk delivers.
-/

namespace GpuCore

/-! ## The path -/

namespace Chain

variable {memory : Array UInt32} {cut : UInt32 → UInt32} {address back : UInt32}
  {tail loop : List Block}

/-- The blocks of a path are visited in their order. -/
theorem getElem?_visited {blocks : List Block} {next : Option UInt32} {index : Nat}
    (hindex : index < blocks.length) :
    (visited cut blocks next)[index]? = some blocks[index].address := by
  rw [visited, List.getElem?_append_left (by rwa [List.length_map]), List.getElem?_map,
    List.getElem?_eq_getElem hindex, Option.map_some]

/-- Behind them comes the address at which the path stops. -/
theorem getElem?_visited_length (blocks : List Block) (last : UInt32) :
    (visited cut blocks (some last))[blocks.length]? = some (cut last) := by
  simp [visited]

/-- A path that leads back to a block of its own leads round and round. -/
theorem exists_path_lasso (hpath : Path memory cut address (tail ++ loop) (some back))
    (hback : loop.head?.map Block.address = some (cut back)) (count : Nat) :
    ∃ last, Path memory cut address (lasso tail loop count) (some last) ∧
      cut last = (lassoAt tail loop count).address := by
  have hloop : loop ≠ [] := by
    rintro rfl
    cases hback
  have hperiod := List.length_pos_iff.2 hloop
  induction count with
  | zero =>
      obtain ⟨hplace, hfirst⟩ := lassoAt_eq_getElem tail hloop 0
      have hzero : lassoPlace tail.length loop.length 0 = 0 := by simp [lassoPlace]
      have hhead := hpath.head
      rw [List.head?_eq_getElem?, ← hzero, getElem?_visited hplace, ← hfirst] at hhead
      exact ⟨address, .stop address, (Option.some.inj hhead).symm⟩
  | succ count ih =>
      obtain ⟨last, hlasso, hlast⟩ := ih
      obtain ⟨hplace, helement⟩ := lassoAt_eq_getElem tail hloop count
      obtain ⟨hplace', helement'⟩ := lassoAt_eq_getElem tail hloop (count + 1)
      obtain ⟨header, hblock, hnext, hleads⟩ := hpath.leadsOn hplace
      rw [← helement, ← hlast] at hblock
      refine ⟨header.next, ?extended, ?arrived⟩
      case extended =>
          have hlonger := hlasso.snoc hblock hnext
          rw [hlast] at hlonger
          rw [lasso_succ]
          exact hlonger
      case arrived =>
          have hsucc := lassoPlace_succ tail.length hperiod count
          split at hsucc
          · next hinside =>
              rw [← hsucc, getElem?_visited hplace', ← helement'] at hleads
              exact (Option.some.inj hleads).symm
          · next hround =>
              have hend : lassoPlace tail.length loop.length count + 1 = (tail ++ loop).length := by
                rw [List.length_append] at hplace ⊢
                omega
              rw [hend, getElem?_visited_length] at hleads
              obtain ⟨block, hfirst, haddress⟩ := Option.map_eq_some_iff.1 hback
              rw [← Option.some.inj hleads, ← haddress, lassoAt, hsucc,
                List.getD_append_right _ _ _ _ (Nat.le_refl _), Nat.sub_self,
                List.getD_eq_getElem?_getD, ← List.head?_eq_getElem?, hfirst, Option.getD_some]

end Chain

namespace Gpu

open Vram Chain

variable {gpu : Gpu} {memory : Array UInt32} {cut : UInt32 → UInt32} {address back : UInt32}
  {tail loop : List Block}

/-! ## The walk -/

/-- A walk along a path that leads back to a block of its own delivers blocks in their order, round
and round, up to an alarm or to its limit. -/
theorem exists_walkChain_lasso (hpath : Path memory cut address (tail ++ loop) (some back))
    (hback : loop.head?.map Block.address = some (cut back)) (hcut : gpu.chainAddress = cut)
    (limit : Nat) :
    ∃ count ≤ limit, ∃ after,
      AddressHistory.visitAll {}
        (lasso (tail.map Block.address) (loop.map Block.address) count) = some after ∧
      (count = limit ∨ AddressHistory.visitAll {}
        (lasso (tail.map Block.address) (loop.map Block.address) (count + 1)) = none) ∧
      walkChain memory limit address (gpu.withHistory {}) =
        (gpu.takeBlocks (lasso tail loop count)).withHistory after := by
  have hloop : loop ≠ [] := by
    rintro rfl
    cases hback
  obtain ⟨count, hcount, after, hvisited, hend⟩ := AddressHistory.exists_visitAll_le {}
    (lassoAt (tail.map Block.address) (loop.map Block.address)) limit
  obtain ⟨last, hlasso, hlast⟩ := exists_path_lasso hpath hback count
  rw [map_lassoAt Block.address hloop] at hlast
  have hlimit : (lasso tail loop count).length ≤ limit := by
    rw [length_lasso]
    exact hcount
  have hquiet : AddressHistory.visitAll {} ((lasso tail loop count).map Block.address) =
      some after := by
    rw [map_lasso _ hloop]
    exact hvisited
  have hwalk := walkChain_path hlasso hcut hlimit hquiet
  rw [length_lasso] at hwalk
  refine ⟨count, hcount, after, hvisited, ?alarm, ?walk⟩
  case alarm =>
      refine hend.imp_right fun halarm => ?_
      rw [lasso, AddressHistory.visitAll_range_succ, hvisited, Option.bind_some, halarm]
  case walk =>
      rw [hwalk]
      rcases hend with rfl | halarm
      · rw [Nat.sub_self]
        rfl
      · cases hleft : limit - count with
        | zero => rfl
        | succ left =>
            rw [← hlast] at halarm
            have hcut' : (gpu.takeBlocks (lasso tail loop count)).chainAddress = cut := by
              rw [chainAddress_takeBlocks, hcut]
            exact walkChain_loop hcut' halarm left

/-- The loop detector finds the loops with one turn.  Let the addresses of a chain be distinct and
different from the one that ends a chain, and let the chain run through some of them and then round
and round the others.  An alarm is raised at some time exactly if the loop has one address, or one
step down, or one step up.  None is raised in the tail and in the first round, and one that is
raised comes before any address is accepted for the third time.

A chain of blocks with these addresses is delivered in its order, round and round, until an alarm is
raised or until two million blocks are delivered.  If the loop has one turn, no block is delivered
more than twice; if not, the limit is reached. -/
theorem loops_found_iff {tail loop : List UInt32} (hloop : loop ≠ [])
    (hdistinct : (tail ++ loop).Nodup) (hend : terminator ∉ tail ++ loop) :
    ((∃ count, AddressHistory.visitAll {} (lasso tail loop count) = none) ↔ HasOneTurn loop) ∧
    (∀ count ≤ tail.length + loop.length,
      AddressHistory.visitAll {} (lasso tail loop count) ≠ none) ∧
    (HasOneTurn loop → ∀ count, AddressHistory.visitAll {} (lasso tail loop count) ≠ none →
      ∀ address, (lasso tail loop count).count address ≤ 2) ∧
    ∀ (gpu : Gpu) (memory : Array UInt32) (address back : UInt32)
      (tailBlocks loopBlocks : List Block), gpu.isInitialized = true →
      Path memory gpu.chainAddress address (tailBlocks ++ loopBlocks) (some back) →
      tailBlocks.map Block.address = tail → loopBlocks.map Block.address = loop →
      loop.head? = some (gpu.chainAddress back) →
      ∃ count ≤ blockLimit, ∃ history,
        gpu.followChain memory address =
          (.ok (), (gpu.delivered (lasso tailBlocks loopBlocks count)).withHistory history) ∧
        (count < blockLimit →
          AddressHistory.visitAll {} (lasso tail loop (count + 1)) = none) ∧
        (HasOneTurn loop → ∀ block, (lasso tailBlocks loopBlocks count).count block ≤ 2) ∧
        (¬ HasOneTurn loop → count = blockLimit) := by
  have halarm := exists_alarm_iff hloop hdistinct hend
  have hearly (honce : HasOneTurn loop) {count : Nat}
      (hquiet : AddressHistory.visitAll {} (lasso tail loop count) ≠ none) :
      count ≤ tail.length + 2 * loop.length :=
    le_of_visitAll_lasso_ne_none hloop hdistinct hend honce hquiet
  refine ⟨halarm, fun count => visitAll_lasso_ne_none hdistinct hend,
    fun honce count hquiet => count_lasso_le hdistinct (hearly honce hquiet), ?_⟩
  rintro gpu memory address back tailBlocks loopBlocks hinit hpath rfl rfl hback
  rw [List.head?_map] at hback
  have hcut : gpu.hideIdle.chainAddress = gpu.chainAddress := rfl
  obtain ⟨count, hcount, history, hvisited, hstop, hwalk⟩ :=
    exists_walkChain_lasso hpath hback hcut blockLimit
  refine ⟨count, hcount, history, followChain_eq hinit hwalk, fun hlt => ?_, fun honce => ?_,
    fun hmany => ?_⟩
  · exact hstop.resolve_left (Nat.ne_of_lt hlt)
  · have hquiet := hearly honce (by rw [hvisited]; exact Option.some_ne_none history)
    rw [List.length_map, List.length_map] at hquiet
    rw [← List.map_append] at hdistinct
    exact count_lasso_le hdistinct.of_map hquiet
  · by_contra hlimit
    exact hmany (halarm.1 ⟨count + 1, hstop.resolve_left hlimit⟩)

/-- A block with data in front of a loop of three blocks, which leads up once and down twice. -/
theorem loops_found_iff_three :
    let gpu := (create {} (.create {} 1000000)).powerOn
    let memory : Array UInt32 := #[0x08, 0x00, 0x04, 0x01000000, 0xE1000400]
    let tail : List UInt32 := [0x0C]
    let loop : List UInt32 := [0x00, 0x08, 0x04]
    let tailBlocks : List Block := [⟨0x0C, [0xE1000400]⟩]
    let loopBlocks : List Block := [⟨0x00, []⟩, ⟨0x08, []⟩, ⟨0x04, []⟩]
    loop ≠ [] ∧ (tail ++ loop).Nodup ∧ terminator ∉ tail ++ loop ∧ HasOneTurn loop ∧
      gpu.isInitialized = true ∧
      Path memory gpu.chainAddress 0x0C (tailBlocks ++ loopBlocks) (some 0x00) ∧
      loop.head? = some (gpu.chainAddress 0x00) ∧
      (∃ count, AddressHistory.visitAll {} (lasso tail loop count) = none) ∧
      ∃ count ≤ blockLimit, ∃ history,
        gpu.followChain memory 0x0C =
          (.ok (), (gpu.delivered (lasso tailBlocks loopBlocks count)).withHistory history) ∧
        ∀ block, (lasso tailBlocks loopBlocks count).count block ≤ 2 := by
  intro gpu memory tail loop tailBlocks loopBlocks
  have hloop : loop ≠ [] := List.cons_ne_nil _ _
  have hdistinct : (tail ++ loop).Nodup := by decide
  have hend : terminator ∉ tail ++ loop := by decide
  have honce : HasOneTurn loop := .inr (.inr (by decide))
  have hinit : gpu.isInitialized = true := powerOn_isInitialized _
  have htail : block? memory (gpu.chainAddress 0x0C) = some (⟨1, 0x00⟩, [0xE1000400]) := by decide
  have hfirst : block? memory (gpu.chainAddress 0x00) = some (⟨0, 0x08⟩, []) := by decide
  have hsecond : block? memory (gpu.chainAddress 0x08) = some (⟨0, 0x04⟩, []) := by decide
  have hthird : block? memory (gpu.chainAddress 0x04) = some (⟨0, 0x00⟩, []) := by decide
  have hpath : Path memory gpu.chainAddress 0x0C (tailBlocks ++ loopBlocks) (some 0x00) :=
    .link htail (by decide) <| .link hfirst (by decide) <| .link hsecond (by decide) <|
      .link hthird (by decide) (.stop 0x00)
  have hback : loop.head? = some (gpu.chainAddress 0x00) := by decide
  obtain ⟨halarm, -, -, hchain⟩ := loops_found_iff hloop hdistinct hend
  obtain ⟨count, hcount, history, hfollow, -, htwice, -⟩ :=
    hchain gpu memory 0x0C 0x00 tailBlocks loopBlocks hinit hpath rfl rfl hback
  exact ⟨hloop, hdistinct, hend, honce, hinit, hpath, hback, halarm.2 honce, count, hcount, history,
    hfollow, htwice honce⟩

end Gpu

end GpuCore
