import GpuCore.Gpu.Chain

/-!
# Paths along a chain

A path lists the blocks that a chain links up, from one address on.  It is whole when it leads to
the end of the chain: to the terminator, or to an address without a block.  Nothing here knows of
the loop detector or of the processor: the addresses are cut by a function that is given.

Main definitions:

- `Chain.Block` and `Chain.Path`: a block, and the blocks from an address on.
- `Chain.IsWhole`: the path goes on until the chain ends.
- `Chain.visited`: the addresses that are looked at along a path.

Main results:

- `Chain.Path.unique`: a chain has one whole path.
- `Chain.Path.nodup`: a chain that ends visits no address twice.
- `Chain.Path.snoc` and `Chain.Path.leadsOn`: the links of a path.
-/

namespace GpuCore.Chain

/-! ## Blocks -/

/-- A block on a path: its address, and its data. -/
structure Block where
  address : UInt32
  words : List UInt32
deriving DecidableEq, Repr, Inhabited

/-! ## Paths -/

/-- The blocks of a chain from an address on, and the address at which the path stops without having
looked at it; `none` when the last block ends the chain. -/
inductive Path (memory : Array UInt32) (cut : UInt32 → UInt32) :
    UInt32 → List Block → Option UInt32 → Prop where
  | stop (address : UInt32) : Path memory cut address [] (some address)
  | last {address : UInt32} {header : Header} {words : List UInt32}
      (hblock : block? memory (cut address) = some (header, words))
      (hnext : header.next = terminator) :
      Path memory cut address [⟨cut address, words⟩] none
  | link {address : UInt32} {header : Header} {words : List UInt32} {blocks : List Block}
      {next : Option UInt32} (hblock : block? memory (cut address) = some (header, words))
      (hnext : header.next ≠ terminator) (hrest : Path memory cut header.next blocks next) :
      Path memory cut address (⟨cut address, words⟩ :: blocks) next

/-- A path that stops at `next` leads to the end of the chain: there is no block at that address. -/
def IsWhole (memory : Array UInt32) (cut : UInt32 → UInt32) (next : Option UInt32) : Prop :=
  ∀ address ∈ next, block? memory (cut address) = none

/-- The addresses of the blocks of a path, and the address at which it stops. -/
def visited (cut : UInt32 → UInt32) (blocks : List Block) (next : Option UInt32) : List UInt32 :=
  blocks.map Block.address ++ next.toList.map cut

variable {memory : Array UInt32} {cut : UInt32 → UInt32} {address address' : UInt32}
  {blocks blocks' : List Block} {next next' : Option UInt32}

/-- A chain has one whole path, from whatever address it is entered. -/
theorem Path.unique (h : Path memory cut address blocks next) (hwhole : IsWhole memory cut next)
    (h' : Path memory cut address' blocks' next') (hwhole' : IsWhole memory cut next')
    (hsame : cut address = cut address') :
    visited cut blocks next = visited cut blocks' next' := by
  induction h generalizing address' blocks' next' with
  | stop address =>
      have hnone := hwhole address rfl
      rw [hsame] at hnone
      cases h' with
      | stop => simp [visited, hsame]
      | last hblock' => simp [hnone] at hblock'
      | link hblock' => simp [hnone] at hblock'
  | last hblock hnext =>
      rw [hsame] at hblock
      cases h' with
      | stop => simp [hwhole' _ rfl] at hblock
      | last hblock' => simp [visited, hsame]
      | link hblock' hnext' =>
          rw [hblock, Option.some.injEq, Prod.mk.injEq] at hblock'
          exact absurd (hblock'.1 ▸ hnext) hnext'
  | link hblock hnext hrest ih =>
      rw [hsame] at hblock
      cases h' with
      | stop => simp [hwhole' _ rfl] at hblock
      | last hblock' hnext' =>
          rw [hblock, Option.some.injEq, Prod.mk.injEq] at hblock'
          exact absurd (hblock'.1 ▸ hnext') hnext
      | link hblock' hnext' hrest' =>
          rw [hblock, Option.some.injEq, Prod.mk.injEq] at hblock'
          obtain ⟨rfl, rfl⟩ := hblock'
          have htail := ih hwhole hrest' hwhole' rfl
          simp only [visited] at htail
          simp [visited, hsame, htail]

/-- From every address on a path there is a path to the same end, which is not longer. -/
theorem Path.suffix (h : Path memory cut address blocks next) {later : UInt32}
    (hlater : later ∈ visited cut blocks next) :
    ∃ address' blocks', cut address' = later ∧ Path memory cut address' blocks' next ∧
      (visited cut blocks' next).length ≤ (visited cut blocks next).length := by
  induction h with
  | stop address =>
      have heq : later = cut address := by simpa [visited] using hlater
      exact ⟨address, [], heq.symm, .stop address, Nat.le_refl _⟩
  | @last address _ _ hblock hnext =>
      have heq : later = cut address := by simpa [visited] using hlater
      exact ⟨address, _, heq.symm, .last hblock hnext, Nat.le_refl _⟩
  | link hblock hnext hrest ih =>
      rcases List.mem_cons.1 hlater with rfl | htail
      · exact ⟨_, _, rfl, .link hblock hnext hrest, Nat.le_refl _⟩
      · obtain ⟨address', blocks', hcut, hpath, hlength⟩ := ih htail
        exact ⟨address', blocks', hcut, hpath, Nat.le_succ_of_le hlength⟩

/-- A chain that ends visits no address twice: what comes after an address is settled, so that the
way to the end would be longer than itself. -/
theorem Path.nodup (h : Path memory cut address blocks next) (hwhole : IsWhole memory cut next) :
    (visited cut blocks next).Nodup := by
  induction h with
  | stop address => simp [visited]
  | last hblock hnext => simp [visited]
  | link hblock hnext hrest ih =>
      refine List.nodup_cons.2 ⟨fun hmem => ?_, ih hwhole⟩
      obtain ⟨address', blocks', hcut, hpath, hlength⟩ := hrest.suffix hmem
      have hsame := hpath.unique hwhole (.link hblock hnext hrest) hwhole hcut
      rw [hsame] at hlength
      exact absurd hlength (Nat.not_succ_le_self _)

/-- No address of a path is the terminator, if the first one is not and none becomes it by being
cut. -/
theorem Path.ne_terminator (h : Path memory cut address blocks next)
    (hcut : ∀ address, address ≠ terminator → cut address ≠ terminator)
    (hfirst : cut address ≠ terminator) : terminator ∉ visited cut blocks next := by
  induction h with
  | stop address => simpa [visited] using hfirst.symm
  | last hblock hnext => simpa [visited] using hfirst.symm
  | link hblock hnext hrest ih =>
      rw [visited, List.map_cons, List.cons_append, List.mem_cons, not_or]
      exact ⟨hfirst.symm, ih (hcut _ hnext)⟩

/-! ## Links -/

/-- The block behind a path. -/
theorem Path.snoc {last : UInt32} {header : Header} {words : List UInt32}
    (h : Path memory cut address blocks (some last))
    (hblock : block? memory (cut last) = some (header, words)) (hnext : header.next ≠ terminator) :
    Path memory cut address (blocks ++ [⟨cut last, words⟩]) (some header.next) := by
  generalize hstop : some last = stop at h
  induction h with
  | stop address =>
      cases hstop
      exact .link hblock hnext (.stop header.next)
  | last => cases hstop
  | link hblock' hnext' _ ih => exact .link hblock' hnext' (ih hstop)

/-- A path begins at the address that it is entered from. -/
theorem Path.head (h : Path memory cut address blocks next) :
    (visited cut blocks next).head? = some (cut address) := by
  cases h with
  | stop => rfl
  | last => rfl
  | link => rfl

/-- The blocks of a path that does not end lead on to one another, and the last one to where the
path stops. -/
theorem Path.leadsOn {last : UInt32} (h : Path memory cut address blocks (some last)) {index : Nat}
    (hindex : index < blocks.length) :
    ∃ header, block? memory blocks[index].address = some (header, blocks[index].words) ∧
      header.next ≠ terminator ∧
      (visited cut blocks (some last))[index + 1]? = some (cut header.next) := by
  generalize hstop : some last = stop at h
  induction h generalizing index with
  | stop => cases hindex
  | last => cases hstop
  | link hblock hnext hrest ih =>
      cases index with
      | zero =>
          refine ⟨_, hblock, hnext, ?_⟩
          have hhead := hrest.head
          rw [List.head?_eq_getElem?] at hhead
          exact hhead
      | succ index => exact ih (Nat.lt_of_succ_lt_succ hindex) hstop

end GpuCore.Chain
