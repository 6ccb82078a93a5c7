import EnclaveSigner.Bitcoin.Difficulty
import EnclaveSigner.Spv.ChainInvariant

/-! # Work of the chain

A reorg is accepted when the new branch has more work than the displaced one.
Both sums are taken in 256 bits and wrap. On a network that does not check
`nBits` the host chooses the work of a header.
-/

namespace EnclaveSigner.Spv

open Lib Bitcoin

/-- The work of the headers, as a natural number. -/
def totalWork (btc : Crate) (headers : List Header) : Nat :=
  (headers.map fun header => (header.work btc).toNat).sum

/-- How often the sum of the work wraps. -/
def workWraps (btc : Crate) (headers : List Header) : Nat := totalWork btc headers / 2 ^ 256

@[simp] theorem totalWork_append (btc : Crate) (a b : List Header) :
    totalWork btc (a ++ b) = totalWork btc a + totalWork btc b := by
  simp [totalWork]

theorem totalWork_pos {btc : Crate} (workPos : ∀ target, 0 < (btc.toWork target).toNat)
    {headers : List Header} (nonempty : headers ≠ []) : 0 < totalWork btc headers := by
  cases headers with
  | nil => exact absurd rfl nonempty
  | cons header headers =>
      have positive : 0 < (header.work btc).toNat := workPos _
      simp only [totalWork, List.map_cons, List.sum_cons]
      omega

theorem foldl_work_toNat (btc : Crate) (headers : List Header) (acc : U256) :
    (headers.foldl (fun acc header => acc + header.work btc) acc).toNat
      = (acc.toNat + totalWork btc headers) % 2 ^ 256 := by
  induction headers generalizing acc with
  | nil => simp [totalWork, Nat.mod_eq_of_lt acc.isLt]
  | cons header headers ih =>
      rw [List.foldl_cons, ih, BitVec.toNat_add]
      simp only [totalWork, List.map_cons, List.sum_cons, Nat.mod_add_mod, Nat.add_assoc]

theorem sumWork_toNat (btc : Crate) (headers : List Header) :
    ((sumWork btc headers).getD 0).toNat = totalWork btc headers % 2 ^ 256 := by
  cases headers with
  | nil => rfl
  | cons header headers =>
      simp only [sumWork, Option.getD_some, foldl_work_toNat]
      simp only [totalWork, List.map_cons, List.sum_cons]

namespace HeaderChain

/-- The call is accepted. -/
def accepts (btc : Crate) (chain : HeaderChain) (call : SubmitCall) : Bool :=
  match submitHeaders btc call.startHeight call.rawHeaders call.nowUnix chain with
  | .ok _ _ => true
  | .error _ _ => false

section

variable {btc : Crate} {chain : HeaderChain}

theorem checkWork_ok {idx : Nat} {staged : List Staged} :
    chain.checkWork btc idx staged = .ok () ↔
      totalWork btc (chain.headers.drop idx) % 2 ^ 256
        < totalWork btc (staged.map Prod.fst) % 2 ^ 256 := by
  rw [checkWork, refuse_ok, BitVec.not_le, BitVec.lt_def, sumWork_toNat, sumWork_toNat]

theorem totalWork_lt_iff_of_checkWork {idx : Nat} {staged : List Staged}
    (heavier : chain.checkWork btc idx staged = .ok ()) :
    totalWork btc (chain.headers.drop idx) < totalWork btc (staged.map Prod.fst) ↔
      workWraps btc (chain.headers.drop idx) ≤ workWraps btc (staged.map Prod.fst) := by
  rw [checkWork_ok] at heavier
  unfold workWraps
  omega

theorem Grows.decoded {nowUnix : UInt64} {raws : List Bytes} {batch : List Staged}
    (grows : Grows btc nowUnix chain raws batch) :
    raws.map Header.deserialize = (batch.map Prod.fst).map some ∧
      batch.map Prod.snd = (batch.map Prod.fst).map (·.blockHash btc) := by
  induction grows with
  | nil => exact ⟨rfl, rfl⟩
  | cons decoded _ _ ih => simp [decoded, ih]

theorem accepts_iff {call : SubmitCall} {chain' : HeaderChain} :
    chain.accepts btc call = true ∧ chain.afterSubmit btc call = chain' ↔
      ∃ outcome, submitHeaders btc call.startHeight call.rawHeaders call.nowUnix chain
        = .ok outcome chain' := by
  unfold accepts afterSubmit
  cases submitHeaders btc call.startHeight call.rawHeaders call.nowUnix chain with
  | error e chain' => simp
  | ok outcome chain' => simp

theorem afterSubmit_of_rejects {call : SubmitCall} (rejected : chain.accepts btc call = false) :
    chain.afterSubmit btc call = chain := by
  unfold accepts at rejected
  unfold afterSubmit
  cases result : submitHeaders btc call.startHeight call.rawHeaders call.nowUnix chain with
  | error e chain' => exact submitHeaders_error result
  | ok outcome chain' => simp [result] at rejected

theorem accepted_of_accepts (stored : chain.Stored btc) {call : SubmitCall}
    (accepted : chain.accepts btc call = true) (nonempty : call.rawHeaders ≠ []) :
    ∃ depth staged,
      Accepted btc chain call.startHeight call.rawHeaders call.nowUnix depth staged ∧
      chain.afterSubmit btc call = chain.committed call.startHeight staged := by
  obtain ⟨outcome, done⟩ := accepts_iff.mp ⟨accepted, rfl⟩
  rcases (submitHeaders_ok stored).mp done with
    ⟨empty, -, -⟩ | ⟨depth, staged, accepted, same, -⟩
  · exact absurd empty nonempty
  · exact ⟨depth, staged, accepted, same⟩

theorem committed_totalWork {startHeight : BlockHeight} {staged : List Staged}
    {rawHeaders : List Bytes} {nowUnix : UInt64} {depth : BlockHeight}
    (stored : chain.Stored btc) (workPos : ∀ target, 0 < (btc.toWork target).toNat)
    (accepted : Accepted btc chain startHeight rawHeaders nowUnix depth staged) :
    totalWork btc chain.headers
        < totalWork btc (chain.committed startHeight staged).headers ↔
      workWraps btc (chain.headers.drop (chain.kept startHeight))
        ≤ workWraps btc (staged.map Prod.fst) := by
  obtain ⟨nonempty, -, placed, grows, heavier⟩ := (accepted_iff staged stored).mp accepted
  have split : totalWork btc chain.headers
      = totalWork btc (chain.headers.take (chain.kept startHeight))
        + totalWork btc (chain.headers.drop (chain.kept startHeight)) := by
    rw [← totalWork_append, List.take_append_drop]
  simp only [committed, totalWork_append]
  rw [split, Nat.add_lt_add_iff_left]
  by_cases reorg : 0 < depth
  · exact totalWork_lt_iff_of_checkWork (heavier reorg)
  · -- An extension displaces nothing, so any header adds work.
    have depth_eq := placed.depth_eq
    rw [UInt32.lt_iff_toNat_lt, UInt32.toNat_zero] at reorg
    have nothing : chain.headers.drop (chain.kept startHeight) = [] :=
      List.drop_eq_nil_of_le (by omega)
    have some_staged : staged.map Prod.fst ≠ [] := by
      intro empty
      rw [List.map_eq_nil_iff] at empty
      subst empty
      cases grows
      exact nonempty rfl
    have added := totalWork_pos workPos some_staged
    rw [nothing]
    exact ⟨fun _ => by simp [workWraps, totalWork], fun _ => added⟩

/-- On every reachable chain, a call that fails changes nothing. A call that
    succeeds with a non-empty batch keeps the headers below its start, puts the
    batch on top and drops at most `MAX_REORG_DEPTH` headers. The work of the
    chain then strictly grows exactly when the displaced work wraps no more
    often than that of the batch. -/
theorem submission_adds_work (btc : Crate)
    (workPos : ∀ target, 0 < (btc.toWork target).toNat)
    (network : Network) (checkpoint : Checkpoint) (calls : List SubmitCall)
    (call : SubmitCall) :
    let chain := (new network checkpoint).run btc calls
    let kept := call.startHeight.toNat - 1 - checkpoint.height.toNat
    let batch := call.rawHeaders.filterMap Header.deserialize
    let next := chain.afterSubmit btc call
    (chain.accepts btc call = false → next = chain) ∧
    (chain.accepts btc call = true → call.rawHeaders ≠ [] →
      (checkpoint.height < call.startHeight ∧ kept ≤ chain.headers.length ∧
        batch.length = call.rawHeaders.length ∧
        next = { chain with
          headers := chain.headers.take kept ++ batch
          hashes := chain.hashes.take kept ++ batch.map (·.blockHash btc) }) ∧
      chain.headers.length - kept ≤ MAX_REORG_DEPTH.toNat ∧
      (totalWork btc chain.headers < totalWork btc next.headers ↔
        workWraps btc (chain.headers.drop kept) ≤ workWraps btc batch)) := by
  intro chain kept batch next
  have valid : chain.Valid btc network checkpoint := run_valid btc network checkpoint calls
  have base := valid.baseHeight_eq
  refine ⟨afterSubmit_of_rejects, ?_⟩
  intro accepts nonempty
  obtain ⟨depth, staged, accepted, same⟩ := accepted_of_accepts valid.stored accepts nonempty
  obtain ⟨-, -, placed, grows, -⟩ := (accepted_iff staged valid.stored).mp accepted
  obtain ⟨decoded, hashes⟩ := grows.decoded
  have start := placed.start
  have place : chain.kept call.startHeight = kept := by
    rw [base] at start
    omega
  have shallow := UInt32.le_iff_toNat_le.mp placed.shallow
  rw [placed.depth_eq, place] at shallow
  have kept_le := placed.kept_le
  rw [place] at kept_le
  have headers : batch = staged.map Prod.fst := by
    calc batch = (call.rawHeaders.map Header.deserialize).filterMap id := by simp [batch]
      _ = ((staged.map Prod.fst).map some).filterMap id := by rw [decoded]
      _ = staged.map Prod.fst := by simp
  refine ⟨⟨?_, kept_le, ?_, ?_⟩, shallow, ?_⟩
  · rw [UInt32.lt_iff_toNat_lt, ← base]
    omega
  · rw [headers]
    simpa using (congrArg List.length decoded).symm
  · rw [headers, ← hashes, ← place]
    exact same
  · rw [show next = _ from same, headers, ← place]
    exact committed_totalWork valid.stored workPos accepted

end

section Samples

def sampleCheckpoint : Checkpoint := ⟨5, .zero 32, 0x207fffff, 1000, none⟩

def sampleHeader (prev : Word 32) (time bits : UInt32) : Header :=
  ⟨1, prev, .zero 32, time, bits, 0⟩

def easyFirst : Header := sampleHeader (.zero 32) 1001 0x207fffff

def easyFirstHash : Word 32 :=
  .ofNatBe 32 0xf57d908d481093af9319ebb333c19ad63e1d1f7d1ba895f907503962c73c777b

def easySecond : Header := sampleHeader easyFirstHash 1002 0x207fffff

def hardFirst : Header := sampleHeader (.zero 32) 1003 0x1d00ffff

def easyThenHard : Crate := crateWith (tableHash [
  (easyFirst.serialize, easyFirstHash),
  (easySecond.serialize,
    .ofNatBe 32 0x5ece8b7cf6745e699340864ad04b2c0378d0d12b3ce7589617f3240ac64e9b94),
  (hardFirst.serialize,
    .ofNatBe 32 0x383c7ad4564f7fbf2d06325dae00ea0aa7e830c014d040b6e6c6765e2a6dbe64)])

/-- One harder header displaces two easy ones. -/
theorem submission_adds_work_reorg :
    let chain := (new .regtest sampleCheckpoint).run easyThenHard
      [⟨6, [easyFirst.serialize, easySecond.serialize], 2000⟩]
    let call : SubmitCall := ⟨6, [hardFirst.serialize], 2000⟩
    chain.accepts easyThenHard call = true ∧ chain.headers = [easyFirst, easySecond] ∧
      totalWork easyThenHard chain.headers
        < totalWork easyThenHard (chain.afterSubmit easyThenHard call).headers := by
  have accepted : ((new .regtest sampleCheckpoint).run easyThenHard
      [⟨6, [easyFirst.serialize, easySecond.serialize], 2000⟩]).accepts easyThenHard
        ⟨6, [hardFirst.serialize], 2000⟩ = true := by decide +kernel
  refine ⟨accepted, by decide +kernel, ?_⟩
  exact ((submission_adds_work easyThenHard inverse_pos .regtest sampleCheckpoint
    [⟨6, [easyFirst.serialize, easySecond.serialize], 2000⟩]
    ⟨6, [hardFirst.serialize], 2000⟩).2 accepted (List.cons_ne_nil _ _)).2.2.mpr
      (by decide +kernel)

def wrapFirst : Header := sampleHeader (.zero 32) 1001 0

def wrapFirstHash : Word 32 :=
  .ofNatBe 32 0xcc57803cca4a5d12ca18a583310fec0589faff5502b33e04575d531125c5760e

def wrapSecond : Header := sampleHeader wrapFirstHash 1002 0

def wrapRival : Header := sampleHeader (.zero 32) 1003 0

/-- The double hashes of three headers with `nBits` zero, whose work is the
    largest 256-bit number. -/
def wrapping : Crate := crateWith (tableHash [
  (wrapFirst.serialize, wrapFirstHash),
  (wrapSecond.serialize,
    .ofNatBe 32 0x259d4aaf409f77e3f82ac8ba7a0c035d1e46b824b7810fd7efd2dc0eb80ca5bf),
  (wrapRival.serialize,
    .ofNatBe 32 0xcadd7eaa6f533f046d061c739aadef84a80b87768afea4929d1f99cd61885056)])

/-- The work of two such headers wraps to one less than the work of a single
    one, so a single one displaces them, and the chain loses work. -/
theorem submission_can_lose_work :
    let chain := (new .regtest sampleCheckpoint).run wrapping
      [⟨6, [wrapFirst.serialize, wrapSecond.serialize], 2000⟩]
    let call : SubmitCall := ⟨6, [wrapRival.serialize], 2000⟩
    chain.accepts wrapping call = true ∧ call.rawHeaders ≠ [] ∧
      totalWork wrapping (chain.afterSubmit wrapping call).headers
        < totalWork wrapping chain.headers := by
  decide +kernel

end Samples

end HeaderChain

end EnclaveSigner.Spv
