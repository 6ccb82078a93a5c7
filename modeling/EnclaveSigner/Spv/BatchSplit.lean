import EnclaveSigner.Spv.ChainWork
import EnclaveSigner.Spv.MinDifficulty

/-! # Splitting a batch

An extension of the tip grows the chain header by header, so it can be cut
anywhere: the second half reads committed headers where the whole batch reads
staged ones, and finds the same.
-/

namespace EnclaveSigner.Spv.HeaderChain

open Lib Bitcoin

section

variable {btc : Crate} {network : Network} {checkpoint : Checkpoint} {chain : HeaderChain}
  {nowUnix : UInt64}

theorem grows_append {a b : List Bytes} {batch : List Staged} :
    Grows btc nowUnix chain (a ++ b) batch ↔
      ∃ first second, batch = first ++ second ∧ Grows btc nowUnix chain a first ∧
        Grows btc nowUnix (first.foldl push chain) b second := by
  induction a generalizing chain batch with
  | nil =>
      constructor
      · intro grows
        exact ⟨[], batch, rfl, .nil, grows⟩
      · rintro ⟨first, second, rfl, first_nil, grows⟩
        cases first_nil
        exact grows
  | cons raw a ih =>
      constructor
      · intro grows
        cases grows with
        | cons decoded passes rest =>
            obtain ⟨first, second, rfl, left, right⟩ := ih.mp rest
            exact ⟨_ :: first, second, rfl, .cons decoded passes left, right⟩
      · rintro ⟨first, second, rfl, left, right⟩
        cases left with
        | cons decoded passes rest =>
            exact .cons decoded passes (ih.mpr ⟨_, second, rfl, rest, right⟩)

theorem Grows.length {raws : List Bytes} {batch : List Staged}
    (grows : Grows btc nowUnix chain raws batch) : batch.length = raws.length := by
  induction grows with
  | nil => rfl
  | cons _ _ _ ih => simp only [List.length_cons, ih]

theorem kept_extension (small : chain.baseHeight.toNat + chain.headers.length + 1 < 2 ^ 32) :
    chain.kept (chain.tipHeight + 1) = chain.headers.length := by
  have next := tipHeight_succ_toNat chain small
  rw [kept_toNat (by omega)]
  omega

theorem placed_extension (stored : chain.Stored btc) {count : Nat}
    (small : chain.baseHeight.toNat + chain.headers.length + 1 < 2 ^ 32)
    (room : chain.headers.length + count ≤ MAX_STORED_HEADERS) :
    chain.Placed (chain.tipHeight + 1) count 0 := by
  have next := tipHeight_succ_toNat chain small
  have all := kept_extension small
  refine ⟨by omega, Nat.le_of_eq all, small, ?_, by decide, ?_⟩
  · rw [all, Nat.sub_self]
    rfl
  · rw [all, stored.cap]
    exact room

theorem committed_extension (stored : chain.Stored btc)
    (small : chain.baseHeight.toNat + chain.headers.length + 1 < 2 ^ 32) (staged : List Staged) :
    chain.committed (chain.tipHeight + 1) staged = staged.foldl push chain := by
  rw [foldl_push, committed, kept_extension small, List.take_length, ← stored.parallel,
    List.take_length]

theorem extension_iff (stored : chain.Stored btc) (nowUnix : UInt64) (raws : List Bytes)
    {chain' : HeaderChain}
    (perCall : raws.length ≤ MAX_HEADERS_PER_SUBMIT)
    (room : chain.headers.length + raws.length ≤ MAX_STORED_HEADERS) :
    chain.accepts btc ⟨chain.tipHeight + 1, raws, nowUnix⟩ = true ∧
        chain.afterSubmit btc ⟨chain.tipHeight + 1, raws, nowUnix⟩ = chain' ↔
      (raws ≠ [] → chain.baseHeight.toNat + chain.headers.length + 1 < 2 ^ 32) ∧
        ∃ batch, Grows btc nowUnix chain raws batch ∧ chain' = batch.foldl push chain := by
  rw [accepts_iff]
  simp only [submitHeaders_ok stored]
  constructor
  · rintro ⟨outcome, ⟨rfl, rfl, -⟩ | ⟨depth, staged, accepted, rfl, -⟩⟩
    · exact ⟨fun nonempty => absurd rfl nonempty, [], .nil, rfl⟩
    · obtain ⟨-, -, placed, grows, -⟩ := (accepted_iff staged stored).mp accepted
      have small := placed.tip_lt
      rw [committed_extension stored small] at grows
      exact ⟨fun _ => small, staged, grows, committed_extension stored small staged⟩
  · rintro ⟨small, batch, grows, rfl⟩
    by_cases empty : raws = []
    · subst empty
      cases grows
      exact ⟨_, .inl ⟨rfl, rfl, rfl⟩⟩
    · have small := small empty
      have placed := placed_extension stored small room
      refine ⟨_, .inr ⟨0, batch, (accepted_iff batch stored).mpr
        ⟨empty, perCall, placed, ?_, fun reorg => absurd reorg (by decide)⟩,
        (committed_extension stored small batch).symm, rfl⟩⟩
      rw [committed_extension stored small]
      exact grows

theorem foldl_push_length (chain : HeaderChain) (batch : List Staged) :
    (batch.foldl push chain).headers.length = chain.headers.length + batch.length := by
  rw [foldl_push]
  simp

theorem accepts_halves {a b : List Bytes} {final : HeaderChain}
    (valid : chain.Valid btc network checkpoint)
    (perCall : (a ++ b).length ≤ MAX_HEADERS_PER_SUBMIT)
    (room : chain.headers.length + (a ++ b).length ≤ MAX_STORED_HEADERS)
    (unwrapped : network.enforcesPow = true ∨
      checkpoint.height.toNat + chain.headers.length + (a ++ b).length < 2 ^ 32)
    (accepted : chain.accepts btc ⟨chain.tipHeight + 1, a ++ b, nowUnix⟩ = true)
    (result : chain.afterSubmit btc ⟨chain.tipHeight + 1, a ++ b, nowUnix⟩ = final) :
    chain.accepts btc ⟨chain.tipHeight + 1, a, nowUnix⟩ = true ∧
      ∃ middle, chain.afterSubmit btc ⟨chain.tipHeight + 1, a, nowUnix⟩ = middle ∧
        middle.accepts btc ⟨middle.tipHeight + 1, b, nowUnix⟩ = true ∧
        middle.afterSubmit btc ⟨middle.tipHeight + 1, b, nowUnix⟩ = final := by
  have afterwards := valid.afterSubmit ⟨chain.tipHeight + 1, a ++ b, nowUnix⟩
  rw [result] at afterwards
  obtain ⟨small, batch, grows, rfl⟩ :=
    (extension_iff valid.stored nowUnix (a ++ b) perCall room).mp ⟨accepted, result⟩
  have unwrapped : chain.baseHeight.toNat + chain.headers.length + (a ++ b).length < 2 ^ 32 := by
    rcases unwrapped with pow | small
    · have below := afterwards.no_wrap pow
      rw [foldl_push_length, grows.length, foldl_push] at below
      simpa only [Nat.add_assoc] using below
    · rwa [valid.baseHeight_eq]
  obtain ⟨first, second, rfl, left, right⟩ := grows_append.mp grows
  rw [List.length_append] at perCall room unwrapped
  have firstCall := (extension_iff valid.stored nowUnix a (by omega)
    (by omega)).mpr ⟨fun nonempty => small (by simp [nonempty]), first, left, rfl⟩
  have stored := (valid.afterSubmit ⟨chain.tipHeight + 1, a, nowUnix⟩).stored
  rw [firstCall.2] at stored
  have length := foldl_push_length chain first
  rw [left.length] at length
  have secondCall := (extension_iff stored nowUnix b (by omega)
    (by omega)).mpr ⟨?_, second, right, rfl⟩
  · rw [List.foldl_append]
    exact ⟨firstCall.1, _, firstCall.2, secondCall⟩
  · intro nonempty
    have positive := List.length_pos_iff.mpr nonempty
    have base : (first.foldl push chain).baseHeight = chain.baseHeight := by rw [foldl_push]
    rw [length, base]
    omega

theorem accepts_whole {a b : List Bytes} {middle : HeaderChain}
    (valid : chain.Valid btc network checkpoint)
    (perCall : (a ++ b).length ≤ MAX_HEADERS_PER_SUBMIT)
    (room : chain.headers.length + (a ++ b).length ≤ MAX_STORED_HEADERS)
    (accepted : chain.accepts btc ⟨chain.tipHeight + 1, a, nowUnix⟩ = true)
    (result : chain.afterSubmit btc ⟨chain.tipHeight + 1, a, nowUnix⟩ = middle)
    (second : middle.accepts btc ⟨middle.tipHeight + 1, b, nowUnix⟩ = true) :
    chain.accepts btc ⟨chain.tipHeight + 1, a ++ b, nowUnix⟩ = true ∧
      chain.afterSubmit btc ⟨chain.tipHeight + 1, a ++ b, nowUnix⟩
        = middle.afterSubmit btc ⟨middle.tipHeight + 1, b, nowUnix⟩ := by
  have stored := (valid.afterSubmit ⟨chain.tipHeight + 1, a, nowUnix⟩).stored
  rw [result] at stored
  have parts : (a ++ b).length = a.length + b.length := List.length_append
  obtain ⟨smallFirst, first, left, rfl⟩ :=
    (extension_iff valid.stored nowUnix a (by omega) (by omega)).mp ⟨accepted, result⟩
  have length := foldl_push_length chain first
  rw [left.length] at length
  obtain ⟨smallSecond, second, right, final⟩ :=
    (extension_iff stored nowUnix b (by omega) (by omega)).mp ⟨second, rfl⟩
  refine (extension_iff valid.stored nowUnix (a ++ b) perCall room).mpr
    ⟨?_, first ++ second, ?_, ?_⟩
  · intro nonempty
    by_cases empty : a = []
    · subst empty
      cases left
      exact smallSecond (by simpa using nonempty)
    · exact smallFirst empty
  · exact grows_append.mpr ⟨first, second, rfl, left, right⟩
  · rw [final, List.foldl_append]

/-- Submitting two batches as one at the tip succeeds exactly when submitting
    them one after the other does, with the same chain in the end, if no height
    of the batch wraps. Proof of work alone rules a wrap out. -/
theorem split_extension (btc : Crate) (network : Network) (checkpoint : Checkpoint)
    (calls : List SubmitCall) (nowUnix : UInt64) (a b : List Bytes) :
    let chain := (new network checkpoint).run btc calls
    let whole : SubmitCall := ⟨chain.tipHeight + 1, a ++ b, nowUnix⟩
    let first : SubmitCall := ⟨chain.tipHeight + 1, a, nowUnix⟩
    let middle := chain.afterSubmit btc first
    let second : SubmitCall := ⟨middle.tipHeight + 1, b, nowUnix⟩
    (a ++ b).length ≤ MAX_HEADERS_PER_SUBMIT →
    chain.headers.length + (a ++ b).length ≤ MAX_STORED_HEADERS →
    (network.enforcesPow = true ∨
      checkpoint.height.toNat + chain.headers.length + (a ++ b).length < 2 ^ 32) →
    (chain.accepts btc whole = true ↔
      chain.accepts btc first = true ∧ middle.accepts btc second = true) ∧
    (chain.accepts btc whole = true →
      chain.afterSubmit btc whole = middle.afterSubmit btc second) := by
  intro chain whole first middle second perCall room unwrapped
  have valid : chain.Valid btc network checkpoint := run_valid btc network checkpoint calls
  have halves : chain.accepts btc whole = true →
      chain.accepts btc first = true ∧ middle.accepts btc second = true ∧
        middle.afterSubmit btc second = chain.afterSubmit btc whole := by
    intro accepted
    obtain ⟨firstAccepted, _, rfl, rest⟩ :=
      accepts_halves valid perCall room unwrapped accepted rfl
    exact ⟨firstAccepted, rest⟩
  constructor
  · constructor
    · intro accepted
      obtain ⟨firstAccepted, secondAccepted, -⟩ := halves accepted
      exact ⟨firstAccepted, secondAccepted⟩
    · rintro ⟨firstAccepted, secondAccepted⟩
      exact (accepts_whole valid perCall room firstAccepted rfl secondAccepted).1
  · intro accepted
    exact (halves accepted).2.2.symm

/-- Two regtest headers, cut in the middle. -/
theorem split_extension_regtest :
    let chain := (new .regtest sampleCheckpoint).run easyThenHard []
    let middle := chain.afterSubmit easyThenHard
      ⟨chain.tipHeight + 1, [easyFirst.serialize], 2000⟩
    chain.accepts easyThenHard ⟨chain.tipHeight + 1, [easyFirst.serialize], 2000⟩ = true ∧
      middle.accepts easyThenHard ⟨middle.tipHeight + 1, [easySecond.serialize], 2000⟩ = true := by
  exact (split_extension easyThenHard .regtest sampleCheckpoint [] 2000
    [easyFirst.serialize] [easySecond.serialize] (by decide) (by decide)
    (.inr (by decide))).1.mp (by decide +kernel)

/-- A regtest checkpoint two below the end of the 32-bit heights. -/
def lastCheckpoint : Checkpoint := ⟨4294967294, Word.zero 32, 0x207fffff, 1000, none⟩

/-- As one batch the second header gets the wrapped height zero and passes. Cut
    in two, its half would have to start at height zero, below the checkpoint. -/
theorem split_extension_fails_at_wrap :
    let chain := (new .regtest lastCheckpoint).run easyThenHard []
    let whole : SubmitCall :=
      ⟨chain.tipHeight + 1, [easyFirst.serialize] ++ [easySecond.serialize], 2000⟩
    let first : SubmitCall := ⟨chain.tipHeight + 1, [easyFirst.serialize], 2000⟩
    let middle := chain.afterSubmit easyThenHard first
    let second : SubmitCall := ⟨middle.tipHeight + 1, [easySecond.serialize], 2000⟩
    whole.rawHeaders.length ≤ MAX_HEADERS_PER_SUBMIT ∧
      chain.headers.length + whole.rawHeaders.length ≤ MAX_STORED_HEADERS ∧
      chain.accepts easyThenHard whole = true ∧
      ¬ (chain.accepts easyThenHard first = true ∧
        middle.accepts easyThenHard second = true) := by
  decide +kernel

end

end EnclaveSigner.Spv.HeaderChain
