import EnclaveSigner.Evm.RejectList
import EnclaveSigner.Server.Bfa

/-! # The decisions of an on-chain reject list

The enclave reads the list of an asset over its pinned node, and decides from
the entries and the count of the finalized ones.
-/

namespace EnclaveSigner.Server

open Lib Rgb Evm

section Reading

variable {ν : Type} (clock : ν → Nat) (codec : ListCodec) (cfg : BridgeConfig)
  (launchCell : Option (Launch ν))

/-- The decisions of the list of an asset, from the pinned node. -/
def readDecisions (list : RejectListContract) (deadline : Nat) :
    EStateM EnclaveError ν Decisions := do
  refuse (list.chainId ≠ cfg.chainId)
    (EnclaveError.crossCheck (s!"reject list 0x{hexEncode list.address.val} is on chain " ++
      s!"{list.chainId}, but this enclave reads only EVM_CHAIN_ID {cfg.chainId} " ++
      "- refusing to sign"))
  let launched ← okOr (EnclaveError.notReady "endpoints-unset") launchCell
  let client ← okOr (EnclaveError.crossCheck ("the asset declares a reject list, but the EVM " ++
    "RPC client is unavailable - refusing to sign")) launched.evmRpcClient
  let _ ← checkNodeChainId client cfg.chainId
  let log ← readRejectList clock client codec list.address deadline
  pure (decisions log.entries log.finalized)

end Reading

/-- The list on the chain: each entry with the block that appended it, and the block
    that deployed the contract. -/
structure OnChainList where
  deployed : Nat
  log : AppendLog Nat Entry
  noneBefore : ∀ appended ∈ log.entries, deployed ≤ appended.1

/-- The node answers from one chain, with these two heads. -/
structure AnswersFrom {ν : Type} (provider : EvmReceiptProvider ν) (codec : ListCodec)
    (contract : Address) (list : OnChainList) (latest finalized : UInt64) : Prop where
  latestHead : ∀ s block s', provider.getBlockByTag .latest s = .ok (some block) s' →
    block.number = latest
  finalizedHead : ∀ s block s', provider.getBlockByTag .finalized s = .ok (some block) s' →
    block.number = finalized
  noCode : ∀ block s raw s', provider.call contract codec.encodeLengthCall block s = .ok raw s' →
    block.toNat < list.deployed → raw = []
  length : ∀ block s raw s', provider.call contract codec.encodeLengthCall block s = .ok raw s' →
    list.deployed ≤ block.toNat →
    raw ≠ [] ∧ ∃ len, codec.decodeLength raw = .ok len ∧
      len.toNat = (list.log.asOf block.toNat).length
  entries : ∀ start stop block s raw s',
    provider.call contract (codec.encodeEntriesCall start stop) block s = .ok raw s' →
    list.deployed ≤ block.toNat → start.toNat ≤ stop.toNat →
    stop.toNat ≤ (list.log.asOf block.toNat).length →
    codec.decodeEntries raw
      = .ok (((list.log.asOf block.toNat).take stop.toNat).drop start.toNat)

section Read

variable {ν : Type} {clock : ν → Nat} {provider : EvmReceiptProvider ν} {codec : ListCodec}
  {contract : Address} {list : OnChainList} {latest finalized : UInt64} {deadline : Nat}
  {rpc rpc' : Budgeted ν}

theorem run_ok {α : Type} {call : EStateM EnclaveError ν α} {out : α}
    (ran : Budgeted.run clock contract deadline call rpc = .ok out rpc') :
    ∃ node, call rpc.node = .ok out node := by
  simp only [Budgeted.run] at ran
  split_ifs at ran with late
  cases called : call rpc.node with
  | error e node =>
      rw [called] at ran
      cases ran
  | ok result node =>
      rw [called] at ran
      cases ran
      exact ⟨node, rfl⟩

theorem start_ok {α : Type} {reads : EStateM EnclaveError (Budgeted ν) α} {out : α} {node node' : ν}
    (ran : Budgeted.start reads node = .ok out node') : ∃ rpc, reads ⟨node, 0⟩ = .ok out rpc := by
  unfold Budgeted.start at ran
  cases called : reads ⟨node, 0⟩ with
  | error e rpc =>
      rw [called] at ran
      cases ran
  | ok result rpc =>
      rw [called] at ran
      cases ran
      exact ⟨rpc, rfl⟩

theorem blockNumber_ok {tag : EvmFinalityTag} {number : UInt64}
    (read : Budgeted.blockNumber clock provider contract deadline tag rpc = .ok number rpc') :
    ∃ block node, provider.getBlockByTag tag rpc.node = .ok (some block) node ∧
      block.number = number := by
  unfold Budgeted.blockNumber at read
  obtain ⟨found, middle, ran, taken⟩ := run_bind_ok.mp read
  obtain ⟨block, rfl, same⟩ := Option.map_eq_some_iff.mp (okOr_ok.mp (lift_ok.mp taken).1)
  obtain ⟨node, called⟩ := run_ok ran
  exact ⟨block, node, called, same⟩

theorem asOf_undeployed {block : Nat} (early : block < list.deployed) :
    list.log.asOf block = [] := by
  rw [AppendLog.asOf, List.map_eq_nil_iff, List.filter_eq_nil_iff]
  intro appended member old
  have after := list.noneBefore appended member
  have before := of_decide_eq_true old
  omega

theorem lengthAt_ok (answers : AnswersFrom provider codec contract list latest finalized)
    {block : UInt64} {len : Option UInt64}
    (read : Budgeted.lengthAt clock provider codec contract deadline block rpc = .ok len rpc') :
    (len.getD 0).toNat = (list.log.asOf block.toNat).length ∧
      (len ≠ none → list.deployed ≤ block.toNat) := by
  unfold Budgeted.lengthAt at read
  obtain ⟨raw, middle, ran, taken⟩ := run_bind_ok.mp read
  obtain ⟨node, called⟩ := run_ok ran
  by_cases code : list.deployed ≤ block.toNat
  · obtain ⟨nonempty, n, decoded, value⟩ := answers.length _ _ _ _ called code
    rw [if_neg (by simpa using nonempty), decoded] at taken
    obtain ⟨_, _, same, taken⟩ := run_bind_ok.mp taken
    obtain ⟨same, rfl⟩ := lift_ok.mp same
    cases same
    obtain ⟨short, _, fits, taken⟩ := run_bind_ok.mp taken
    have whole := u64OfU256_eq_some.mp (okOr_ok.mp (lift_ok.mp fits).1)
    cases taken
    refine ⟨?_, fun _ => code⟩
    rw [Option.getD_some, ← value, whole, u256OfU64, BitVec.toNat_ofNat, Nat.mod_eq_of_lt]
    exact short.toNat_lt.trans (by norm_num)
  · have empty := answers.noCode _ _ _ _ called (Nat.not_le.mp code)
    rw [if_pos (by simp [empty])] at taken
    cases taken
    refine ⟨?_, fun some => absurd rfl some⟩
    rw [asOf_undeployed (Nat.not_le.mp code)]
    rfl

theorem readPage_ok (answers : AnswersFrom provider codec contract list latest finalized)
    {block : UInt64} (code : list.deployed ≤ block.toNat) {start stop : Nat}
    (ordered : start ≤ stop) (inside : stop ≤ (list.log.asOf block.toNat).length)
    (small : (list.log.asOf block.toNat).length < 2 ^ 64) {page : List RejectListEntry}
    (read : Budgeted.readPage clock provider codec contract deadline start stop block rpc
      = .ok page rpc') :
    page = (((list.log.asOf block.toNat).take stop).drop start).map entry := by
  unfold Budgeted.readPage at read
  obtain ⟨raw, _, ran, taken⟩ := run_bind_ok.mp read
  obtain ⟨node, called⟩ := run_ok ran
  have word : ∀ n, n ≤ (list.log.asOf block.toNat).length → (BitVec.ofNat 256 n).toNat = n := by
    intro n le
    rw [BitVec.toNat_ofNat, Nat.mod_eq_of_lt]
    exact (le.trans_lt small).trans (by norm_num)
  have decoded := answers.entries _ _ _ _ _ _ called code
    (by rwa [word _ (ordered.trans inside), word _ inside]) (by rwa [word _ inside])
  rw [word _ (ordered.trans inside), word _ inside] at decoded
  rw [decoded] at taken
  obtain ⟨_, _, same, taken⟩ := run_bind_ok.mp taken
  obtain ⟨same, rfl⟩ := lift_ok.mp same
  cases same
  obtain ⟨_, _, -, taken⟩ := run_bind_ok.mp taken
  cases taken
  rfl

theorem readPages_ok (answers : AnswersFrom provider codec contract list latest finalized)
    {block : UInt64} (code : list.deployed ≤ block.toNat)
    (small : (list.log.asOf block.toNat).length < 2 ^ 64) {rounds start : Nat}
    (enough : (list.log.asOf block.toNat).length ≤ start + rounds)
    {entries : List RejectListEntry}
    (read : Budgeted.readPages clock provider codec contract deadline block
      (list.log.asOf block.toNat).length rounds start rpc = .ok entries rpc') :
    entries = ((list.log.asOf block.toNat).drop start).map entry := by
  induction rounds generalizing start rpc entries with
  | zero =>
      cases read
      rw [List.drop_eq_nil_of_le (by omega)]
      rfl
  | succ rounds ih =>
      unfold Budgeted.readPages at read
      split at read
      · rename_i more
        obtain ⟨page, _, first, taken⟩ := run_bind_ok.mp read
        obtain ⟨rest, _, later, taken⟩ := run_bind_ok.mp taken
        cases taken
        have page_eq := readPage_ok answers code (by simp only [PAGE_SIZE]; omega)
          (Nat.min_le_right _ _) small first
        have rest_eq := ih (by simp only [PAGE_SIZE]; omega) later
        rw [page_eq, rest_eq, ← List.map_append]
        congr 1
        have cut : start ≤ min (start + PAGE_SIZE) (list.log.asOf block.toNat).length := by
          simp only [PAGE_SIZE]
          omega
        rw [List.drop_take, ← Nat.add_sub_of_le cut, Nat.add_sub_cancel_left, ← List.drop_drop,
          List.take_append_drop]
      · rename_i done
        cases read
        rw [List.drop_eq_nil_of_le (by omega)]
        rfl

theorem readLog_ok (answers : AnswersFrom provider codec contract list latest finalized)
    {log : RejectListLog}
    (read : readLog clock provider codec contract deadline rpc = .ok log rpc') :
    log.entries = (list.log.asOf latest.toNat).map entry ∧
      log.finalized = (list.log.asOf (min finalized.toNat latest.toNat)).length := by
  unfold readLog at read
  obtain ⟨number, _, first, read⟩ := run_bind_ok.mp read
  obtain ⟨head, _, second, read⟩ := run_bind_ok.mp read
  obtain ⟨early, _, before, read⟩ := run_bind_ok.mp read
  obtain ⟨found, _, now, read⟩ := run_bind_ok.mp read
  obtain ⟨len, _, present, read⟩ := run_bind_ok.mp read
  obtain ⟨_, _, _, read⟩ := run_bind_ok.mp read
  obtain ⟨_, _, _, read⟩ := run_bind_ok.mp read
  obtain ⟨entries, _, pages, done⟩ := run_bind_ok.mp read
  cases done
  cases okOr_ok.mp (lift_ok.mp present).1
  obtain ⟨block, _, top, rfl⟩ := blockNumber_ok first
  obtain rfl := answers.latestHead _ _ _ top
  obtain ⟨settled, _, top, rfl⟩ := blockNumber_ok second
  obtain rfl := answers.finalizedHead _ _ _ top
  have settledLen := (lengthAt_ok answers before).1
  obtain ⟨length, code⟩ := lengthAt_ok answers now
  rw [Option.getD_some] at length
  have small : (list.log.asOf block.number.toNat).length < 2 ^ 64 := by
    rw [← length]
    exact len.toNat_lt
  refine ⟨?_, ?_⟩
  · rw [Budgeted.readEntries, length] at pages
    exact readPages_ok answers (code (Option.some_ne_none _)) small (Nat.le_add_left _ _) pages
  · refine settledLen.trans ?_
    exact congrArg (fun block => (list.log.asOf block).length) (toNat_min64 _ _)

end Read

/-- The decisions that the entries on a chain stand for: a rejection counts from
    its block on, and the last finalized entry of an output decides otherwise. -/
structure Decides (list : OnChainList) (latest finalized : Nat) (out : Decisions) : Prop where
  rejected : ∀ opout, opout ∈ out.reject ↔
    (∃ block appended, (block, appended) ∈ list.log.entries ∧ finalized < block ∧ block ≤ latest ∧
      entry appended = ⟨opout, true⟩) ∨
    lastDecision opout ((list.log.asOf (min finalized latest)).map entry) = some true
  allowed : ∀ opout, opout ∈ out.allow ↔ opout ∉ out.reject ∧
    lastDecision opout ((list.log.asOf (min finalized latest)).map entry) = some false
  disjoint : ∀ opout, ¬ (opout ∈ out.reject ∧ opout ∈ out.allow)

theorem decides_of_log {list : OnChainList} {latest finalized : Nat} {log : RejectListLog}
    (entries : log.entries = (list.log.asOf latest).map entry)
    (count : log.finalized = (list.log.asOf (min finalized latest)).length) :
    Decides list latest finalized (decisions log.entries log.finalized) := by
  have whole : decisions log.entries log.finalized
      = decisions ((list.log.asOf (min finalized latest)).map entry
          ++ (list.log.between (min finalized latest) latest).map entry)
        ((list.log.asOf (min finalized latest)).map entry).length := by
    rw [entries, count, List.length_map, ← List.map_append,
      ← list.log.asOf_eq_append (Nat.min_le_right _ _)]
  have pending : ∀ opout,
      ⟨opout, true⟩ ∈ (list.log.between (min finalized latest) latest).map entry ↔
        ∃ block appended, (block, appended) ∈ list.log.entries ∧ finalized < block ∧
          block ≤ latest ∧ entry appended = ⟨opout, true⟩ := by
    intro opout
    rw [List.mem_map]
    constructor
    · rintro ⟨appended, member, same⟩
      obtain ⟨block, member, after, upTo⟩ := list.log.mem_between.mp member
      exact ⟨block, appended, member, by omega, upTo, same⟩
    · rintro ⟨block, appended, member, after, upTo, same⟩
      exact ⟨appended, list.log.mem_between.mpr ⟨block, member, by omega, upTo⟩, same⟩
  rw [whole]
  refine ⟨fun opout => ?_, fun opout => ?_, fun opout => ?_⟩
  · exact mem_reject_decisions.trans (or_congr (pending opout) Iff.rfl)
  · rw [mem_allow_decisions, mem_reject_decisions, not_or]
    constructor
    · rintro ⟨last, free⟩
      exact ⟨⟨free, by rw [last]; decide⟩, last⟩
    · rintro ⟨⟨free, -⟩, last⟩
      exact ⟨last, free⟩
  · rw [mem_allow_decisions, mem_reject_decisions]
    rintro ⟨held | last, other, free⟩
    · exact free held
    · rw [last] at other
      cases other

theorem decisions_append (entries more : List RejectListEntry) {finalized : Nat}
    (inside : finalized ≤ entries.length) :
    (decisions entries finalized).reject ⊆ (decisions (entries ++ more) finalized).reject ∧
      (decisions (entries ++ more) finalized).allow ⊆ (decisions entries finalized).allow := by
  have longer : finalized ≤ (entries ++ more).length := by
    rw [List.length_append]
    omega
  rw [decisions_eq_split inside, decisions_eq_split longer, List.take_append_of_le_length inside,
    List.drop_append_of_le_length inside]
  constructor
  · intro opout
    rw [mem_reject_decisions, mem_reject_decisions, List.mem_append]
    rintro (held | last)
    · exact .inl (.inl held)
    · exact .inr last
  · intro opout
    rw [mem_allow_decisions, mem_allow_decisions, List.mem_append, not_or]
    rintro ⟨last, free, -⟩
    exact ⟨last, free⟩

theorem readRejectList_ok {ν : Type} {clock : ν → Nat} {provider : EvmReceiptProvider ν}
    {codec : ListCodec} {contract : Address} {list : OnChainList} {latest finalized : UInt64}
    {deadline : Nat} (answers : AnswersFrom provider codec contract list latest finalized)
    {node node' : ν} {log : RejectListLog}
    (read : readRejectList clock provider codec contract deadline node = .ok log node') :
    Decides list latest.toNat finalized.toNat (decisions log.entries log.finalized) := by
  obtain ⟨rpc, ran⟩ := start_ok read
  obtain ⟨entries, count⟩ := readLog_ok answers ran
  exact decides_of_log entries count

/-- Whatever the node reads, a list that is read decides as the entries on its
    chain do, and no entry behind the finalized ones loosens a decision. -/
theorem reject_list_decides {ν : Type} (clock : ν → Nat) (provider : EvmReceiptProvider ν)
    (codec : ListCodec) (contract : Address) (list : OnChainList) (latest finalized : UInt64)
    (answers : AnswersFrom provider codec contract list latest finalized) :
    (∀ deadline node log node',
      readRejectList clock provider codec contract deadline node = .ok log node' →
      Decides list latest.toNat finalized.toNat (decisions log.entries log.finalized)) ∧
    (∀ cfg chainId deadline node out node',
      readDecisions clock codec cfg (some ⟨some provider⟩) ⟨chainId, contract⟩ deadline node
        = .ok out node' →
      Decides list latest.toNat finalized.toNat out) ∧
    ∀ (entries more : List RejectListEntry) (count : Nat), count ≤ entries.length →
      (decisions entries count).reject ⊆ (decisions (entries ++ more) count).reject ∧
      (decisions (entries ++ more) count).allow ⊆ (decisions entries count).allow := by
  refine ⟨?_, ?_, ?_⟩
  · intro deadline node log node' read
    exact readRejectList_ok answers read
  · intro cfg chainId deadline node out node' read
    unfold readDecisions at read
    obtain ⟨_, _, _, read⟩ := run_bind_ok.mp read
    obtain ⟨launched, _, set, read⟩ := run_bind_ok.mp read
    obtain ⟨client, _, present, read⟩ := run_bind_ok.mp read
    obtain ⟨_, _, _, read⟩ := run_bind_ok.mp read
    obtain ⟨log, _, list, done⟩ := run_bind_ok.mp read
    cases okOr_ok.mp (lift_ok.mp set).1
    cases okOr_ok.mp (lift_ok.mp present).1
    cases done
    exact readRejectList_ok answers list
  · intro entries more count inside
    exact decisions_append entries more inside

section Samples

def sampleEntries : List (Nat × Entry) := [
  (4, ⟨.fill 32 0xaa, 4000, 0, false⟩), (5, ⟨.fill 32 0xbb, 4000, 1, true⟩),
  (6, ⟨.fill 32 0xbb, 4000, 1, false⟩), (8, ⟨.fill 32 0xaa, 4000, 0, true⟩),
  (9, ⟨.fill 32 0xcc, 4000, 2, false⟩)]

def sampleList : OnChainList where
  deployed := 3
  log := ⟨sampleEntries, by decide⟩
  noneBefore := by decide

def encodeEntry (e : Entry) : Bytes :=
  e.opId.val ++ natBe 32 e.assignmentType.toNat ++ natBe 32 e.no.toNat
    ++ natBe 32 (if e.reject then 1 else 0)

def samplePage (entries : List Entry) : Bytes :=
  natBe 32 0x20 ++ natBe 32 entries.length ++ entries.flatMap encodeEntry

def sampleListCodec : ListCodec where
  encodeLengthCall := [0x1f, 0x7b, 0x6d, 0x32]
  encodeEntriesCall start stop :=
    [0x17, 0xb9, 0x37, 0xe6] ++ (natBe 32 start.toNat ++ natBe 32 stop.toNat)
  decodeLength raw := if raw.length = 32 then .ok (BitVec.ofNat 256 (ofBe raw)) else .error "length"
  decodeEntries raw := ((sampleEntries.map Prod.snd).inits.find? (samplePage · = raw)).elim
    (.error "entries") .ok

/-- A node of the sample list. Its finalized block may be ahead of its latest one. -/
def sampleListNode (latest finalized : UInt64) : EvmReceiptProvider Unit where
  getTransactionReceipt _ := pure none
  getBlockByTag
    | .latest => pure (some ⟨latest, Word.ofNatBe 32 latest.toNat⟩)
    | _ => pure (some ⟨finalized, Word.ofNatBe 32 finalized.toNat⟩)
  getBlockByNumber _ := pure none
  getChainId := pure 1
  call _ data block :=
    let entries := sampleList.log.asOf block.toNat
    if data = sampleListCodec.encodeLengthCall then
      pure (if block < 3 then [] else natBe 32 entries.length)
    else if data = sampleListCodec.encodeEntriesCall 0 (BitVec.ofNat 256 entries.length) then
      pure (samplePage entries)
    else throw (.crossCheck "evm-rpc: no answer")

theorem sampleCalls_ne (start stop : U256) :
    sampleListCodec.encodeEntriesCall start stop ≠ sampleListCodec.encodeLengthCall := by
  intro same
  have length := congrArg List.length same
  simp [sampleListCodec, natBe_length] at length

theorem sampleList_asOf (block : Nat) :
    sampleList.log.asOf block ∈ (sampleEntries.map Prod.snd).inits := by
  rw [List.mem_inits]
  have whole := sampleList.log.asOf_eq_append (le_max_left block 9)
  have last : sampleList.log.asOf (max block 9) = sampleEntries.map Prod.snd := by
    rw [AppendLog.asOf, List.filter_eq_self.mpr]
    · rfl
    · intro appended member
      have below : ∀ appended ∈ sampleEntries, appended.1 ≤ 9 := by decide
      exact decide_eq_true ((below appended member).trans (le_max_right _ _))
  exact ⟨_, whole.symm.trans last⟩

theorem sampleListNode_answers (contract : Address) (latest finalized : UInt64) :
    AnswersFrom (sampleListNode latest finalized) sampleListCodec contract sampleList latest
      finalized := by
  have decodes : ∀ entries ∈ (sampleEntries.map Prod.snd).inits,
      sampleListCodec.decodeLength (natBe 32 entries.length)
        = .ok (BitVec.ofNat 256 entries.length) ∧
      sampleListCodec.decodeEntries (samplePage entries) = .ok entries ∧
      entries.length ≤ 5 := by decide +kernel
  refine ⟨?_, ?_, ?_, ?_, ?_⟩
  · rintro s block s' ⟨⟩
    rfl
  · rintro s block s' ⟨⟩
    rfl
  · intro block s raw s' called early
    have before : block < 3 := UInt64.lt_iff_toNat_lt.mpr early
    simp only [sampleListNode, if_true, if_pos before] at called
    cases called
    rfl
  · intro block s raw s' called code
    have after : ¬ block < 3 := fun before => absurd (UInt64.lt_iff_toNat_lt.mp before) code.not_gt
    simp only [sampleListNode, if_true, if_neg after] at called
    cases called
    obtain ⟨decoded, -, short⟩ := decodes _ (sampleList_asOf block.toNat)
    refine ⟨fun empty => ?_, _, decoded, Nat.mod_eq_of_lt (by omega)⟩
    have := congrArg List.length empty
    simp [natBe_length] at this
  · intro start stop block s raw s' called code ordered inside
    obtain ⟨-, decoded, short⟩ := decodes _ (sampleList_asOf block.toNat)
    simp only [sampleListNode, if_neg (sampleCalls_ne start stop)] at called
    split_ifs at called with page
    · cases called
      obtain ⟨first, last⟩ := List.append_inj (List.append_cancel_left page) (by simp [natBe_length])
      have from0 : start.toNat = 0 := natBe_inj start.isLt (by decide) first
      have upTo := natBe_inj stop.isLt (BitVec.isLt _) last
      rw [BitVec.toNat_ofNat, Nat.mod_eq_of_lt (by omega)] at upTo
      rw [from0, upTo, List.drop_zero, List.take_length, decoded]
    · cases called

/-- One output is allowed and then rejected by an entry that is not finalized, one
    is rejected and then allowed. An allowance that is not finalized is not seen. -/
theorem reject_list_decides_sample :
    (∃ log, readRejectList (fun _ => 0) (sampleListNode 9 6) sampleListCodec (.fill 20 0x11)
        2000000000 () = .ok log () ∧
      Decides sampleList 9 6 (decisions log.entries log.finalized)) ∧
    decisions ((sampleEntries.map Prod.snd).map entry) 3
      = ⟨{⟨.fill 32 0xaa, 4000, 0⟩}, {⟨.fill 32 0xbb, 4000, 1⟩}⟩ := by
  have read : isOk (readRejectList (fun _ => 0) (sampleListNode 9 6) sampleListCodec
      (.fill 20 0x11) 2000000000 ()) = true := by decide +kernel
  obtain ⟨log, _, read⟩ := exists_of_isOk read
  have decided := (reject_list_decides (fun _ => 0) (sampleListNode 9 6) sampleListCodec
    (.fill 20 0x11) sampleList 9 6 (sampleListNode_answers _ 9 6)).1 _ _ _ _ read
  exact ⟨⟨log, read, decided⟩, by decide +kernel⟩

/-- The node's finalized block is ahead of its latest one. An output that was rejected
    between the two is allowed, although its last finalized entry rejects it. -/
theorem reject_list_behind_finalized :
    AnswersFrom (sampleListNode 6 9) sampleListCodec (.fill 20 0x11) sampleList 6 9 ∧
    ∃ log, readRejectList (fun _ => 0) (sampleListNode 6 9) sampleListCodec (.fill 20 0x11)
        2000000000 () = .ok log () ∧
      ⟨.fill 32 0xaa, 4000, 0⟩ ∈ (decisions log.entries log.finalized).allow ∧
      ⟨.fill 32 0xaa, 4000, 0⟩ ∉ (decisions log.entries log.finalized).reject ∧
      lastDecision ⟨.fill 32 0xaa, 4000, 0⟩ ((sampleList.log.asOf 9).map entry) = some true := by
  have answers := sampleListNode_answers (.fill 20 0x11) 6 9
  have read : isOk (readRejectList (fun _ => 0) (sampleListNode 6 9) sampleListCodec
      (.fill 20 0x11) 2000000000 ()) = true := by decide +kernel
  obtain ⟨log, _, read⟩ := exists_of_isOk read
  have decided := readRejectList_ok answers read
  have settled : lastDecision ⟨.fill 32 0xaa, 4000, 0⟩
      ((sampleList.log.asOf (min 9 6)).map entry) = some false := by decide +kernel
  have free : ⟨.fill 32 0xaa, 4000, 0⟩ ∉ (decisions log.entries log.finalized).reject := by
    rw [decided.rejected]
    rintro (⟨block, _, -, after, upTo, -⟩ | last)
    · exact absurd (after.trans_le upTo) (by decide)
    · cases settled.symm.trans last
  exact ⟨answers, log, read, (decided.allowed _).mpr ⟨free, settled⟩, free, by decide +kernel⟩

end Samples

end EnclaveSigner.Server
