import EnclaveSigner.Evm.Events
import EnclaveSigner.Rgb.RejectList

/-! # Reading a reject list

The list is read page by page at the latest block, and its length also at the
finalized one. Each call is made only while the slowest call so far still fits
into the time of the request, so the reads carry that time beside the state of
the node. Times are in nanoseconds.
-/

namespace EnclaveSigner.Evm

open Lib Rgb

structure Entry where
  opId : Word 32
  assignmentType : UInt16
  no : UInt16
  reject : Bool
  deriving DecidableEq

/-- The ABI of the reject list contract. -/
structure ListCodec where
  encodeLengthCall : Bytes
  encodeEntriesCall : U256 → U256 → Bytes
  decodeLength : Bytes → Except String U256
  decodeEntries : Bytes → Except String (List Entry)

def PAGE_SIZE : Nat := 1000

def MAX_ENTRIES : Nat := 20000

def RESPONSE_MARGIN : Nat := 2000000000

/-- The entries of the list, and how many of them are finalized. -/
structure RejectListLog where
  entries : List RejectListEntry
  finalized : Nat
  deriving DecidableEq

def entry (e : Entry) : RejectListEntry := ⟨⟨e.opId, e.assignmentType, e.no⟩, e.reject⟩

def listError (contract : Address) (detail : String) : EnclaveError :=
  .crossCheck s!"reject list 0x{hexEncode contract.val} {detail} - refusing to sign"

def tagName : EvmFinalityTag → String
  | .latest => "Latest"
  | .safe => "Safe"
  | .finalized => "Finalized"

/-- The node, and how long its slowest call took. -/
structure Budgeted (ν : Type) where
  node : ν
  slowest : Nat

namespace Budgeted

variable {ν α : Type} (clock : ν → Nat) (provider : EvmReceiptProvider ν) (codec : ListCodec)
  (contract : Address) (deadline : Nat)

/-- One call, if the slowest one so far still fits before the deadline. -/
def run (call : EStateM EnclaveError ν α) : EStateM EnclaveError (Budgeted ν) α := fun rpc =>
  let started := clock rpc.node
  if started + rpc.slowest + RESPONSE_MARGIN > deadline then
    .error (listError contract
      "read exceeded the request budget (list too long or EVM RPC too slow)") rpc
  else
    match call rpc.node with
    | .ok out node => .ok out ⟨node, max rpc.slowest (clock node - started)⟩
    | .error error node => .error error ⟨node, max rpc.slowest (clock node - started)⟩

def start (reads : EStateM EnclaveError (Budgeted ν) α) : EStateM EnclaveError ν α := fun node =>
  match reads ⟨node, 0⟩ with
  | .ok out rpc => .ok out rpc.node
  | .error error rpc => .error error rpc.node

def blockNumber (tag : EvmFinalityTag) : EStateM EnclaveError (Budgeted ν) UInt64 := do
  let found ← run clock contract deadline (provider.getBlockByTag tag)
  okOr (EnclaveError.crossCheck (s!"evm-rpc: the node reports no {tagName tag} block - " ++
    "cannot read the reject list")) (found.map BlockData.number)

def lengthAt (block : UInt64) : EStateM EnclaveError (Budgeted ν) (Option UInt64) := do
  let raw ← run clock contract deadline (provider.call contract codec.encodeLengthCall block)
  if raw.isEmpty then pure none
  else do
    let len ← (codec.decodeLength raw).mapError
      fun error => listError contract s!"returned a bad length: {error}"
    let len ← okOr (listError contract s!"length {len.toNat} does not fit u64") (u64OfU256 len)
    pure (some len)

def readPage (start stop : Nat) (block : UInt64) :
    EStateM EnclaveError (Budgeted ν) (List RejectListEntry) := do
  let data := codec.encodeEntriesCall (BitVec.ofNat 256 start) (BitVec.ofNat 256 stop)
  let raw ← run clock contract deadline (provider.call contract data block)
  let page ← (codec.decodeEntries raw).mapError
    fun error => listError contract s!"returned a bad entries page: {error}"
  refuse (page.length ≠ stop - start)
    (listError contract s!"returned {page.length} entries for [{start}, {stop})")
  pure (page.map entry)

/-- The pages from `start` on. Every round reads at least one entry, so as many
    rounds as there are entries are enough. -/
def readPages (block : UInt64) (len : Nat) :
    Nat → Nat → EStateM EnclaveError (Budgeted ν) (List RejectListEntry)
  | 0, _ => pure []
  | rounds + 1, start =>
      if start < len then do
        let stop := min (start + PAGE_SIZE) len
        let page ← readPage clock provider codec contract deadline start stop block
        let rest ← readPages block len rounds stop
        pure (page ++ rest)
      else pure []

def readEntries (len block : UInt64) :
    EStateM EnclaveError (Budgeted ν) (List RejectListEntry) :=
  readPages clock provider codec contract deadline block len.toNat len.toNat 0

end Budgeted

section Read

variable {ν : Type} (clock : ν → Nat) (provider : EvmReceiptProvider ν) (codec : ListCodec)
  (contract : Address) (deadline : Nat)

def readLog : EStateM EnclaveError (Budgeted ν) RejectListLog := do
  let latest ← Budgeted.blockNumber clock provider contract deadline .latest
  let head ← Budgeted.blockNumber clock provider contract deadline .finalized
  let finalized := min head latest
  let early ← Budgeted.lengthAt clock provider codec contract deadline finalized
  let finalizedLen := early.getD 0
  let found ← Budgeted.lengthAt clock provider codec contract deadline latest
  let len ← okOr (listError contract "has no contract code at the latest block") found
  refuse (finalizedLen > len) (listError contract
    (s!"is shorter at the latest block ({len}) than at the finalized one ({finalizedLen})"))
  refuse (len.toNat > MAX_ENTRIES) (listError contract
    s!"holds {len} entries, over the {MAX_ENTRIES} this enclave reads")
  let entries ← Budgeted.readEntries clock provider codec contract deadline len latest
  pure ⟨entries, finalizedLen.toNat⟩

/-- Read the list within the time of the request. -/
def readRejectList : EStateM EnclaveError ν RejectListLog :=
  Budgeted.start (readLog clock provider codec contract deadline)

end Read

end EnclaveSigner.Evm
