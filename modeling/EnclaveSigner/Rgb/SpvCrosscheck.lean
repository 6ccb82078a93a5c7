import EnclaveSigner.Proto
import EnclaveSigner.Rgb.Consignment
import EnclaveSigner.Spv.Chain
import EnclaveSigner.Spv.Merkle

/-! # SPV cross-check

The witness transactions of a consignment must be in the header chain, deep
enough, and the request must carry exactly one Merkle proof for each of them.
Every block that a check relied on is pinned with its hash and the depth that
the check required. The pins are compared with the chain again when the key is
used.
-/

namespace EnclaveSigner.Rgb

open Lib Bitcoin Spv Proto

def SPV_MAX_TIP_AGE_SECS : UInt64 := 2 * 60 * 60

def SPV_MAX_TIP_FUTURE_SECS : UInt64 := 2 * 60 * 60

/-- Seconds since the epoch, or none while the clock is before it. -/
abbrev SystemTime := Option UInt64

def assertChainNotStale (chain : HeaderChain) (now : SystemTime) (maxAge maxFuture : UInt64) :
    Result Unit := do
  let nowUnix ← okOr (.internal ("system clock is before UNIX_EPOCH: " ++
    "second time provided was later than self")) now
  let tipTime := chain.tipTime.toUInt64
  match checkedSub64 tipTime nowUnix with
  | some futureSkew =>
      refuse (futureSkew > maxFuture) (.spv (s!"spv: chain tip is {futureSkew}s in the future " ++
        s!"(now = {nowUnix}, tip_time = {tipTime}, max future skew = {maxFuture}s)"))
  | none =>
      let age := nowUnix - tipTime
      refuse (age > maxAge) (.spv (s!"spv: chain tip is too stale (now = {nowUnix}, " ++
        s!"tip_time = {tipTime}, age = {age}s, max age = {maxAge}s) - " ++
        "listener may be frozen or hostile"))

def assertChainFresh (chain : HeaderChain) (now : SystemTime) : Result Unit :=
  assertChainNotStale chain now SPV_MAX_TIP_AGE_SECS SPV_MAX_TIP_FUTURE_SECS

def assertChainNet (consignmentChainNet : String) (network : Network) : Result Unit :=
  refuse (consignmentChainNet ≠ network.chainNet)
    (.spv (s!"consignment chain_net {debugQuote consignmentChainNet} does not match enclave " ++
      s!"network {networkName network} (expected {debugQuote network.chainNet})"))

def proofTxid (index : Nat) (proof : MerkleProofEntry) : Result (Word 32) := do
  let txid ← okOr (.spv s!"merkle_proofs[{index}].txid must be 32 bytes, got {proof.txid.length}")
    (Word.ofBytes? 32 proof.txid)
  refuse (proof.merklePath.length > MAX_MERKLE_PATH_DEPTH)
    (.spv (s!"merkle_proofs[{index}].merkle_path too deep: {proof.merklePath.length} siblings " ++
      s!"(max {MAX_MERKLE_PATH_DEPTH})"))
  pure txid

def siblingInternal (index : Nat) (sib : Bytes × Nat) : Result Sha256d := do
  let s ← okOr (.spv
    s!"merkle_proofs[{index}].merkle_path[{sib.2}] must be 32 bytes, got {sib.1.length}")
    (Word.ofBytes? 32 sib.1)
  pure s.reverse

def pathInternal (index : Nat) (path : List Bytes) : Result (List Sha256d) :=
  path.zipIdx.mapM (siblingInternal index)

def merkleErrorText (index : Nat) (proof : MerkleProofEntry) : MerkleError → String
  | .rootMismatch computed expected =>
      s!"merkle_proofs[{index}]: proof for txid {hexEncode proof.txid} failed: computed root " ++
        s!"{hexEncode computed.reverse.val} != header root {hexEncode expected.reverse.val} " ++
        s!"at block_height {proof.blockHeight}"
  | .badSiblingLength j len => s!"merkle_proofs[{index}].merkle_path[{j}] has wrong length {len}"
  | .positionOutOfRange position depth =>
      s!"merkle_proofs[{index}]: tx_position {position} is out of reach of a " ++
        s!"{depth}-sibling merkle_path"
  | .transactionShapedNode level =>
      s!"merkle_proofs[{index}]: the merkle node at level {level} is a 64-byte transaction, " ++
        s!"not a pair of hashes (txid {hexEncode proof.txid})"

variable (btc : Crate) (rgb : RgbStd)

def verifyOneProof (chain : HeaderChain) (tip : BlockHeight) (minConfirmations : UInt32)
    (index : Nat) (proof : MerkleProofEntry) : Result Unit := do
  let header ← okOr (.spv (s!"merkle_proofs[{index}]: no header at height " ++
      s!"{proof.blockHeight} (chain tip = {tip})"))
    (chain.headerAt proof.blockHeight)
  let confs := chain.confirmations proof.blockHeight minConfirmations
  refuse (confs < minConfirmations)
    (.spv (s!"merkle_proofs[{index}]: insufficient confirmations for block_height " ++
      s!"{proof.blockHeight} ({confs} < {minConfirmations})"))
  let txid ← okOr (.spv
    s!"merkle_proofs[{index}].txid must be 32 bytes (already validated above; defensive)")
    (Word.ofBytes? 32 proof.txid)
  let path ← pathInternal index proof.merklePath
  (verifyMerkleProof btc txid.reverse proof.txPosition path header.merkleRoot).mapError
    fun error => .spv (merkleErrorText index proof error)

/-- The txids that the proofs name. A second proof for a txid and a proof for a
    txid that nobody expects are refused. -/
def coverage (expected : List (Word 32)) (seen : List (Word 32)) :
    List (MerkleProofEntry × Nat) → Result (List (Word 32))
  | [] => pure seen
  | (proof, i) :: rest => do
      let txid ← proofTxid i proof
      refuse (txid ∈ seen) (.spv s!"duplicate merkle proof for txid {hexEncode txid.val}")
      refuse (txid ∉ expected) (.spv (s!"merkle proof for txid {hexEncode txid.val} does not " ++
        "match any consignment witness txid"))
      coverage expected (txid :: seen) rest

def validateSpvProofs (chain : HeaderChain) (expectedTxids : List (Word 32))
    (proofs : List MerkleProofEntry) (minConfirmations : UInt32) : Result Unit := do
  let expectedSet := txidSet expectedTxids
  let proofSet ← coverage expectedSet [] proofs.zipIdx
  let missing := (expectedSet.filter (· ∉ proofSet)).map (hexEncode ·.val)
  refuse (proofSet.length ≠ expectedSet.length)
    (.spv (s!"missing merkle proofs for {missing.length} witness txid(s): " ++
      ", ".intercalate missing))
  forM proofs.zipIdx fun (proof, i) =>
    verifyOneProof btc chain chain.tipHeight minConfirmations i proof

def proveWitness (chain : HeaderChain) (minConfirmations : UInt32) (proven : ProvenWitnesses)
    (entry : MerkleProofEntry × Nat) : Result ProvenWitnesses := do
  let (proof, i) := entry
  let txid ← proofTxid i proof
  verifyOneProof btc chain chain.tipHeight minConfirmations i proof
  let header ← okOr (.spv
      s!"merkle_proofs[{i}]: block {proof.blockHeight} has no valid witness position")
    ((chain.headerAt proof.blockHeight).filter fun header =>
      proof.blockHeight != 0 && rgb.isWitnessTime header.time)
  refuse ((proven.lookup txid.reverse).isSome)
    (.spv s!"duplicate merkle proof for txid {hexEncode proof.txid}")
  pure (proven ++ [(txid.reverse, ⟨proof.blockHeight, header.time⟩)])

def provenWitnesses (chain : HeaderChain) (proofs : List MerkleProofEntry)
    (minConfirmations : UInt32) : Result ProvenWitnesses :=
  proofs.zipIdx.foldlM (proveWitness btc rgb chain minConfirmations) []

/-- A pinned block: its hash and the depth that a check required at it. -/
structure Pin where
  hash : BlockHash
  depth : UInt32
  deriving DecidableEq

/-- The blocks that the checks of a request used, in order of height. -/
abbrev ChainPins := List (BlockHeight × Pin)

namespace ChainPins

def set (height : BlockHeight) (pin : Pin) : ChainPins → ChainPins
  | [] => [(height, pin)]
  | (h, other) :: rest =>
      if height < h then (height, pin) :: (h, other) :: rest
      else if height = h then (height, pin) :: rest
      else (h, other) :: set height pin rest

/-- Pin the block at `height`. A second pin of a height keeps the larger depth,
    and refuses another hash. -/
def pin (pins : ChainPins) (chain : HeaderChain) (height : BlockHeight) (depth : UInt32) :
    Result ChainPins := do
  let hash ← okOr (.spv (s!"chain pin: enclave holds no header at height {height} " ++
      s!"(chain tip = {chain.tipHeight}) - cannot pin a block the checks relied on"))
    (chain.hashAt height)
  let old := (pins.lookup height).getD ⟨hash, depth⟩
  refuse (old.hash ≠ hash) (.spv (s!"chain pin: height {height} was pinned as " ++
    s!"{hexEncode old.hash.val} but now reads {hexEncode hash.val} - the header chain changed " ++
    "between two validation checks, refusing to sign"))
  pure (set height { old with depth := max old.depth depth } pins)

def assertPinnedHash (chain : HeaderChain) (height : BlockHeight) (pin : Pin) :
    Result Unit :=
  match chain.hashAt height with
  | some current =>
      refuse (current ≠ pin.hash) (.spv (s!"chain reorg after validation: height {height} was " ++
        s!"{hexEncode pin.hash.val} when checked but is now {hexEncode current.val} " ++
        s!"(chain tip = {chain.tipHeight}) - refusing to sign against a replaced block"))
  | none =>
      .error (.spv (s!"chain reorg after validation: height {height} was " ++
        s!"{hexEncode pin.hash.val} when checked but the enclave now holds no header there " ++
        s!"(chain tip = {chain.tipHeight}) - refusing to sign"))

/-- A pinned block still has its hash and is at least as deep as required. -/
def assertPin (chain : HeaderChain) (height : BlockHeight) (pin : Pin) :
    Result Unit := do
  assertPinnedHash chain height pin
  let depth := chain.tipHeight - height + 1
  refuse (depth < pin.depth) (.spv (s!"chain reorg after validation: height {height} was at " ++
    s!"least {pin.depth} blocks deep when checked but is {depth} deep now (chain tip = " ++
    s!"{chain.tipHeight}) - refusing to sign with fewer confirmations than the check required"))

def assertUnchanged (pins : ChainPins) (chain : HeaderChain) : Result Unit :=
  forM pins fun (height, pin) => assertPin chain height pin

end ChainPins

def validateSourceChain (chain : HeaderChain) (validated : Option ValidatedConsignment)
    (merkleProofs : List MerkleProofEntry) (now : SystemTime) (pins : ChainPins)
    (minConfirmations : UInt32) : Result ChainPins := do
  let validated ← okOr (.spv ("spv: RGB source requires a non-empty validated consignment, but " ++
      "the request had no consignment bytes (or the validator is not configured)")) validated
  assertChainFresh chain now
  assertChainNet validated.chainNet chain.network
  validateSpvProofs btc chain validated.witnessTxids merkleProofs minConfirmations
  merkleProofs.foldlM (fun pins proof => pins.pin chain proof.blockHeight minConfirmations) pins

end EnclaveSigner.Rgb
