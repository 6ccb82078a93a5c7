import EnclaveSigner.Evm.BurnDestination
import EnclaveSigner.Evm.Validation
import EnclaveSigner.Rgb.Flow

/-! # Release cross-checks

These checks bind the calldata of a release to the validated consignment: the
amount, the operation id and the payout of the burn, and the deposits behind it.
`verifyBtcRelayAgreement` binds the finality proof of the release to the block
that anchors the burn, and to the records that the enclave builds from its own
headers.
-/

namespace EnclaveSigner.Evm

open Lib Bitcoin Spv Rgb Proto

def assertWitnessesConfirmed (validated : ValidatedConsignment) : Result Unit :=
  let list := validated.nonMinedWitnessTxids.map (hexEncode ·.val)
  refuse (validated.nonMinedWitnessTxids ≠ [])
    (.crossCheck ("fundsOut requires every consignment witness tx to be mined, but rgbstd " ++
      s!"classified {list.length} witness(es) as not-yet-confirmed (tentative/ignored): " ++
      ", ".intercalate list ++ " - refusing to sign"))

section Binding

variable (codec : Codec) (rgb : RgbStd)

def validateFundsOutAmount (release : ReleaseIdentity) (validated : ValidatedConsignment) :
    Result Unit := do
  let last ← okOr (.crossCheck "fundsOut requires a consignment with at least one transition")
    validated.lastTransition
  let sourceAmount ← fundsOutSourceAmount rgb last
  let calldataAmount ← okOr (.crossCheck "fundsOut amount exceeds u64 range")
    (u64OfU256 release.amount)
  assertFundsOutAmount sourceAmount calldataAmount

def optionText (value : Option UInt32) : String :=
  match value with
  | some n => s!"Some({n})"
  | none => "None"

def checkTargetChain (target : BurnTarget) (release : ReleaseIdentity) :
    Result Unit :=
  match target.destinationChainId with
  | some chain =>
      refuse (release.destinationChainId ≠ u256OfU64 chain)
        (.crossCheck (s!"destinationChainId mismatch: burn names {chain}, calldata routes to " ++
          s!"{release.destinationChainId.toNat}"))
  | none => .ok ()

def validateFundsOutBurnRecipient (release : ReleaseIdentity) (validated : ValidatedConsignment)
    (record : Option BurnDestination) : Result Unit := do
  let last ← okOr
    (.crossCheck "burn fundsOut requires a consignment with at least one transition")
    validated.lastTransition
  let reason ← okOr (.crossCheck ("burn transition carries no burnReason (GS_BURN_REASON) " ++
    "global - this burn cannot authorise a bridged redemption")) last.burnReason
  let target ← resolve codec reason record
  refuse (target.dstEid ≠ release.dstEid)
    (.crossCheck (s!"dstEid mismatch: burn names {optionText target.dstEid}, calldata sends to " ++
      s!"{optionText release.dstEid} (None = direct fundsOut)"))
  checkTargetChain target release
  refuse (target.recipient ≠ release.recipient)
    (.crossCheck (s!"recipient mismatch: burn commits to 0x{hexEncode target.recipient.val}, " ++
      s!"calldata releases to 0x{hexEncode release.recipient.val}"))

def validateFundsOutSourceBurnTxId (release : ReleaseIdentity)
    (validated : ValidatedConsignment) : Result Unit := do
  refuse (validated.lastTransition.isNone = true)
    (.crossCheck "fundsOut requires a consignment with at least one transition")
  let expected ← okOr (.crossCheck ("fundsOut requires the validated OpId of the settling burn, " ++
    "but the consignment summary carries none - refusing to sign")) validated.lastTransferOpId
  let cited := release.sourceBurnTxId
  refuse (cited = .zero 32)
    (.crossCheck ("fundsOut sourceBurnTxId is zero: the calldata must carry the RGB OpId of " ++
      "the transition being settled"))
  refuse (cited ≠ expected)
    (.crossCheck (s!"fundsOut sourceBurnTxId mismatch: calldata cites 0x{hexEncode cited.val}, " ++
      "but the validated consignment's settling transition is OpId " ++
      s!"0x{hexEncode expected.val} - refusing to sign"))

def strictlyAscending : List (Word 32) → Bool
  | a :: b :: rest => decide (ofBe a.val < ofBe b.val) && strictlyAscending (b :: rest)
  | _ => true

/-- The release cites exactly the deposits of the verified locks. -/
def validateFundsOutSettlement (release : ReleaseIdentity) (locks : List VerifiedLock) :
    Result Unit := do
  refuse (locks = [])
    (.crossCheck ("fundsOut settles no verified deposit: the burn's mint ancestry carries no " ++
      "EVM lock this enclave verified - refusing to sign"))
  let ids ← (codec.decodeSettlement release.settlementData).mapError fun e =>
    EnclaveError.crossCheck s!"fundsOut settlementData does not decode: {e}"
  refuse (codec.encodeSettlement ids ≠ release.settlementData)
    (.crossCheck "fundsOut settlementData is not canonically encoded")
  refuse (strictlyAscending ids = false)
    (.crossCheck ("fundsOut settlementData operationIds are not strictly ascending (reordered " ++
      "or repeated deposit) - refusing to sign"))
  let expected := txidSet (locks.map (·.operationId))
  refuse (ids ≠ expected)
    (.crossCheck (s!"fundsOut settlementData mismatch: calldata cites {ids.length} " ++
      s!"deposit(s), the burn's verified mint ancestry has {expected.length} - every " ++
      "operationId must match"))

end Binding

/-- A height and its relay commitment, as the calldata carries them. -/
structure ProofBlock where
  height : UInt32
  commitment : Word 32
  deriving DecidableEq

def FUNDS_OUT_PROOF_LEN : Nat := 4 * 32

def MAX_RELAY_TIP_LAG_BLOCKS : UInt32 := MAX_REORG_DEPTH

def proofWord (proof : Bytes) (offset : Nat) : Word 32 :=
  leftPadWord ((proof.drop offset).take 32)

def proofHeight (word : Word 32) (field : String) : Result UInt32 := do
  refuse ((word.val.take 28).any (· != 0) = true)
    (.crossCheck s!"fundsOut proof {field} exceeds u32 range")
  pure (UInt32.ofNat (ofBe (word.val.drop 28)))

def decodeFundsOutProof (release : ReleaseIdentity) :
    Result (ProofBlock × ProofBlock) := do
  let proof := release.proof
  refuse (proof = [])
    (.crossCheck ("fundsOut proof is empty: the calldata must carry the finality proof - " ++
      "abi.encode(uint256 sourceHeight, bytes32 sourceCommit, uint256 latestHeight, bytes32 " ++
      "latestCommit) - so the enclave can bind it to the consignment's anchoring block"))
  refuse (proof.length ≠ FUNDS_OUT_PROOF_LEN)
    (.crossCheck ("fundsOut proof must be abi.encode(uint256 sourceHeight, bytes32 " ++
      "sourceCommit, uint256 latestHeight, bytes32 latestCommit) = " ++
      s!"{FUNDS_OUT_PROOF_LEN} bytes, got {proof.length}"))
  let sourceHeight ← proofHeight (proofWord proof 0) "sourceHeight"
  let latestHeight ← proofHeight (proofWord proof 64) "latestHeight"
  pure (⟨sourceHeight, proofWord proof 32⟩, ⟨latestHeight, proofWord proof 96⟩)

section Relay

variable (btc : Crate) (codec : Codec)

def displayHashAt (chain : HeaderChain) (height : UInt32) : Option (Word 32) :=
  (chain.headerAt height).map fun header => (header.blockHash btc).reverse

def assertHeaderPresent (chain : HeaderChain) (block : ProofBlock) (label : String) :
    Result Unit := do
  let _ ← okOr (.spv (s!"fundsOut BtcRelay check: no header at {label} block height " ++
      s!"{block.height} (chain tip = {chain.tipHeight}) - the enclave is behind the chain and " ++
      "cannot confirm the block the calldata names"))
    (displayHashAt btc chain block.height)

/-- The time of a block. The checkpoint stands in for what is not held. -/
def timeAt (chain : HeaderChain) (height : UInt32) : UInt32 :=
  ((chain.headerAt height).map (·.time)).getD chain.checkpoint.time

def heightsThrough (first last : UInt32) : List UInt32 :=
  (List.range (last.toNat + 1 - first.toNat)).map fun i => first + UInt32.ofNat i

/-- The record of the relay at a height, from the checkpoint and the headers. -/
def relayRecord (chain : HeaderChain) (height : UInt32) : Result Bytes := do
  let cp := chain.checkpoint
  let header ← okOr (.spv (s!"fundsOut relay record: no header at height {height} (checkpoint " ++
      s!"{cp.height}, tip {chain.tipHeight})"))
    (chain.headerAt height)
  let cpWork ← okOr (.spv (s!"fundsOut relay record: the checkpoint at height {cp.height} has " ++
      "no chainwork, so the enclave cannot rebuild relay records. Set the fifth field of " ++
      "SPV_CHECKPOINT. Refusing to sign"))
    cp.chainWork
  let epochStart := height - height % RETARGET_INTERVAL
  refuse (height < cp.height + 10 ∨ epochStart < cp.height)
    (.spv (s!"fundsOut relay record at height {height} needs the times of blocks " ++
      s!"{satSub32 height 10}..{height} and of epoch start {epochStart}, but the enclave holds " ++
      s!"no block below its checkpoint at height {cp.height} - refusing to sign"))
  let work := ((heightsThrough (cp.height + 1) height).filterMap chain.headerAt).foldl
    (fun work header => work + header.work btc) (u256OfBe cpWork)
  let times := (HeaderChain.heightsBetween (height - 10) height).map (timeAt chain)
  pure (header.serialize ++ ((u256Be work).val ++ ((u32Be height).val ++
    ((u32Be (timeAt chain epochStart)).val ++ times.flatMap fun time => (u32Be time).val))))

def assertRelayCommitment (chain : HeaderChain) (block : ProofBlock) (label : String) :
    Result Unit := do
  let record ← relayRecord btc chain block.height
  let expected := codec.keccak record
  refuse (block.commitment ≠ expected)
    (.crossCheck (s!"fundsOut relay commitment mismatch at {label} height {block.height}: " ++
      s!"calldata 0x{hexEncode block.commitment.val}, enclave record " ++
      s!"0x{hexEncode expected.val}: the relay does not hold the enclave's block there, " ++
      "refusing to sign"))

structure ConsignmentAnchor where
  height : UInt32
  commitment : Word 32
  txid : Word 32
  deriving DecidableEq

def resolveConsignmentAnchor (validated : ValidatedConsignment)
    (merkleProofs : List MerkleProofEntry) (chain : HeaderChain) (minConfirmations : UInt32) :
    Result ConsignmentAnchor := do
  let witnessTxid ← okOr (.crossCheck ("fundsOut requires a consignment with at least one " ++
    "witness bundle, but the validated consignment has no last witness txid - refusing to sign"))
    validated.lastWitnessTxid
  let txid := witnessTxid.reverse
  let proof ← okOr (.spv ("fundsOut source block: no merkle proof for the consignment's last " ++
    s!"witness tx {hexEncode txid.val} - cannot determine the block that anchors it"))
    (merkleProofs.find? (·.txid == txid.val))
  let commitment ← okOr (.spv ("fundsOut source block: enclave holds no header at height " ++
    s!"{proof.blockHeight} (chain tip = {chain.tipHeight}) for the consignment's last witness " ++
    s!"tx {hexEncode txid.val} - the TEE header chain is not in sync with the block that " ++
    "anchors this consignment"))
    (displayHashAt btc chain proof.blockHeight)
  validateSpvProofs btc chain [txid] [proof] minConfirmations
  pure { height := proof.blockHeight, commitment, txid }

/-- In the `required` mode both words must be the commitments of the enclave's
    own records. In the `none` mode both must be zero. -/
def checkRelayWords (chain : HeaderChain) (mode : BtcRelayMode) (source latest : ProofBlock) :
    Result Unit :=
  let blocks := [(source, "source"), (latest, "latest")]
  match mode with
  | .required => do
      forM blocks fun (block, label) =>
        refuse (block.commitment = .zero 32)
          (.crossCheck (s!"fundsOut relay proof carries a zero {label} commitment at height " ++
            s!"{block.height}: the bridge has no BtcRelay configured, but this enclave runs " ++
            s!"with {BTC_RELAY_MODE_ENV}=required - refusing to sign"))
      assertRelayCommitment btc codec chain source "source"
      assertRelayCommitment btc codec chain latest "latest"
  | .none =>
      forM blocks fun (block, label) =>
        refuse (block.commitment ≠ .zero 32)
          (.crossCheck (s!"fundsOut relay proof carries a {label} commitment " ++
            s!"0x{hexEncode block.commitment.val} at height {block.height}, but this enclave " ++
            s!"runs with {BTC_RELAY_MODE_ENV}=none (no BtcRelay on this stand): the bridge and " ++
            "the enclave disagree about the relay - refusing to sign"))

def verifyBtcRelayAgreement (release : ReleaseIdentity) (validated : ValidatedConsignment)
    (merkleProofs : List MerkleProofEntry) (chain : HeaderChain) (pins : ChainPins)
    (mode : BtcRelayMode) (minConfirmations : UInt32) : Result ChainPins := do
  let (source, latest) ← decodeFundsOutProof release
  refuse (latest.height < source.height)
    (.spv (s!"fundsOut BtcRelay check: proof latest height {latest.height} is below source " ++
      s!"height {source.height} - the relay tip cannot precede the block that packaged the burn"))
  assertHeaderPresent btc chain latest "latest"
  let pins ← pins.pin chain latest.height 1
  let lag := satSub32 chain.tipHeight latest.height
  refuse (lag > MAX_RELAY_TIP_LAG_BLOCKS)
    (.spv (s!"fundsOut BtcRelay check: proof latest height {latest.height} is {lag} blocks " ++
      s!"below the enclave tip {chain.tipHeight} (max {MAX_RELAY_TIP_LAG_BLOCKS}) - the " ++
      "relay's view is too stale to prove freshness"))
  let anchor ← resolveConsignmentAnchor btc validated merkleProofs chain minConfirmations
  let pins ← pins.pin chain anchor.height minConfirmations
  refuse (source.height ≠ anchor.height)
    (.crossCheck (s!"fundsOut source block mismatch: calldata proof cites height " ++
      s!"{source.height}, but the consignment's last witness tx {hexEncode anchor.txid.val} is " ++
      s!"anchored at height {anchor.height} (enclave header hash " ++
      s!"{hexEncode anchor.commitment.val}) - refusing to sign"))
  checkRelayWords btc codec chain mode source latest
  pure pins

end Relay

end EnclaveSigner.Evm
