import Mathlib.Data.List.Infix
import EnclaveSigner.Bitcoin.Difficulty
import EnclaveSigner.Rgb.SpvEvidence
import EnclaveSigner.Server.Burn

/-! # What the EVM key is used for

Between the checks of a request the host may rewrite the header chain, up to the
moment when the request takes the lock for the key. The pins carry what the
checks saw: the block at each height that matters, and the depth it must keep.
-/

namespace EnclaveSigner.Server

open Lib Program Bitcoin Spv Rgb Evm Proto

variable {ctx : ServerContext} {source : RgbSource} {destination : EvmDestination}
  {now : Readings}

/-- A request at work from the moment the enclave starts, while the host submits
    headers. A turn without a call is a step of the request. -/
def signRun (ctx : ServerContext) (network : Network) (checkpoint : Checkpoint)
    (source : RgbSource) (destination : EvmDestination) (now : Readings)
    (turns : List (Option SubmitCall)) :
    Worker HeaderChain KeyUse EnclaveError EvmSignatureResponse :=
  (Worker.start (HeaderChain.new network checkpoint) (handleSign ctx source destination now)).run
    (fun chain call => chain.afterSubmit ctx.btc call) turns

/-- The headers that any chain of the run holds. -/
def headersOfRun (ctx : ServerContext) (network : Network) (checkpoint : Checkpoint)
    (source : RgbSource) (destination : EvmDestination) (now : Readings)
    (turns : List (Option SubmitCall)) : Set Header :=
  {header | ∃ before, before <+: turns ∧
    header ∈ (signRun ctx network checkpoint source destination now before).shared.headers}

def Consigned (ctx : ServerContext) (source : RgbSource) (validated : ValidatedConsignment) :
    Prop :=
  ∃ consensus proven, ctx.rgbValidator = some consensus ∧
    validateConsignment ctx.btc ctx.rgb consensus source.consignment proven = .ok validated

/-- Each witness transaction of the consignment has a proof in the request that
    holds in `chain`, at the depth that the configuration asks for. -/
def WitnessesProven (ctx : ServerContext) (source : RgbSource) (validated : ValidatedConsignment)
    (chain : HeaderChain) : Prop :=
  ∀ txid ∈ validated.witnessTxids, ∃ proof ∈ source.merkleProofs,
    proof.txid = txid.val ∧ ProvenIn ctx.btc chain ctx.cfg.spvMinConfirmations proof

/-- A use of the key rests on proofs that hold in the chain of that moment. -/
def Backed (ctx : ServerContext) (source : RgbSource) (use : KeyUse) (chain : HeaderChain) : Prop :=
  Consigned ctx source use.validated ∧ WitnessesProven ctx source use.validated chain

/-- What backs a use of the key is proven of the bundles that consensus accepted. -/
theorem Backed.bundles {ctx : ServerContext} {source : RgbSource} {use : KeyUse}
    {chain : HeaderChain} (backed : Backed ctx source use chain) :
    ∃ consensus proven outcome, ctx.rgbValidator = some consensus ∧
      consensus source.consignment proven = .ok outcome ∧
      ∀ bundle ∈ outcome.transfer.bundles, ∃ proof ∈ source.merkleProofs,
        proof.txid = (bundle.witnessId ctx.btc).reverse.val ∧
          ProvenIn ctx.btc chain ctx.cfg.spvMinConfirmations proof := by
  obtain ⟨⟨consensus, proven, configured, validates⟩, witnesses⟩ := backed
  obtain ⟨outcome, accepted, summarized⟩ := bind_ok.mp validates
  exact ⟨consensus, proven, outcome, configured, accepted, fun bundle member =>
    witnesses _ ((mem_witnessTxids summarized).mpr ⟨bundle, member, rfl⟩)⟩

/-- A chain that the request may find under the lock. -/
structure Seen (btc : Crate) (base : BlockHeight) (headers : Set Header)
    (chain : HeaderChain) : Prop where
  stored : chain.Stored btc
  base_eq : chain.baseHeight = base
  inside : ∀ header ∈ chain.headers, header ∈ headers

/-- What the checks leave behind: the proofs hold in a chain that the request
    has seen, and the pins say so. -/
structure Evidence (ctx : ServerContext) (found : HeaderChain → Prop) (source : RgbSource)
    (validated : ValidatedConsignment) (pins : ChainPins) : Prop where
  consigned : Consigned ctx source validated
  covered : ∀ txid ∈ validated.witnessTxids, ∃ proof ∈ source.merkleProofs, proof.txid = txid.val
  proven : ∃ chain, found chain ∧ ∀ proof ∈ source.merkleProofs,
    pins.Holds chain proof.blockHeight ctx.cfg.spvMinConfirmations ∧
      ∃ header, chain.headerAt proof.blockHeight = some header ∧ LeadsTo ctx.btc proof header

theorem verifyBtcRelayAgreement_keeps {btc : Crate} {codec : Codec} {release : ReleaseIdentity}
    {validated : ValidatedConsignment} {proofs : List MerkleProofEntry}
    {chain chain' : HeaderChain} {pins pins' : ChainPins} {mode : BtcRelayMode}
    {minConfirmations : UInt32} {height : BlockHeight} {depth : UInt32}
    (agrees : verifyBtcRelayAgreement btc codec release validated proofs chain pins mode
      minConfirmations = .ok pins')
    (held : pins.Holds chain' height depth) : pins'.Holds chain' height depth := by
  simp only [verifyBtcRelayAgreement, bind_ok] at agrees
  obtain ⟨_, -, _, -, _, -, pins₁, latest, _, -, _, -, pins₂, anchor, _, -, _, -, same⟩ := agrees
  cases same
  exact (held.pin latest).pin anchor

section Upholds

variable {found : HeaderChain → Prop} {promise : KeyUse → HeaderChain → Prop}
  {validated : ValidatedConsignment} {pins : ChainPins}

theorem validateSource_upholds {now : SystemTime}
    {post : RouteProof × ValidatedConsignment × ChainPins → Option HeaderChain → Prop}
    (reached : ∀ proof validated pins, Evidence ctx found source validated pins →
      post (proof, validated, pins) none) :
    (validateSource ctx.toValidationContext source now [] : Request _).Upholds found promise none
      post := by
  rw [validateSource, upholds_bind, validateSourceConsignment, upholds_lift_bind]
  intro _ _
  rw [upholds_lift_bind]
  intro consensus configured
  rw [upholds_locked_bind]
  intro _ _ proven _
  rw [upholds_lift_bind]
  intro validated accepted
  rw [upholds_lift_bind]
  intro _ _
  rw [upholds_locked_bind]
  intro chain here pins passes
  obtain ⟨covered, each⟩ := validateSourceChain_ok passes
  change Upholds _ _ (_ >>= _) _ _
  rw [upholds_lift_bind]
  intro proof _
  exact reached proof validated pins
    ⟨⟨consensus, proven, okOr_ok.mp configured, accepted⟩, covered, chain, here, each⟩

theorem applyFundsOutBinding_upholds {release : ReleaseIdentity}
    {burnDestination : Option BurnDestination} {post : ChainPins → Option HeaderChain → Prop}
    (evidence : Evidence ctx found source validated pins)
    (reached : ∀ chain pins', found chain →
      verifyBtcRelayAgreement ctx.btc ctx.codec release validated source.merkleProofs chain pins
        ctx.cfg.btcRelayMode ctx.cfg.spvMinConfirmations = .ok pins' →
      Evidence ctx found source validated pins' → post pins' none) :
    (applyFundsOutBinding ctx release validated source.merkleProofs pins burnDestination).Upholds
      found promise none post := by
  rw [applyFundsOutBinding, upholds_lift_bind]
  intro _ _
  rw [upholds_locked_bind]
  intro chain there pins' agrees
  rw [upholds_lift_bind]
  intro _ _
  obtain ⟨seen, here, each⟩ := evidence.proven
  refine reached chain pins' there agrees
    ⟨evidence.consigned, evidence.covered, seen, here, fun proof member => ?_⟩
  obtain ⟨held, leads⟩ := each proof member
  exact ⟨verifyBtcRelayAgreement_keeps agrees held, leads⟩

theorem signWithChainPinsUnchanged_upholds {digest : Word 32}
    (kept : ∀ chain, found chain → (pins.isEmpty = true ∨ pins.assertUnchanged chain = .ok ()) →
      promise ⟨digest, validated⟩ chain) :
    (signWithChainPinsUnchanged pins (useEvmKey ctx digest validated)).Upholds found promise none
      fun _ _ => True := by
  rw [signWithChainPinsUnchanged]
  split
  · rename_i none
    exact ⟨fun chain here => kept chain here (.inl none),
      upholds_ofExcept.mpr fun _ _ => trivial⟩
  · intro chain here
    rw [upholds_lift_bind]
    intro _ unchanged
    rw [upholds_bind]
    refine ⟨?_, upholds_ofExcept.mpr fun _ _ => trivial⟩
    rintro _ rfl
    exact kept _ here (.inr unchanged)

/-- What the checks of a request leave behind, up to the moment when it takes the
    lock for the key. -/
structure Checked (ctx : ServerContext) (found : HeaderChain → Prop) (source : RgbSource)
    (destination : EvmDestination) (validated : ValidatedConsignment) (pins : ChainPins) :
    Prop where
  evidence : Evidence ctx found source validated pins
  agreed : ∃ now proof params release chain before,
    validateDestination ctx.codec ctx.cfg destination now = .ok (proof, params, release) ∧
    found chain ∧
    verifyBtcRelayAgreement ctx.btc ctx.codec release validated source.merkleProofs chain before
      ctx.cfg.btcRelayMode ctx.cfg.spvMinConfirmations = .ok pins

theorem handleSign_upholds
    (kept : ∀ validated pins digest, Checked ctx found source destination validated pins →
      ∀ chain, found chain → (pins.isEmpty = true ∨ pins.assertUnchanged chain = .ok ()) →
        promise ⟨digest, validated⟩ chain) :
    (handleSign ctx source destination now).Upholds found promise none fun _ _ => True := by
  rw [handleSign, upholds_lift_bind]
  intro _ _
  rw [upholds_bind]
  refine validateSource_upholds fun sourceProof validated pins evidence => ?_
  change Upholds _ _ (_ >>= _) _ _
  rw [upholds_lift_bind]
  rintro ⟨destinationProof, params, release⟩ accepted
  change Upholds _ _ (_ >>= _) _ _
  rw [upholds_lift_bind]
  intro _ _
  rw [upholds_lift_bind]
  intro _ _
  rw [upholds_lift_bind]
  intro _ _
  rw [upholds_bind]
  refine applyFundsOutBinding_upholds evidence fun chain pins' there agrees evidence => ?_
  rw [handleSignEvm, upholds_lift_bind]
  intro domain _
  rw [upholds_lift_bind]
  intro digest _
  rw [upholds_bind]
  exact signWithChainPinsUnchanged_upholds (kept validated pins' digest
    ⟨evidence, _, _, _, _, _, _, accepted, there, agrees⟩)

end Upholds

section Signing

variable {base : BlockHeight} {headers : Set Header} {validated : ValidatedConsignment}
  {pins : ChainPins} {chain : HeaderChain}

theorem Evidence.transport
    (collisionFree : Header.CollisionFree ctx.btc headers)
    (evidence : Evidence ctx (Seen ctx.btc base headers) source validated pins)
    (here : Seen ctx.btc base headers chain) (unchanged : pins.assertUnchanged chain = .ok ()) :
    WitnessesProven ctx source validated chain := by
  intro txid member
  obtain ⟨proof, asked, own⟩ := evidence.covered txid member
  obtain ⟨seen, there, each⟩ := evidence.proven
  obtain ⟨held, header, stored, leads⟩ := each proof asked
  exact ⟨proof, asked, own, ProvenIn.of_pinned collisionFree there.stored there.inside here.stored
    here.inside (here.base_eq.trans there.base_eq.symm) held stored leads unchanged⟩

theorem Evidence.witnessesProven_of_isEmpty {found : HeaderChain → Prop}
    (evidence : Evidence ctx found source validated pins) (none : pins.isEmpty = true) :
    WitnessesProven ctx source validated chain := by
  intro txid member
  obtain ⟨proof, asked, -⟩ := evidence.covered txid member
  obtain ⟨_, -, each⟩ := evidence.proven
  obtain ⟨⟨pin, pinned, -⟩, -⟩ := each proof asked
  rw [List.isEmpty_iff.mp none] at pinned
  cases pinned

theorem Evidence.backed {use : KeyUse}
    (collisionFree : Header.CollisionFree ctx.btc headers)
    (evidence : Evidence ctx (Seen ctx.btc base headers) source use.validated pins)
    (here : Seen ctx.btc base headers chain)
    (good : pins.isEmpty = true ∨ pins.assertUnchanged chain = .ok ()) :
    Backed ctx source use chain := by
  refine ⟨evidence.consigned, ?_⟩
  rcases good with none | unchanged
  · exact evidence.witnessesProven_of_isEmpty none
  · exact evidence.transport collisionFree here unchanged

end Signing

section Runs

variable {network : Network} {checkpoint : Checkpoint} {turns : List (Option SubmitCall)}

theorem signRun_valid (before : List (Option SubmitCall)) :
    (signRun ctx network checkpoint source destination now before).shared.Valid ctx.btc network
      checkpoint :=
  Worker.run_shared (fun _ call valid => valid.afterSubmit call) (HeaderChain.new_valid _ _ _)
    before

theorem signRun_seen {before : List (Option SubmitCall)} (inside : before <+: turns) :
    Seen ctx.btc checkpoint.height
      (headersOfRun ctx network checkpoint source destination now turns)
      (signRun ctx network checkpoint source destination now before).shared where
  stored := (signRun_valid before).stored
  base_eq := (signRun_valid before).baseHeight_eq
  inside := fun _ member => ⟨before, inside, member⟩

/-- Whenever the EVM key is used, every witness transaction of the validated
    consignment has a proof in the request that holds in the header chain of
    that moment. The submissions may fall anywhere between the steps. -/
theorem evm_key_use_backed (ctx : ServerContext) (network : Network) (checkpoint : Checkpoint)
    (source : RgbSource) (destination : EvmDestination) (now : Readings)
    (turns : List (Option SubmitCall))
    (collisionFree : Header.CollisionFree ctx.btc
      (headersOfRun ctx network checkpoint source destination now turns)) :
    ∀ entry ∈ (signRun ctx network checkpoint source destination now turns).log,
      Backed ctx source entry.1 entry.2 := by
  have upholds : (handleSign ctx source destination now).Upholds
      (Seen ctx.btc checkpoint.height _) (Backed ctx source) none fun _ _ => True :=
    handleSign_upholds fun validated pins digest checked chain here good =>
      checked.evidence.backed collisionFree here good
  exact ((Worker.start_keeps upholds).run fun before inside => signRun_seen inside).logged

end Runs

section Samples

/-! A burn of 1000 units that pays out on another chain, and the release of it. -/

def sampleBurnTx : Transaction where
  version := 2
  input := ⟨[⟨.fill 32 0x11, 0, emptyScript, 0xffffffff⟩], by decide⟩
  output := ⟨[⟨546, pushScript 0x6a (.fill 32 0x33)⟩], by decide⟩
  lockTime := 0

def sampleBurnTxid : Txid :=
  .ofNatBe 32 0xcf95e577591e453eed0d982ae0dba3cdcbe0b3b704e7d241b29b79067b19881f

def sampleCoinbaseTxid : Txid := .fill 32 0x22

def sampleRoot : Word 32 :=
  .ofNatBe 32 0x258e035df2ef5c90cf57957435a1e1b5e67ede202785e41094ca2b094209dd09

def burnCheckpoint : Checkpoint := ⟨5, .zero 32, 0x207fffff, 1700001000, none⟩

def sampleBlock : Header := ⟨1, .zero 32, sampleRoot, 1700001003, 0x207fffff, 0⟩

def sampleBlockHash : Word 32 :=
  .ofNatBe 32 0x7cea3ab3648640844c0abafa8fc6cf831a71de8e88166493edaad5ee21e6cd3c

def sampleNext : Header := ⟨1, sampleBlockHash, .zero 32, 1700001005, 0x207fffff, 0⟩

def sampleRival : Header := ⟨1, sampleBlockHash, .zero 32, 1700001010, 0x207fffff, 0⟩

def sampleRivalHash : Word 32 :=
  .ofNatBe 32 0x329a9267868afb47899a9c9df3eb9bc6eafcb14f24269ef69d42376d9d6f6c05

def sampleRivalNext : Header := ⟨1, sampleRivalHash, .zero 32, 1700001011, 0x207fffff, 0⟩

def sampleCrate : Crate := crateWith (tableHash [
  (sampleBurnTx.serialize, sampleBurnTxid),
  (joinNodes sampleCoinbaseTxid sampleBurnTxid, sampleRoot),
  (sampleBlock.serialize, sampleBlockHash),
  (sampleNext.serialize,
    .ofNatBe 32 0x1e6a2fb8fbc7f5141f42873dbd127c317779b0d3a28244b921c7d8380e72ab3e),
  (sampleRival.serialize, sampleRivalHash),
  (sampleRivalNext.serialize,
    .ofNatBe 32 0xf737d6a11449cb4445249a48d75c521f6e7d0939db0536edb7e6ce2a1de3813f)])

def sampleConfig : BridgeConfig where
  chainId := 1
  bridgeContract := .fill 20 0xe0
  rgbAssetId := "rgb:fuhLYX9G-eC8gDvf-V0XpYFH-ceSafoc-lGutAYq-~SExGU4"
  fundsInContract := .fill 20 0xb1
  tokenContract := .fill 20 0x70
  btcRelayMode := .none
  spvMinConfirmations := 2

def sampleOpId : OpId := .fill 32 0x5a

def sampleRecord : BurnDestination := ⟨1, 42161, 30110, List.replicate 20 0x42⟩

def sampleReason : Word 32 :=
  .ofNatBe 32 0x38ef3fb6695f2e8581c9869153e1ce682628953fe3f1f1791b37e72f32f5b793

def sampleBurnId : Nat := 0x1245f36df0e0bd7ed42ee03cb8849b8c7240935fd57d02067b63669b02a015e4

def sampleLock : VerifiedLock :=
  ⟨.fill 32 0x61, 1000, .fill 32 0xa1, 1000⟩

def encodeDeposits (ids : List (Word 32)) : Bytes :=
  words (.ofNatBe 32 0x20 :: .ofNatBe 32 ids.length :: ids)

def sampleProof (latest : Nat) : Bytes :=
  words [.ofNatBe 32 6, .zero 32, .ofNatBe 32 latest, .zero 32]

def sampleCall (latest : Nat) : LzFundsOutCall where
  amount := 1000
  burnId := BitVec.ofNat 256 sampleBurnId
  sourceChainId := 827166
  destinationChainId := 42161
  sourceAddress := ""
  proof := sampleProof latest
  settlementData := encodeDeposits [sampleLock.operationId]
  dstEid := 30110
  recipient := leftPadWord sampleRecord.recipient
  minAmountLD := 990
  extraOptions := []
  sourceBurnTxId := sampleOpId

/-- A dynamic ABI value: its length and its bytes, up to a whole word. -/
def abiTail (bytes : Bytes) : Bytes :=
  natBe 32 bytes.length ++ bytes ++ List.replicate ((32 - bytes.length % 32) % 32) 0

/-- The ABI encoding of a LayerZero release: twelve words, then the dynamic
    values that four of them point to. -/
def encodeLzCall (call : LzFundsOutCall) : Bytes :=
  let address := abiTail (utf8 call.sourceAddress)
  let proof := abiTail call.proof
  let settlement := abiTail call.settlementData
  let proofAt := 12 * 32 + address.length
  let settlementAt := proofAt + proof.length
  [0x94, 0x39, 0x97, 0xaa] ++ words [u256Be call.amount, u256Be call.burnId,
    u256Be call.sourceChainId, u256Be call.destinationChainId, .ofNatBe 32 (12 * 32),
    .ofNatBe 32 proofAt, .ofNatBe 32 settlementAt, abiEncodeU32 call.dstEid,
    call.recipient, u256Be call.minAmountLD,
    .ofNatBe 32 (settlementAt + settlement.length), call.sourceBurnTxId] ++
    address ++ proof ++ settlement ++ abiTail call.extraOptions

def sampleTextHashes : List (Bytes × Word 32) := [
  (utf8 "consignment",
    .ofNatBe 32 0x60e5ca1fc514acd075def1c7579566b0c1ac27547de67b74335e60cbfa84a994),
  (utf8 LZ_FUNDS_OUT_SIGNATURE,
    .ofNatBe 32 0x943997aa584fcd98cf03d4e539e8e35f719c8dbddab39e833b0f85d2896374e8),
  (utf8 BURN_TYPEHASH_STR,
    .ofNatBe 32 0x09f8684e07c29653e96d992d7bca89a5ff94761a0d3c0d5e67c35dda03184e41),
  (utf8 "",
    .ofNatBe 32 0xc5d2460186f7233c927e7db2dcc703c0e500b653ca82273b7bfad8045d85a470),
  (utf8 UTEXO_BURN_DESTINATION_V1,
    .ofNatBe 32 0xa1cba9d766975eb04c6a31c3b68dbb2381444a222c9972b6bf3ab26fcb829b00),
  (sampleRecord.recipient,
    .ofNatBe 32 0x352a47fc6863b89a6b51890ef3c1550d560886c027141d2058ba1e2d4c66d99a),
  (utf8 DOMAIN_TYPE_HASH_STR,
    .ofNatBe 32 0x8b73c3c69bb8fe3d512ecc4cf759cc79239f7b179b0ffacaa9a75d522b39400f),
  (utf8 "MultisigProxy",
    .ofNatBe 32 0x42f5e457a125a947ff8a65944c464a54381619892c7790b1179720831bf01b6d),
  (utf8 "1",
    .ofNatBe 32 0xc89efdaa54c0f20c7adf612882df0950f5a951637e0307cdcb4c672f298b8bc6),
  (utf8 TEE_LZ_FUNDS_OUT_TYPE_HASH_STR,
    .ofNatBe 32 0x5b65e176d2ff704611f5ee5f0709dee77247e909ddf326ff947b248ee80cdf9e),
  (sampleProof 6,
    .ofNatBe 32 0xe31306f5e55e5ed3492676a550595a470a17ffe9e4b02cf31aa2404bde018765),
  (encodeDeposits [sampleLock.operationId],
    .ofNatBe 32 0xf6a8339cda5cac6af758c445c99c760f97a26567bad89e5d547cf806c400c6ea)]

def sampleCodecWith (hashes : List (Bytes × Word 32)) : Codec where
  keccak := tableHash hashes
  decodeFundsOut _ := .error "type check failed"
  encodeFundsOut _ := []
  decodeLzFundsOut raw :=
    (([6, 7].map sampleCall).find? (encodeLzCall · == raw)).elim (.error "type check failed") .ok
  encodeLzFundsOut := encodeLzCall
  decodeSettlement raw :=
    if raw = encodeDeposits [sampleLock.operationId] then .ok [sampleLock.operationId]
    else .error "type check failed"
  encodeSettlement := encodeDeposits

def sampleDomain : Eip712Domain := ⟨"MultisigProxy", "1", 1, sampleConfig.bridgeContract⟩

def sampleStructHash : Word 32 :=
  .ofNatBe 32 0xed3cf35afd8b55c626300a9d9123a0f59d21b4e6884a3c95d2e4cb85b90c6179

def sampleDigest : Word 32 :=
  .ofNatBe 32 0x84362a15204dd9bb6d2ebab325f9bb810e320afc5942b4d904f6b48661b8944c

def sampleHashes : List (Bytes × Word 32) :=
  let texts := sampleCodecWith sampleTextHashes
  let flat := sampleTextHashes ++ [
    (recordPreimage texts sampleRecord, sampleReason),
    (burnIdPreimage texts sampleConfig (.fromLzFundsOut (sampleCall 6)),
      .ofNatBe 32 sampleBurnId),
    (sampleDomain.separatorData texts,
      .ofNatBe 32 0xa1c3dcf109124e0cdf7e0c2aef6cc927ce25428c93375873ab351b30460067c8),
    (lzFundsOutStructData texts (sampleCall 6) 7 1700003000, sampleStructHash)]
  flat ++ [(digestData (sampleCodecWith flat) sampleDomain sampleStructHash, sampleDigest)]

def sampleBurn : KnownTransition where
  opid := sampleOpId
  transition :=
    { contractId :=
        .ofNatBe 32 0x7ee84b617f46782f200ef7d5d17a5814771e49a7e87251aeb4062afd2131194e
      transitionType := 8010
      metadata := []
      globals := [(2013, [(u64Le 1000).val]), (2014, [sampleReason.val])]
      inputs := [⟨.fill 32 0x51, 4000, 0⟩]
      assignments := [] }

def sampleOutcome : ConsensusOutcome where
  transfer :=
    { genesis :=
        { contractId := sampleBurn.transition.contractId
          chainNet := "bcrt"
          assignments := [(4000, .fungible [(.revealed ⟨some (.fill 32 0x11), 0, 0⟩,
            1000)])] }
      bundles := [⟨sampleBurnTx, [(⟨.fill 32 0x51, 4000, 0⟩, sampleOpId)],
        [sampleBurn]⟩] }
  transitionsByWitness := [(sampleBurnTxid,
    [⟨hexEncode sampleOpId.val, 8010, some 1000, some sampleReason⟩])]
  mintLocks := [sampleLock]
  nonMinedWitnessTxids := []

def sampleRgbStd : RgbStd := stdWith {
  genesisId := .fill 32 0x51
  contracts := [(sampleBurn.transition.contractId, sampleConfig.rgbAssetId)]
  opIds := [(sampleBurn.transition, sampleOpId)]
  commitment := .fill 32 0x33
  lockIds := []
  fascias := [] }

def sampleContext : ServerContext where
  btc := sampleCrate
  rgb := sampleRgbStd
  codec := sampleCodecWith sampleHashes
  cfg := sampleConfig
  rgbValidator := some fun _ _ => .ok sampleOutcome
  keysReady := true
  signEvm digest :=
    if digest = sampleDigest then .ok (.ofNatBe 65
      (0x8ebe5985e1ccefff697d88f0b2261d1a44fcb7897a48e5549961799014f23727 * 2 ^ 264 +
        0x69981eaa235007a67ae9b562b8704317cfa3ba56d88707cb07bc11489e1a588b * 2 ^ 8))
    else .error (.internal "no signature for this digest")

def sampleSource : RgbSource where
  assetId := sampleConfig.rgbAssetId
  consignment := utf8 "consignment"
  consignmentHash := (sampleContext.codec.keccak (utf8 "consignment")).val
  merkleProofs := [⟨sampleBurnTxid.reverse.val, 6, 1, [sampleCoinbaseTxid.val]⟩]

def sampleDestination (latest : Nat) : EvmDestination where
  callData := encodeLzCall (sampleCall latest)
  nonce := 7
  deadline := 1700003000
  chainId := 1
  proxyContract := sampleConfig.bridgeContract.val
  calldataAmount := 1000
  lzRelease := some ⟨30110, 990, (sampleCall latest).recipient.val⟩
  burnDestination := some sampleRecord

def sampleReadings : Readings := ⟨some 1700002000, some 1700002000⟩

/-- The host replaces the block on top of the burn after the last check and
    before the request takes the lock for the key. -/
def sampleTurns : List (Option SubmitCall) :=
  some ⟨6, [sampleBlock.serialize, sampleNext.serialize], 1700002000⟩ :: List.replicate 6 none ++
    some ⟨7, [sampleRival.serialize, sampleRivalNext.serialize], 1700002000⟩ :: List.replicate 3 none

def sampleRun (turns : List (Option SubmitCall)) :
    Worker HeaderChain KeyUse EnclaveError EvmSignatureResponse :=
  signRun sampleContext .regtest burnCheckpoint sampleSource
    (sampleDestination 6) sampleReadings turns

theorem sampleRun_collisionFree : Header.CollisionFree sampleContext.btc
    (headersOfRun sampleContext .regtest burnCheckpoint sampleSource
      (sampleDestination 6) sampleReadings sampleTurns) := by
  rintro _ ⟨a, ⟨before, inside, ha⟩, rfl⟩ _ ⟨b, ⟨before', inside', hb⟩, rfl⟩ same
  have known : ∀ before ∈ sampleTurns.inits, ∀ header ∈ (sampleRun before).shared.headers,
      header ∈ [sampleBlock, sampleNext, sampleRival, sampleRivalNext] := by decide +kernel
  have apart : ∀ a ∈ [sampleBlock, sampleNext, sampleRival, sampleRivalNext],
      ∀ b ∈ [sampleBlock, sampleNext, sampleRival, sampleRivalNext],
        sampleCrate.sha256d a.serialize = sampleCrate.sha256d b.serialize →
          a.serialize = b.serialize := by decide +kernel
  exact apart a (known before ((List.mem_inits _ _).mpr inside) a ha) b
    (known before' ((List.mem_inits _ _).mpr inside') b hb) same

/-- The key is used once, in the chain after the reorg, and the burn is proven
    there. -/
theorem evm_key_use_backed_reorg :
    (sampleRun sampleTurns).log.map
        (fun entry => (entry.1.digest, entry.1.validated.witnessTxids, entry.2.headers))
      = [(sampleDigest, [sampleBurnTxid.reverse], [sampleBlock, sampleRival, sampleRivalNext])] ∧
    ∀ entry ∈ (sampleRun sampleTurns).log, Backed sampleContext sampleSource entry.1 entry.2 :=
  ⟨by decide +kernel, evm_key_use_backed _ _ _ _ _ _ _ sampleRun_collisionFree⟩

end Samples

end EnclaveSigner.Server
