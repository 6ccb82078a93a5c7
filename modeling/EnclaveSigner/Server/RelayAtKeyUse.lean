import EnclaveSigner.Evm.BtcRelay
import EnclaveSigner.Server.KeyUse

/-! # The relay at the use of the key

The relay check compares the two commitments of the calldata with records that
the enclave builds from all its headers above the checkpoint. At the use of the
key only the pinned blocks are looked at again. That is enough: a pinned block
that is still there has the same blocks below it.
-/

namespace EnclaveSigner.Server

open Lib Bitcoin Spv Rgb Evm Proto

variable {ctx : ServerContext} {source : RgbSource} {destination : EvmDestination}
  {now : Readings}

/-- A chain that the request may find under the lock, over its checkpoint. -/
structure Reachable (btc : Crate) (network : Network) (checkpoint : Checkpoint)
    (headers : Set Header) (chain : HeaderChain) : Prop where
  valid : chain.Valid btc network checkpoint
  inside : ∀ header ∈ chain.headers, header ∈ headers

/-- The commitment of a proof block is that of the record that `chain` gives at
    its height. -/
def CommitsRecord (ctx : ServerContext) (chain : HeaderChain) (block : ProofBlock) : Prop :=
  ∃ record, relayRecord ctx.btc chain block.height = .ok record ∧
    ctx.codec.keccak record = block.commitment

/-- The two blocks of the calldata are blocks of `chain`: their records hash to the
    two commitments, and the source block commits the last witness transaction
    through a proof of the request. -/
structure RelayAgreed (ctx : ServerContext) (source : RgbSource) (release : ReleaseIdentity)
    (validated : ValidatedConsignment) (chain : HeaderChain)
    (sourceBlock latestBlock : ProofBlock) : Prop where
  decoded : decodeFundsOutProof release = .ok (sourceBlock, latestBlock)
  sourceRecord : CommitsRecord ctx chain sourceBlock
  latestRecord : CommitsRecord ctx chain latestBlock
  ordered : sourceBlock.height ≤ latestBlock.height
  anchored : ∃ txid, validated.lastWitnessTxid = some txid ∧ ∃ proof ∈ source.merkleProofs,
    proof.txid = txid.reverse.val ∧ proof.blockHeight = sourceBlock.height ∧
      ProvenIn ctx.btc chain ctx.cfg.spvMinConfirmations proof

/-- The calldata of the request agrees with `chain`. -/
def RelayAgrees (ctx : ServerContext) (source : RgbSource) (destination : EvmDestination)
    (use : KeyUse) (chain : HeaderChain) : Prop :=
  ∃ now proof params release sourceBlock latestBlock,
    validateDestination ctx.codec ctx.cfg destination now = .ok (proof, params, release) ∧
    RelayAgreed ctx source release use.validated chain sourceBlock latestBlock

section Check

variable {release : ReleaseIdentity} {validated : ValidatedConsignment} {chain : HeaderChain}
  {pins pins' : ChainPins}

theorem assertRelayCommitment_ok {block : ProofBlock} {label : String}
    (passes : assertRelayCommitment ctx.btc ctx.codec chain block label = .ok ()) :
    CommitsRecord ctx chain block := by
  simp only [assertRelayCommitment, bind_ok, refuse_ok, ne_eq, not_not] at passes
  obtain ⟨record, built, same⟩ := passes
  exact ⟨record, built, same.symm⟩

/-- What the relay check proves of the chain that it looks at, and what it pins
    there. -/
structure RelayChecked (ctx : ServerContext) (source : RgbSource) (release : ReleaseIdentity)
    (validated : ValidatedConsignment) (chain : HeaderChain) (pins : ChainPins)
    (sourceBlock latestBlock : ProofBlock) : Prop where
  decoded : decodeFundsOutProof release = .ok (sourceBlock, latestBlock)
  sourceRecord : CommitsRecord ctx chain sourceBlock
  latestRecord : CommitsRecord ctx chain latestBlock
  ordered : sourceBlock.height ≤ latestBlock.height
  latestHeader : ∃ header, chain.headerAt latestBlock.height = some header
  latestPinned : pins.Holds chain latestBlock.height 1
  anchored : ∃ txid, validated.lastWitnessTxid = some txid ∧ ∃ proof ∈ source.merkleProofs,
    proof.txid = txid.reverse.val ∧ proof.blockHeight = sourceBlock.height ∧
      pins.Holds chain proof.blockHeight ctx.cfg.spvMinConfirmations ∧
      ∃ header, chain.headerAt proof.blockHeight = some header ∧ LeadsTo ctx.btc proof header

theorem resolveConsignmentAnchor_ok {anchor : ConsignmentAnchor} {depth : UInt32}
    (resolved : resolveConsignmentAnchor ctx.btc validated source.merkleProofs chain depth
      = .ok anchor) :
    ∃ txid, validated.lastWitnessTxid = some txid ∧ ∃ proof ∈ source.merkleProofs,
      proof.txid = txid.reverse.val ∧ proof.blockHeight = anchor.height ∧
      ∃ header, chain.headerAt proof.blockHeight = some header ∧ LeadsTo ctx.btc proof header := by
  simp only [resolveConsignmentAnchor, bind_ok, okOr_ok] at resolved
  obtain ⟨txid, last, proof, found, _, -, _, proven, ⟨⟩⟩ := resolved
  have named : proof.txid = txid.reverse.val := by simpa using List.find?_some found
  obtain ⟨header, here, leads, -⟩ := (validateSpvProofs_ok proven).2 proof List.mem_cons_self
  exact ⟨txid, last, proof, List.mem_of_find?_eq_some found, named, rfl, header, here, leads⟩

theorem verifyBtcRelayAgreement_required (required : ctx.cfg.btcRelayMode = .required)
    (agrees : verifyBtcRelayAgreement ctx.btc ctx.codec release validated source.merkleProofs
      chain pins ctx.cfg.btcRelayMode ctx.cfg.spvMinConfirmations = .ok pins') :
    ∃ sourceBlock latestBlock,
      RelayChecked ctx source release validated chain pins' sourceBlock latestBlock := by
  simp only [verifyBtcRelayAgreement, required, checkRelayWords, bind_ok, refuse_ok] at agrees
  obtain ⟨⟨sourceBlock, latestBlock⟩, decoded, _, ordered, _, present, middle, pinned, _, -, anchor,
    resolved, last, pinnedAnchor, _, same, _, ⟨_, -, _, atSource, atLatest⟩, ⟨⟩⟩ := agrees
  simp only [ne_eq, not_not] at same
  obtain ⟨txid, witness, proof, member, named, height, header, found, leads⟩ :=
    resolveConsignmentAnchor_ok resolved
  simp only [assertHeaderPresent, displayHashAt, bind_ok, okOr_ok, Option.map_eq_some_iff]
    at present
  obtain ⟨_, ⟨top, here, -⟩, -⟩ := present
  refine ⟨sourceBlock, latestBlock, decoded, assertRelayCommitment_ok atSource,
    assertRelayCommitment_ok atLatest, UInt32.not_lt.mp ordered, ⟨top, here⟩,
    (ChainPins.pin_holds pinned).pin pinnedAnchor, txid, witness, proof, member, named,
    height.trans same.symm, ?_, header, found, leads⟩
  rw [height]
  exact ChainPins.pin_holds pinnedAnchor

theorem RelayChecked.not_isEmpty {sourceBlock latestBlock : ProofBlock}
    (checked : RelayChecked ctx source release validated chain pins sourceBlock latestBlock) :
    pins.isEmpty = false := by
  obtain ⟨pin, pinned, -⟩ := checked.latestPinned
  cases pins with
  | nil => cases pinned
  | cons entry rest => rfl

end Check

section Transport

variable {network : Network} {checkpoint : Checkpoint} {headers : Set Header}
  {release : ReleaseIdentity} {validated : ValidatedConsignment} {chain chain' : HeaderChain}
  {pins : ChainPins} {sourceBlock latestBlock : ProofBlock}
  (there : Reachable ctx.btc network checkpoint headers chain)
  (here : Reachable ctx.btc network checkpoint headers chain')

include there here

theorem Reachable.baseHeight_eq : chain'.baseHeight = chain.baseHeight := by
  rw [here.valid.baseHeight_eq, there.valid.baseHeight_eq]

theorem take_eq_of_pinned
    (collisionFree : Header.CollisionFree ctx.btc headers)
    {height : BlockHeight} {header : Header} (found : chain.headerAt height = some header)
    (found' : chain'.headerAt height = some header) :
    chain.headers.take (height.toNat - chain.baseHeight.toNat)
      = chain'.headers.take (height.toNat - chain.baseHeight.toNat) := by
  have base := there.baseHeight_eq here
  have above := UInt32.lt_iff_toNat_lt.mp (HeaderChain.lt_of_headerAt found)
  rw [chain.headerAt_above above] at found
  rw [chain'.headerAt_above (base ▸ above), base] at found'
  have same := HeaderChain.Valid.take_eq collisionFree there.valid here.valid there.inside
    here.inside found found'
  rwa [Nat.sub_add_cancel (by omega)] at same

theorem CommitsRecord.transport {block : ProofBlock} (commits : CommitsRecord ctx chain block)
    {n : Nat} (below : chain.headers.take n = chain'.headers.take n)
    (low : block.height.toNat - chain.baseHeight.toNat ≤ n) :
    CommitsRecord ctx chain' block := by
  obtain ⟨record, built, same⟩ := commits
  refine ⟨record, relayRecord_of_take there.valid.stored here.valid.stored ?_ built ?_, same⟩
  · rw [here.valid.checkpoint_eq, there.valid.checkpoint_eq]
  · have cut := congrArg (List.take (block.height.toNat - chain.baseHeight.toNat)) below
    rwa [List.take_take, List.take_take, Nat.min_eq_left low] at cut

theorem RelayChecked.transport
    (collisionFree : Header.CollisionFree ctx.btc headers)
    (checked : RelayChecked ctx source release validated chain pins sourceBlock latestBlock)
    (unchanged : pins.assertUnchanged chain' = .ok ()) :
    RelayAgreed ctx source release validated chain' sourceBlock latestBlock := by
  obtain ⟨header, found⟩ := checked.latestHeader
  have found' := headerAt_of_pinned collisionFree there.valid.stored there.inside
    here.valid.stored here.inside (there.baseHeight_eq here) checked.latestPinned found unchanged
  have below := take_eq_of_pinned there here collisionFree found found'
  have ordered := UInt32.le_iff_toNat_le.mp checked.ordered
  refine ⟨checked.decoded, checked.sourceRecord.transport there here below (by omega),
    checked.latestRecord.transport there here below (Nat.le_refl _), checked.ordered, ?_⟩
  obtain ⟨txid, witness, proof, member, named, height, held, top, stored, leads⟩ := checked.anchored
  exact ⟨txid, witness, proof, member, named, height, ProvenIn.of_pinned collisionFree
    there.valid.stored there.inside here.valid.stored here.inside (there.baseHeight_eq here) held
    stored leads unchanged⟩

end Transport

/-- In the `required` mode, whenever the EVM key is used, the two blocks of the
    calldata are blocks of the header chain of that moment, with the records that
    the calldata commits to. The submissions may fall anywhere between the steps. -/
theorem relay_agrees_at_key_use (ctx : ServerContext) (network : Network)
    (checkpoint : Checkpoint) (source : RgbSource) (destination : EvmDestination) (now : Readings)
    (turns : List (Option SubmitCall)) (required : ctx.cfg.btcRelayMode = .required)
    (collisionFree : Header.CollisionFree ctx.btc
      (headersOfRun ctx network checkpoint source destination now turns)) :
    ∀ entry ∈ (signRun ctx network checkpoint source destination now turns).log,
      RelayAgrees ctx source destination entry.1 entry.2 := by
  have upholds : (handleSign ctx source destination now).Upholds
      (Reachable ctx.btc network checkpoint
        (headersOfRun ctx network checkpoint source destination now turns))
      (RelayAgrees ctx source destination) none fun _ _ => True := by
    refine handleSign_upholds fun validated pins digest checked chain here good => ?_
    obtain ⟨now, proof, params, release, seen, before, accepted, there, agrees⟩ := checked.agreed
    obtain ⟨sourceBlock, latestBlock, checked⟩ := verifyBtcRelayAgreement_required required agrees
    have unchanged := good.resolve_left (by rw [checked.not_isEmpty]; exact Bool.false_ne_true)
    exact ⟨now, proof, params, release, sourceBlock, latestBlock, accepted,
      checked.transport there here collisionFree unchanged⟩
  refine ((Worker.start_keeps upholds).run fun before inside => ?_).logged
  exact ⟨signRun_valid before, fun _ member => ⟨before, inside, member⟩⟩

section Samples

/-! The sample burn in block 10 of the relay's chain. The host replaces the block on
top of the proven ones after the relay check. -/

def burnBlock : Header :=
  ⟨1, .ofNatBe 32 0xed18176935144979f867cee06d01d97dc547ff88269c98f024fe43b6cbf62c62,
    sampleRoot, 1700001010, 0x207fffff, 0⟩

def burnBlockHash : Word 32 :=
  .ofNatBe 32 0x4bd0f020125d3563152a3208cd99b35ca0b770a1232b7ad52b139a617c89f17f

def latestHeader : Header := ⟨1, burnBlockHash, .zero 32, 1700001011, 0x207fffff, 0⟩

def latestHash : Word 32 :=
  .ofNatBe 32 0x55c15535d704492c213f656db55318888e1e0349bee30199e255575535b4237f

def topHeader : Header := ⟨1, latestHash, .zero 32, 1700001012, 0x207fffff, 0⟩

def rivalTop : Header := ⟨1, latestHash, .zero 32, 1700001013, 0x207fffff, 0⟩

def rivalTopHash : Word 32 :=
  .ofNatBe 32 0xd792947fb87b451ecc3aa0371f067d3b76a8c1e9019bf2c2b790c11c10a30c07

def rivalAbove : Header := ⟨1, rivalTopHash, .zero 32, 1700001014, 0x207fffff, 0⟩

def provenHeaders : List Header := relayHeaders.take 9 ++ [burnBlock, latestHeader]

def relayRunHashes : List (Bytes × Word 32) :=
  ((relayHeaders.take 9).map Header.serialize).zip relayHashes ++ [
    (sampleBurnTx.serialize, sampleBurnTxid),
    (joinNodes sampleCoinbaseTxid sampleBurnTxid, sampleRoot),
    (burnBlock.serialize, burnBlockHash),
    (latestHeader.serialize, latestHash),
    (topHeader.serialize,
      .ofNatBe 32 0x2432e63fa7ebba65f1e0c72090d43064592e52b7fdcb71a87caf5c5f3a58cc4d),
    (rivalTop.serialize, rivalTopHash),
    (rivalAbove.serialize,
      .ofNatBe 32 0x2caa993f55811e2b84033ef4e10dec693b306752afa451c3206abb9918dc93d3)]

def relayRecordBytes (n : Nat) (header : Header) : Bytes :=
  header.serialize ++ (natBe 32 (2 + 2 * n) ++ (natBe 4 n ++ (natBe 4 1700001000 ++
    (List.range' (n - 10) 10).flatMap fun i => natBe 4 (1700001000 + i))))

def burnRecordHash : Word 32 :=
  .ofNatBe 32 0x1746e89560936cf666ce3be9c11c54e73fe707a206d7f392cbacc2f9474868d6

def latestRecordHash : Word 32 :=
  .ofNatBe 32 0xfc025b55baa75e27cb1c1e9c4ed8fbb923d79a313ca6eb6520adf0accda2215c

def relayProof : Bytes :=
  words [.ofNatBe 32 10, burnRecordHash, .ofNatBe 32 11, latestRecordHash]

def relayCall : LzFundsOutCall := { sampleCall 6 with proof := relayProof }

def relayCodecWith (hashes : List (Bytes × Word 32)) : Codec :=
  { sampleCodecWith hashes with
    decodeLzFundsOut raw :=
      if raw = encodeLzCall relayCall then .ok relayCall else .error "type check failed" }

def relayStructHash : Word 32 :=
  .ofNatBe 32 0x003b45c7bd31d187c835ab78843c1a4115ee3a0ed5314d502e46540e7b1ae069

def relayDigest : Word 32 :=
  .ofNatBe 32 0x3ab4f2b9ab1a04f7ac1bfbdff59dbcc2afdf65ae8fd0ceaeaa10d40f65870182

/-- The hashes of the sample release with another proof. -/
def relayKeccaks : List (Bytes × Word 32) :=
  let texts := sampleTextHashes ++ [
    (relayProof,
      .ofNatBe 32 0x86794a3d5badd938a1bc6772bcd1d89bbd944df4370ab90d352d9acdea271b22),
    (relayRecordBytes 10 burnBlock, burnRecordHash),
    (relayRecordBytes 11 latestHeader, latestRecordHash)]
  let codec := relayCodecWith texts
  let flat := texts ++ [
    (recordPreimage codec sampleRecord, sampleReason),
    (burnIdPreimage codec sampleConfig (.fromLzFundsOut relayCall),
      .ofNatBe 32 sampleBurnId),
    (sampleDomain.separatorData codec,
      .ofNatBe 32 0xa1c3dcf109124e0cdf7e0c2aef6cc927ce25428c93375873ab351b30460067c8),
    (lzFundsOutStructData codec relayCall 7 1700003000, relayStructHash)]
  flat ++ [(digestData (relayCodecWith flat) sampleDomain relayStructHash, relayDigest)]

def relayContext : ServerContext :=
  { sampleContext with
    btc := crateWith (tableHash relayRunHashes)
    codec := relayCodecWith relayKeccaks
    cfg := { sampleConfig with btcRelayMode := .required }
    signEvm digest :=
      if digest = relayDigest then .ok (.ofNatBe 65
        (0x0803ec8c9fb980cafba2af96dcba08ff30bf80744e95ac33ff7f824b0cbb4f94 * 2 ^ 264 +
          0x584762ba920422eab06e25c3384e65288c7ba4981ff5a57083299adca9d2a1f1 * 2 ^ 8 + 1))
      else .error (.internal "no signature for this digest") }

def relaySource : RgbSource :=
  { sampleSource with
    merkleProofs := [⟨sampleBurnTxid.reverse.val, 10, 1, [sampleCoinbaseTxid.val]⟩] }

def relayDestination : EvmDestination :=
  { sampleDestination 6 with callData := encodeLzCall relayCall }

def relayTurns : List (Option SubmitCall) :=
  some ⟨1, (provenHeaders ++ [topHeader]).map Header.serialize, 1700002000⟩ :: List.replicate 6 none ++
    some ⟨12, [rivalTop.serialize, rivalAbove.serialize], 1700002000⟩ :: List.replicate 3 none

def relayRun (turns : List (Option SubmitCall)) :
    Worker HeaderChain KeyUse EnclaveError EvmSignatureResponse :=
  signRun relayContext .regtest relayCheckpoint relaySource relayDestination
    sampleReadings turns

theorem relayRun_collisionFree : Header.CollisionFree relayContext.btc
    (headersOfRun relayContext .regtest relayCheckpoint relaySource relayDestination
      sampleReadings relayTurns) := by
  rintro _ ⟨a, ⟨before, inside, ha⟩, rfl⟩ _ ⟨b, ⟨before', inside', hb⟩, rfl⟩ same
  have known : ∀ before ∈ relayTurns.inits, ∀ header ∈ (relayRun before).shared.headers,
      header ∈ provenHeaders ++ [topHeader, rivalTop, rivalAbove] := by decide +kernel
  have apart : ∀ a ∈ provenHeaders ++ [topHeader, rivalTop, rivalAbove],
      ∀ b ∈ provenHeaders ++ [topHeader, rivalTop, rivalAbove],
        relayContext.btc.sha256d a.serialize = relayContext.btc.sha256d b.serialize →
          a.serialize = b.serialize := by decide +kernel
  exact apart a (known before ((List.mem_inits _ _).mpr inside) a ha) b
    (known before' ((List.mem_inits _ _).mpr inside') b hb) same

/-- The key is used once, in the chain after the reorg. -/
theorem relay_agrees_at_key_use_reorg :
    (relayRun relayTurns).log.map (fun entry => (entry.1.digest, entry.2.headers))
      = [(relayDigest, provenHeaders ++ [rivalTop, rivalAbove])] ∧
    ∀ entry ∈ (relayRun relayTurns).log,
      RelayAgrees relayContext relaySource relayDestination entry.1 entry.2 :=
  ⟨by decide +kernel, relay_agrees_at_key_use _ _ _ _ _ _ _ rfl relayRun_collisionFree⟩

end Samples

end EnclaveSigner.Server
