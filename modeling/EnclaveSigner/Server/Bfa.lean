import Mathlib.Data.Set.Function
import EnclaveSigner.Bitcoin.Difficulty
import EnclaveSigner.Evm.Events
import EnclaveSigner.Rgb.Mint

/-! # One deposit, one mint

The mint signer binds the mint that a PSBT commits to the deposit that the
request names. The id of a deposit is a hash over the lock id and the minted
amount, and the lock id is a hash over the mint's operation id and the txid.
-/

namespace EnclaveSigner.Server

open Lib Bitcoin Rgb Evm

structure Launch (ν : Type) where
  evmRpcClient : Option (EvmReceiptProvider ν)

/-- What the mint signer reads of its server. -/
structure MintContext (ν : Type) where
  btc : Crate
  rgb : RgbStd
  codec : Codec
  cfg : BridgeConfig
  /-- None before the endpoints are set. -/
  launchCell : Option (Launch ν)

variable {ν : Type} (ctx : MintContext ν)

def launch : Result (Launch ν) :=
  okOr (.notReady "endpoints-unset") ctx.launchCell

def bindRequestDeposit (derived paid : VerifiedLock) : Result Unit :=
  refuse (paid ≠ derived)
    (.crossCheck (s!"the request's deposit is not the one mint lockId " ++
      s!"0x{hexEncode derived.lockId.val} derives: operationId " ++
      s!"0x{hexEncode paid.operationId.val} for {paid.minted} (net {paid.netAmount}), the mint " ++
      s!"needs 0x{hexEncode derived.operationId.val} for {derived.minted} - refusing to sign"))

def bindMintDeposit (txHash : Word 32) (requestOperationId : Bytes) (mint : MintFacts) :
    EStateM EnclaveError ν Unit := do
  let derived ← derivedLock ctx.codec ctx.cfg mint.lockId mint.issued
  refuse (requestOperationId ≠ derived.operationId.val)
    (EnclaveError.crossCheck (s!"the request's funds_in_operation_id " ++
      s!"0x{hexEncode requestOperationId} is not the deposit id " ++
      s!"0x{hexEncode derived.operationId.val} that mint lockId 0x{hexEncode mint.lockId.val} " ++
      "derives, refusing to sign"))
  let launched ← launch ctx
  let client ← okOr (EnclaveError.crossCheck ("bfa-mint build but the EVM RPC client is " ++
    "unavailable - refusing to sign a mint without independently verifying its FundsIn lock"))
    launched.evmRpcClient
  let _ ← checkNodeChainId client ctx.cfg.chainId
  let paid ← verifyRgbFundsIn client ctx.codec ctx.cfg.fundsInContract ctx.cfg.evmFinalityTag
    txHash mint.lockId derived.operationId mint.issued mint.beforeBlock
  bindRequestDeposit derived paid

/-- A mint that the signer accepted: the PSBT's transaction and its fascia commit
    a mint, and the mint is bound to the deposit that the request names. -/
structure AcceptedMint (ctx : MintContext ν) where
  unsignedTx : Transaction
  fasciaBytes : Bytes
  evmTxHash : Word 32
  fundsInOperationId : Bytes
  fascia : Fascia
  pin : ContractId
  committed : Committed
  mint : MintFacts
  pinned : pinnedContract ctx.rgb ctx.cfg = .ok pin
  parsed : parseFascia ctx.rgb fasciaBytes "fascia" = .ok fascia
  commits : committedTransition ctx.btc ctx.rgb unsignedTx fascia pin = .ok committed
  facts : mintFacts ctx.rgb committed = .ok mint
  bound : ∃ node node', bindMintDeposit ctx evmTxHash fundsInOperationId mint node = .ok () node'

namespace AcceptedMint

variable {ctx : MintContext ν}

/-- What the deposit id of the mint hashes. -/
def depositPreimage (a : AcceptedMint ctx) : Bytes :=
  mintDepositPreimage ctx.codec ctx.cfg a.mint.lockId a.mint.issued

/-- What the lock id of an accepted mint hashes. -/
def locked (a : AcceptedMint ctx) : OpId × Txid := (a.committed.opid, a.committed.txid)

theorem lockId_eq (a : AcceptedMint ctx) :
    a.mint.lockId = Function.uncurry ctx.rgb.lockId a.locked :=
  (mintFacts_ok a.facts).2

theorem fundsInOperationId_eq (a : AcceptedMint ctx) :
    a.fundsInOperationId = (ctx.codec.keccak a.depositPreimage).val := by
  obtain ⟨node, node', binds⟩ := a.bound
  simp only [bindMintDeposit, run_bind_ok, lift_ok] at binds
  obtain ⟨derived, _, ⟨derives, -⟩, _, _, ⟨named, -⟩, -⟩ := binds
  rw [refuse_ok, ne_eq, not_not] at named
  rw [named, derivedLock_ok derives]
  rfl

end AcceptedMint

/-- Two accepted mints for one deposit are the same mint in the same transaction. -/
theorem deposit_authorizes_one_mint (ctx : MintContext ν) (a b : AcceptedMint ctx)
    (keccakInj : Set.InjOn ctx.codec.keccak {a.depositPreimage, b.depositPreimage})
    (lockIdInj : Set.InjOn (Function.uncurry ctx.rgb.lockId) {a.locked, b.locked})
    (same : a.fundsInOperationId = b.fundsInOperationId) :
    a.unsignedTx.txid ctx.btc = b.unsignedTx.txid ctx.btc ∧
      ctx.rgb.transitionId a.committed.transition = ctx.rgb.transitionId b.committed.transition ∧
      a.mint.issued = b.mint.issued := by
  rw [a.fundsInOperationId_eq, b.fundsInOperationId_eq] at same
  have preimage := keccakInj (.inl rfl) (.inr rfl) (Subtype.ext same)
  obtain ⟨lockId, issued⟩ := mintDepositPreimage_inj preimage
  rw [a.lockId_eq, b.lockId_eq] at lockId
  obtain ⟨opid, txid⟩ := Prod.mk.inj (lockIdInj (.inl rfl) (.inr rfl) lockId)
  obtain ⟨txidA, opidA⟩ := committedTransition_ok a.commits
  obtain ⟨txidB, opidB⟩ := committedTransition_ok b.commits
  refine ⟨?_, ?_, issued⟩
  · rw [← txidA, ← txidB, txid]
  · rw [← opidA, ← opidB, opid]

section Samples

/-! A mint of 1000 units, and receipts of its deposit. -/

def sampleAsset : ContractId :=
  .ofNatBe 32 0x7ee84b617f46782f200ef7d5d17a5814771e49a7e87251aeb4062afd2131194e

def mintConfig : BridgeConfig where
  chainId := 1
  bridgeContract := .fill 20 0xe0
  rgbAssetId := "rgb:fuhLYX9G-eC8gDvf-V0XpYFH-ceSafoc-lGutAYq-~SExGU4"
  fundsInContract := .fill 20 0xb1
  tokenContract := .fill 20 0x70
  btcRelayMode := .none
  spvMinConfirmations := 2

def sampleMintTx : Transaction where
  version := 2
  input := ⟨[⟨.fill 32 0x12, 1, emptyScript, 0xffffffff⟩], by decide⟩
  output := ⟨[⟨0, pushScript 0x6a (.fill 32 0x33)⟩,
    ⟨9000, pushScript 0x51 (.fill 32 0x44)⟩], by decide⟩
  lockTime := 0

def sampleMintTxid : Txid :=
  .ofNatBe 32 0xa391ce31d4dbfaa571efb5fcd8d44c494cf8837cf4d63d17cbc9371cc2fd5a26

def sampleRight : Opout := ⟨.fill 32 0x52, 4013, 0⟩

def sampleMint : Transition where
  contractId := sampleAsset
  transitionType := 8013
  metadata := [(1013, (u64Le 100).val)]
  globals := [(2010, [(u64Le 1000).val])]
  inputs := [sampleRight]
  assignments := [(4000, .fungible [(.concealed (.fill 32 0x77), 1000)])]

def sampleMintOpId : OpId := .fill 32 0x6d

def sampleLockId : Word 32 :=
  .ofNatBe 32 0x8773685a7a8a034f8e77a3a2e337e505746716e58604796debb4c716df64051f

def sampleDepositId : Word 32 :=
  .ofNatBe 32 0x5519c7df1fd304b239a2cc5e29c0a2d7db86d3be6618903ee6115bce082352a6

def sampleFascia : Fascia where
  tx := sampleMintTx
  mpcEntropy := some 5
  bundles := [(sampleAsset, ⟨[(sampleRight, sampleMintOpId)], [⟨sampleMintOpId, sampleMint⟩]⟩)]

def mintCodecWith (hashes : List (Bytes × Word 32)) : Codec where
  keccak := tableHash hashes
  decodeFundsOut _ := .error "type check failed"
  encodeFundsOut _ := []
  decodeLzFundsOut _ := .error "type check failed"
  encodeLzFundsOut _ := []
  decodeSettlement _ := .error "type check failed"
  encodeSettlement _ := []

def mintTextHashes : List (Bytes × Word 32) := [
  (utf8 RGB_MINT_DEPOSIT_TYPEHASH_STR,
    .ofNatBe 32 0x1a137b1271ebe5dab41e95404f65ad059a653667420a6527377e0d45e75d3e36),
  (utf8 FUNDS_IN_SIG,
    .ofNatBe 32 0xf1a18caea297591892fc07ea412a5e617d8e51e1155912d8871793e1d4e70f87),
  (utf8 BRIDGE_FUNDS_IN_SIG,
    .ofNatBe 32 0xf15e44b33fca27f251e63583a6666ef06fc5993fbabb58356f27d07cee2811ab)]

def mintCodec : Codec :=
  let texts := mintCodecWith mintTextHashes
  mintCodecWith (mintTextHashes ++
    [(mintDepositPreimage texts mintConfig sampleLockId 1000, sampleDepositId)])

def sampleReceipt : ReceiptData where
  statusSuccess := true
  blockNumber := 90
  blockHash := .ofNatBe 32 90
  logs := [
    { address := mintConfig.fundsInContract
      topics := [eventTopic0 mintCodec FUNDS_IN_SIG, .ofNatBe 32 0x99, sampleLockId]
      data := natBe 32 1000 },
    { address := mintConfig.fundsInContract
      topics := [eventTopic0 mintCodec BRIDGE_FUNDS_IN_SIG, sampleDepositId]
      data := [0, 1000, 1000, 0, 0, 1, 827166, 288, 320, 0, 0].flatMap (natBe 32) }]

def sampleNode : EvmReceiptProvider Unit where
  getTransactionReceipt hash := pure
    (if hash = .ofNatBe 32 1 ∨ hash = .ofNatBe 32 2 then some sampleReceipt else none)
  getBlockByTag _ := pure (some ⟨95, .ofNatBe 32 95⟩)
  getBlockByNumber number := pure (some ⟨number, .ofNatBe 32 number.toNat⟩)
  getChainId := pure 1

def sampleMintContext : MintContext Unit where
  btc := crateWith (tableHash [(sampleMintTx.serialize, sampleMintTxid)])
  rgb := stdWith {
    genesisId := .fill 32 0x51
    contracts := [(sampleAsset, mintConfig.rgbAssetId)]
    opIds := [(sampleMint, sampleMintOpId)]
    commitment := .fill 32 0x33
    lockIds := [((sampleMintOpId, sampleMintTxid), sampleLockId)]
    fascias := [(utf8 "fascia", sampleFascia)] }
  codec := mintCodec
  cfg := mintConfig
  launchCell := some ⟨some sampleNode⟩

def sampleFacts : MintFacts :=
  ⟨sampleRight, sampleMintOpId, sampleLockId, 1000, 100,
    .blinded (sampleMintContext.rgb.secretSealText (.fill 32 0x77))⟩

def sampleAcceptedMint (hash : Nat)
    (bound : isOk (bindMintDeposit sampleMintContext (.ofNatBe 32 hash) sampleDepositId.val
      sampleFacts ()) = true) : AcceptedMint sampleMintContext where
  unsignedTx := sampleMintTx
  fasciaBytes := utf8 "fascia"
  evmTxHash := .ofNatBe 32 hash
  fundsInOperationId := sampleDepositId.val
  fascia := sampleFascia
  pin := sampleAsset
  committed := ⟨sampleMintTxid, sampleMintOpId, sampleMint⟩
  mint := sampleFacts
  pinned := by decide +kernel
  parsed := by decide +kernel
  commits := by decide +kernel
  facts := by decide +kernel
  bound := by
    obtain ⟨_, node', binds⟩ := exists_of_isOk bound
    exact ⟨(), node', binds⟩

section

variable {hash : Nat} {bound : isOk (bindMintDeposit sampleMintContext (.ofNatBe 32 hash)
  sampleDepositId.val sampleFacts ()) = true}

theorem sampleAcceptedMint_fundsIn :
    (sampleAcceptedMint hash bound).fundsInOperationId = sampleDepositId.val := rfl

theorem sampleAcceptedMint_depositPreimage :
    (sampleAcceptedMint hash bound).depositPreimage
      = mintDepositPreimage mintCodec mintConfig sampleLockId 1000 := rfl

theorem sampleAcceptedMint_locked :
    (sampleAcceptedMint hash bound).locked = (sampleMintOpId, sampleMintTxid) := rfl

end

/-- The signer accepts the mint under both receipts. -/
theorem deposit_authorizes_one_mint_twice :
    ∃ a b : AcceptedMint sampleMintContext, a.evmTxHash ≠ b.evmTxHash ∧
      a.unsignedTx.txid sampleMintContext.btc = b.unsignedTx.txid sampleMintContext.btc ∧
      a.mint.issued = b.mint.issued := by
  have first : isOk (bindMintDeposit sampleMintContext (.ofNatBe 32 1) sampleDepositId.val
      sampleFacts ()) = true := by decide +kernel
  have second : isOk (bindMintDeposit sampleMintContext (.ofNatBe 32 2) sampleDepositId.val
      sampleFacts ()) = true := by decide +kernel
  have different : Word.ofNatBe 32 1 ≠ Word.ofNatBe 32 2 := by decide +kernel
  have same := deposit_authorizes_one_mint sampleMintContext (sampleAcceptedMint 1 first)
    (sampleAcceptedMint 2 second)
    (by
      rw [sampleAcceptedMint_depositPreimage, sampleAcceptedMint_depositPreimage,
        Set.pair_eq_singleton]
      exact Set.injOn_singleton _ _)
    (by
      rw [sampleAcceptedMint_locked, sampleAcceptedMint_locked, Set.pair_eq_singleton]
      exact Set.injOn_singleton _ _)
    (sampleAcceptedMint_fundsIn.trans sampleAcceptedMint_fundsIn.symm)
  exact ⟨_, _, different, same.1, same.2.2⟩

end Samples

end EnclaveSigner.Server
