import EnclaveSigner.Evm.Crosscheck
import EnclaveSigner.Rgb.Bfa
import EnclaveSigner.Rgb.SpvEvidence
import EnclaveSigner.Server.Bfa

/-! # The settlement citation

A release cites the deposits behind the burned units. The enclave derives one
deposit id per mint of the history from the mint's lock id and amount, and asks
for exactly these ids, ascending and each once, in the one encoding that they
have.
-/

namespace EnclaveSigner.Server

open Lib Rgb Evm

variable (codec : Codec) (cfg : BridgeConfig)

/-- The genesis of the asset must name the pinned Bridge on the pinned chain. -/
def checkBridge (bridge : BfaBridge) : Result Unit :=
  refuse (bridge.chainId ≠ cfg.chainId ∨ bridge.address ≠ cfg.fundsInContract)
    (.crossCheck (s!"asset bridge location 0x{hexEncode bridge.address.val} on chain " ++
      s!"{bridge.chainId} is not the pinned funds-in contract " ++
      s!"0x{hexEncode cfg.fundsInContract.val} on EVM_CHAIN_ID {cfg.chainId}"))

def deriveAll (anchors : List MintAnchor) : Result (List VerifiedLock) :=
  anchors.mapM fun anchor => derivedLock codec cfg anchor.lockId anchor.amount

def derivedLocks : AnchorBinder := fun bridge anchors => do
  checkBridge cfg bridge
  let locks ← deriveAll codec cfg anchors
  pure { evmChainId := cfg.chainId, locks }

section Citation

variable {codec cfg}

theorem derivedLocks_single {bridge : BfaBridge} {anchor : MintAnchor} {chainId : UInt64}
    {lock : VerifiedLock}
    (bound : derivedLocks codec cfg bridge [anchor] = .ok ⟨chainId, [lock]⟩) :
    derivedLock codec cfg anchor.lockId anchor.amount = .ok lock := by
  simp only [derivedLocks, deriveAll, bind_ok, List.mapM_cons, List.mapM_nil] at bound
  obtain ⟨_, -, _, ⟨single, derived, _, ends, gathered⟩, same⟩ := bound
  cases ends
  cases gathered
  cases same
  exact derived

theorem txidSet_ascending (ids : List (Word 32)) : Ascending Word.le (txidSet ids) := by
  have sorted : (txidSet ids).Pairwise Word.le := List.pairwise_insertionSort Word.le ids.dedup
  have distinct : (txidSet ids).Nodup :=
    (List.perm_insertionSort txidLe ids.dedup).nodup_iff.mpr (List.nodup_dedup ids)
  exact sorted.and distinct

theorem strictlyAscending_of_ascending {ids : List (Word 32)} (ascending : Ascending Word.le ids) :
    strictlyAscending ids = true := by
  induction ids with
  | nil => rfl
  | cons a ids ih =>
      cases ids with
      | nil => rfl
      | cons b ids =>
          obtain ⟨first, rest⟩ := List.pairwise_cons.mp ascending
          obtain ⟨le, different⟩ := first b List.mem_cons_self
          have lt : ofBe a.val < ofBe b.val :=
            lt_of_le_of_ne le fun same => different (Word.ofBe_injective same)
          rw [strictlyAscending, decide_eq_true lt, ih rest]
          rfl

theorem validateFundsOutSettlement_ok
    (exact : ∀ ids, codec.decodeSettlement (codec.encodeSettlement ids) = .ok ids)
    {release : ReleaseIdentity} {locks : List VerifiedLock} {u : Unit} :
    validateFundsOutSettlement codec release locks = .ok u ↔
      locks ≠ [] ∧ release.settlementData =
        codec.encodeSettlement (txidSet (locks.map (·.operationId))) := by
  have ascending := strictlyAscending_of_ascending (txidSet_ascending (locks.map (·.operationId)))
  simp only [validateFundsOutSettlement, bind_ok, refuse_ok, ne_eq, not_not]
  constructor
  · rintro ⟨_, backed, ids, -, _, canonical, _, -, rfl⟩
    exact ⟨backed, canonical.symm⟩
  · rintro ⟨backed, cited⟩
    refine ⟨(), backed, txidSet (locks.map (·.operationId)), ?_, (), cited.symm, (), ?_, rfl⟩
    · rw [cited, exact]
      rfl
    · rw [ascending]
      exact Bool.noConfusion

end Citation

/-- One validation of a transfer whose mint claims are bound to derived locks. -/
structure ClaimContext where
  codec : Codec
  cfg : BridgeConfig
  rgb : RgbStd
  location : BridgeLocation
  transfer : Transfer

namespace ClaimContext

open BindingResolver

variable (ctx : ClaimContext)

def resolver : BindingResolver := BindingResolver.new ctx.transfer (derivedLocks ctx.codec ctx.cfg)

/-- The claims that a series of questions got confirmed, and the cells it left. -/
def validation (queries : List Query) : List Claim × Bindings :=
  ctx.resolver.run ctx.rgb ctx.location start queries

/-- The claims that the resolver confirms. -/
def confirmed (queries : List Query) : List Claim := (ctx.validation queries).1

/-- The locks that come out of the validation. -/
def mintLocks (queries : List Query) : Result (List VerifiedLock) :=
  intoLocks (ctx.validation queries).2

/-- The deposit id of a claim. -/
def depositId (claim : Claim) : Result (Word 32) :=
  rgbMintDepositId ctx.codec ctx.cfg (ctx.rgb.lockId claim.opid claim.witnessId) claim.amount

theorem validation_bound (queries : List Query) :
    (ctx.validation queries).2.bound.map Prod.fst =
        (ctx.confirmed queries).map (mintAnchor ctx.rgb · ctx.resolver.lastBundle) ∧
      ∀ pair ∈ (ctx.validation queries).2.bound, ctx.resolver.Binds pair.1 pair.2 := by
  obtain ⟨added, bound, anchors, each⟩ :=
    run_bound ctx.rgb ctx.location ctx.resolver start queries
  have bound : (ctx.validation queries).2.bound = added := bound
  rw [bound]
  exact ⟨anchors, each⟩

variable {ctx} {queries : List Query} {locks : List VerifiedLock}

theorem Binds.depositId {claim : Claim} {lock : VerifiedLock}
    (binds : ctx.resolver.Binds (mintAnchor ctx.rgb claim ctx.resolver.lastBundle) lock) :
    ctx.depositId claim = .ok lock.operationId := by
  obtain ⟨bridge, chainId, bound⟩ := binds.bound
  have derived := derivedLocks_single bound
  obtain ⟨operationId, hashed, same⟩ := bind_ok.mp derived
  cases same
  exact hashed

theorem mintLocks_of_distinct
    (distinct : ((ctx.confirmed queries).map fun claim =>
      (ctx.rgb.lockId claim.opid claim.witnessId, claim.amount)).Nodup) :
    ∃ locks, ctx.mintLocks queries = .ok locks := by
  obtain ⟨anchors, each⟩ := validation_bound ctx queries
  refine ⟨_, (intoLocks_ok each).mpr ⟨?_, rfl⟩⟩
  rw [anchors, List.map_map]
  exact distinct

theorem mintLocks_ok (returned : ctx.mintLocks queries = .ok locks) :
    (ctx.confirmed queries).Nodup ∧ locks.length = (ctx.confirmed queries).length ∧
      ∀ id, id ∈ locks.map (·.operationId) ↔
        ∃ claim ∈ ctx.confirmed queries, ctx.depositId claim = .ok id := by
  obtain ⟨anchors, each⟩ := validation_bound ctx queries
  obtain ⟨distinct, rfl⟩ := (intoLocks_ok each).mp returned
  rw [anchors, List.map_map] at distinct
  refine ⟨distinct.of_map _, ?_, ?_⟩
  · rw [List.length_map, ← List.length_map Prod.fst, anchors, List.length_map]
  · intro id
    simp only [List.map_map, List.mem_map]
    constructor
    · rintro ⟨pair, member, rfl⟩
      have there := List.mem_map_of_mem (f := Prod.fst) member
      rw [anchors] at there
      obtain ⟨claim, asked, same⟩ := List.mem_map.mp there
      have binds := each pair member
      rw [← same] at binds
      exact ⟨claim, asked, Binds.depositId binds⟩
    · rintro ⟨claim, asked, derived⟩
      have there := List.mem_map_of_mem (f := (mintAnchor ctx.rgb · ctx.resolver.lastBundle)) asked
      rw [← anchors] at there
      obtain ⟨pair, member, same⟩ := List.mem_map.mp there
      have binds := each pair member
      rw [same] at binds
      rw [Binds.depositId binds] at derived
      exact ⟨pair, member, Except.ok.inj derived⟩

theorem citation_of_mem_iff {queries' : List Query} {locks' : List VerifiedLock}
    (returned : ctx.mintLocks queries = .ok locks)
    (returned' : ctx.mintLocks queries' = .ok locks')
    (same : ∀ claim, claim ∈ ctx.confirmed queries ↔ claim ∈ ctx.confirmed queries') :
    txidSet (locks.map (·.operationId)) = txidSet (locks'.map (·.operationId)) := by
  refine (txidSet_ascending _).eq_of_mem_iff (txidSet_ascending _) fun id => ?_
  rw [mem_txidSet, mem_txidSet, (mintLocks_ok returned).2.2, (mintLocks_ok returned').2.2]
  simp only [same]

/-- The confirmed claims fix the citation. Whatever rgb-lib asked, in whatever
    order, the locks it left behind let one byte string pass: the encoding of the
    ascending list of the ids that the claims derive. -/
theorem settlement_citation
    (exact : ∀ ids, ctx.codec.decodeSettlement (ctx.codec.encodeSettlement ids) = .ok ids)
    (queries : List Query) :
    (∀ locks, ctx.mintLocks queries = .ok locks → ctx.confirmed queries ≠ [] →
      ∃ ids, Ascending Word.le ids ∧
        (∀ id, id ∈ ids ↔ ∃ claim ∈ ctx.confirmed queries, ctx.depositId claim = .ok id) ∧
        ∀ release, validateFundsOutSettlement ctx.codec release locks = .ok () ↔
          release.settlementData = ctx.codec.encodeSettlement ids) ∧
    (∀ queries' locks locks', (ctx.confirmed queries').Perm (ctx.confirmed queries) →
      ctx.mintLocks queries = .ok locks → ctx.mintLocks queries' = .ok locks' →
      ∀ release, validateFundsOutSettlement ctx.codec release locks = .ok () ↔
        validateFundsOutSettlement ctx.codec release locks' = .ok ()) ∧
    (¬ (ctx.confirmed queries).Nodup → ∃ error, ctx.mintLocks queries = .error error) ∧
    (ctx.confirmed queries = [] → ctx.mintLocks queries = .ok [] ∧
      ∀ release, ∃ error, validateFundsOutSettlement ctx.codec release [] = .error error) := by
  have nonempty : ∀ {queries locks}, ctx.mintLocks queries = .ok locks →
      (locks = [] ↔ ctx.confirmed queries = []) := by
    intro queries locks returned
    rw [← List.length_eq_zero_iff, (mintLocks_ok returned).2.1, List.length_eq_zero_iff]
  refine ⟨?_, ?_, ?_, ?_⟩
  · intro locks returned some
    refine ⟨txidSet (locks.map (·.operationId)), txidSet_ascending _, ?_, ?_⟩
    · intro id
      rw [mem_txidSet, (mintLocks_ok returned).2.2]
    · intro release
      rw [validateFundsOutSettlement_ok exact, ne_eq, nonempty returned]
      exact and_iff_right some
  · intro queries' locks locks' perm returned returned' release
    rw [validateFundsOutSettlement_ok exact, validateFundsOutSettlement_ok exact,
      citation_of_mem_iff returned returned' fun _ => perm.symm.mem_iff, ne_eq, ne_eq,
      nonempty returned, nonempty returned', ← List.length_eq_zero_iff, ← perm.length_eq,
      List.length_eq_zero_iff]
  · intro twice
    cases done : ctx.mintLocks queries with
    | error error => exact ⟨error, rfl⟩
    | ok locks => exact absurd (mintLocks_ok done).1 twice
  · intro none
    obtain ⟨locks, returned⟩ : ∃ locks, ctx.mintLocks queries = .ok locks := by
      apply mintLocks_of_distinct
      rw [none]
      exact List.nodup_nil
    obtain rfl := (nonempty returned).mpr none
    exact ⟨returned, fun release => ⟨_, rfl⟩⟩

end ClaimContext

section Samples

/-! Two mints, which rgb-lib asks about in one order and in the other. -/

def encodeWords (ids : List (Word 32)) : Bytes :=
  natBe 32 0x20 ++ (natBe 32 ids.length ++ ids.flatMap (·.val))

def splitWords : Nat → Bytes → List (Word 32)
  | 0, _ => []
  | n + 1, bytes =>
      match Word.ofBytes? 32 (bytes.take 32) with
      | some word => word :: splitWords n (bytes.drop 32)
      | none => []

def decodeWords (bytes : Bytes) : Except String (List (Word 32)) :=
  let ids := splitWords ((bytes.length - 64) / 32) (bytes.drop 64)
  if encodeWords ids = bytes then .ok ids else .error "type check failed"

theorem splitWords_flatMap (ids : List (Word 32)) :
    splitWords ids.length (ids.flatMap (·.val)) = ids := by
  induction ids with
  | nil => rfl
  | cons id ids ih =>
      have first : Word.ofBytes? 32 (((id :: ids).flatMap (·.val)).take 32) = some id := by
        rw [Word.ofBytes?_eq_some, List.flatMap_cons, List.take_left' id.property]
      rw [List.length_cons, splitWords, first, List.flatMap_cons, List.drop_left' id.property, ih]

theorem length_flatMap_words (ids : List (Word 32)) :
    (ids.flatMap (·.val)).length = 32 * ids.length := by
  induction ids with
  | nil => rfl
  | cons id ids ih =>
      rw [List.flatMap_cons, List.length_append, id.property, ih, List.length_cons]
      omega

theorem decodeWords_encodeWords (ids : List (Word 32)) :
    decodeWords (encodeWords ids) = .ok ids := by
  have head : (natBe 32 0x20 ++ natBe 32 ids.length).length = 64 := by
    rw [List.length_append, natBe_length, natBe_length]
  have parts : encodeWords ids = (natBe 32 0x20 ++ natBe 32 ids.length) ++ ids.flatMap (·.val) :=
    (List.append_assoc _ _ _).symm
  have count : ((encodeWords ids).length - 64) / 32 = ids.length := by
    rw [parts, List.length_append, head, length_flatMap_words]
    omega
  have split : splitWords (((encodeWords ids).length - 64) / 32) ((encodeWords ids).drop 64)
      = ids := by
    rw [count, parts, List.drop_left' head, splitWords_flatMap]
  rw [decodeWords, split, if_pos rfl]

def claimHashes : List (Bytes × Word 32) := [
  (utf8 RGB_MINT_DEPOSIT_TYPEHASH_STR,
    .ofNatBe 32 0x1a137b1271ebe5dab41e95404f65ad059a653667420a6527377e0d45e75d3e36)]

def claimCodecWith (hashes : List (Bytes × Word 32)) : Codec :=
  { mintCodecWith hashes with decodeSettlement := decodeWords, encodeSettlement := encodeWords }

def firstClaim : Claim := ⟨.fill 32 0x6d, .fill 32 0x71, 1000, 100⟩

def firstLockId : Word 32 :=
  .ofNatBe 32 0xfaf1c12ee135aa1ff6cb25b295ca240f051876900ab36b71b84361f6bdaa14cb

def firstDepositId : Word 32 :=
  .ofNatBe 32 0x0112e8a521775dead5c2b6a78c85622ba839294ad8c3b18ac48994ba1f32477e

def secondClaim : Claim := ⟨.fill 32 0x6e, .fill 32 0x72, 250, 120⟩

def secondLockId : Word 32 :=
  .ofNatBe 32 0x9b069bf403ee132778e896fe4655f7de5ab4a0129eb3d8085b6b3c4d02b06798

def secondDepositId : Word 32 :=
  .ofNatBe 32 0x34af2ffe2ecb2cf3af18cd70463c56c8a2db3a345dba4eb80ee3b9da8f4adc90

def sampleClaims : ClaimContext where
  codec :=
    let texts := claimCodecWith claimHashes
    claimCodecWith (claimHashes ++ [
      (mintDepositPreimage texts mintConfig firstLockId 1000, firstDepositId),
      (mintDepositPreimage texts mintConfig secondLockId 250, secondDepositId)])
  cfg := mintConfig
  rgb := stdWith {
    genesisId := .fill 32 0x51
    contracts := [(sampleAsset, mintConfig.rgbAssetId)]
    opIds := []
    commitment := .fill 32 0x33
    lockIds := [
      ((firstClaim.opid, firstClaim.witnessId), firstLockId),
      ((secondClaim.opid, secondClaim.witnessId), secondLockId)]
    fascias := [] }
  location _ := .ok ⟨1, mintConfig.fundsInContract⟩
  transfer := ⟨⟨sampleAsset, "bc", []⟩, []⟩

open BindingResolver in
/-- The second mint is asked about first, and the citation that passes is in the
    order of the ids. -/
theorem settlement_citation_two_mints :
    let queries := [Query.evmChainId, .isConfirmed secondClaim, .isConfirmed firstClaim]
    sampleClaims.confirmed queries = [secondClaim, firstClaim] ∧
      (∃ locks, sampleClaims.mintLocks queries = .ok locks ∧ ∀ release,
        validateFundsOutSettlement sampleClaims.codec release locks = .ok () ↔
          release.settlementData = encodeWords [firstDepositId, secondDepositId]) ∧
      ∃ error, sampleClaims.mintLocks (queries ++ queries) = .error error := by
  intro queries
  have asked : sampleClaims.confirmed queries = [secondClaim, firstClaim] := by decide +kernel
  have twice : ¬ (sampleClaims.confirmed (queries ++ queries)).Nodup := by decide +kernel
  have distinct : (([secondClaim, firstClaim]).map fun claim =>
      (sampleClaims.rgb.lockId claim.opid claim.witnessId, claim.amount)).Nodup := by
    decide +kernel
  obtain ⟨locks, returned⟩ := ClaimContext.mintLocks_of_distinct (asked ▸ distinct)
  have exact : ∀ ids, sampleClaims.codec.decodeSettlement
      (sampleClaims.codec.encodeSettlement ids) = .ok ids := decodeWords_encodeWords
  have cited := ClaimContext.settlement_citation exact queries
  obtain ⟨ids, ascending, derived, only⟩ := cited.1 locks returned (by rw [asked]; exact nofun)
  have named : ids = [firstDepositId, secondDepositId] := by
    have sorted : Ascending Word.le [firstDepositId, secondDepositId] := by decide +kernel
    refine ascending.eq_of_mem_iff sorted fun id => ?_
    have first : sampleClaims.depositId firstClaim = .ok firstDepositId := by decide +kernel
    have second : sampleClaims.depositId secondClaim = .ok secondDepositId := by decide +kernel
    rw [derived, asked]
    simp only [List.mem_cons, List.not_mem_nil, or_false, exists_eq_or_imp, exists_eq_left,
      first, second, Except.ok.injEq]
    rw [or_comm, eq_comm, eq_comm (b := id)]
  have refused := ClaimContext.settlement_citation exact (queries ++ queries)
  rw [named] at only
  exact ⟨asked, ⟨locks, returned, only⟩, refused.2.2.1 twice⟩

end Samples

end EnclaveSigner.Server
