import EnclaveSigner.Evm.GasLimits
import EnclaveSigner.Server.KeyUse

/-! # One digest, one release

The digest of a release hashes every field of its calldata, the nonce and the
deadline under the domain of the request, and accepted calldata is the encoding
of its fields. The preimage of a gas transaction starts with another byte.
-/

namespace EnclaveSigner.Evm

open Lib

theorem words_length (parts : List (Word 32)) : (words parts).length = 32 * parts.length := by
  induction parts with
  | nil => rfl
  | cons part rest ih =>
      rw [words, List.flatMap_cons, List.length_append, part.property]
      change 32 + (words rest).length = _
      rw [ih, List.length_cons]
      omega

theorem words_injective : Function.Injective words := by
  intro parts others same
  induction parts generalizing others with
  | nil =>
      have length := congrArg List.length same
      rw [words_length, words_length] at length
      exact (List.eq_nil_of_length_eq_zero (by simpa using length.symm)).symm
  | cons part rest ih =>
      cases others with
      | nil =>
          have length := congrArg List.length same
          rw [words_length, words_length] at length
          simp at length
      | cons other others =>
          obtain ⟨first, later⟩ := append_parts same
          rw [first, ih later]

theorem abiEncodeAddress_injective : Function.Injective abiEncodeAddress := by
  intro a b same
  have padded : leftPad 32 a.val = leftPad 32 b.val := congrArg Subtype.val same
  rw [leftPad, leftPad, a.property, b.property] at padded
  exact Subtype.ext (List.append_cancel_left padded)

theorem u256OfU64_injective : Function.Injective u256OfU64 := by
  intro a b same
  have read := u64OfU256_eq_some.mpr same
  rw [u64OfU256_eq_some.mpr rfl] at read
  exact Option.some.inj read

section Domain

variable {codec : Codec}

structure DomainOf (req : Proto.EvmDestination) (domain : Eip712Domain) : Prop where
  name : domain.name = "MultisigProxy"
  version : domain.version = "1"
  chainId : domain.chainId = req.chainId
  proxy : domain.verifyingContract.val = req.proxyContract

theorem buildEvmDomain_ok {req : Proto.EvmDestination} {domain : Eip712Domain}
    (built : buildEvmDomain req = .ok domain) : DomainOf req domain := by
  simp only [buildEvmDomain, bind_ok, okOr_ok] at built
  obtain ⟨_, -, contract, sized, ⟨⟩⟩ := built
  exact ⟨rfl, rfl, rfl, (Word.ofBytes?_eq_some.mp sized).symm⟩

theorem DomainOf.same {req other : Proto.EvmDestination} {domain domain' : Eip712Domain}
    (of : DomainOf req domain) (of' : DomainOf other domain')
    (chain : domain.chainId = domain'.chainId)
    (contract : domain.verifyingContract = domain'.verifyingContract) :
    req.chainId = other.chainId ∧ req.proxyContract = other.proxyContract := by
  rw [← of.chainId, ← of'.chainId, ← of.proxy, ← of'.proxy, chain, contract]
  exact ⟨rfl, rfl⟩

theorem separatorData_parts {domain other : Eip712Domain}
    (same : domain.separatorData codec = other.separatorData codec) :
    domain.chainId = other.chainId ∧ domain.verifyingContract = other.verifyingContract := by
  have parts := words_injective same
  simp only [List.cons.injEq] at parts
  obtain ⟨-, -, -, chain, contract, -⟩ := parts
  exact ⟨abiEncodeU256_injective chain, abiEncodeAddress_injective contract⟩

theorem digestData_parts {domain other : Eip712Domain} {structHash otherHash : Word 32}
    (same : digestData codec domain structHash = digestData codec other otherHash) :
    domain.separatorHash codec = other.separatorHash codec ∧ structHash = otherHash := by
  obtain ⟨domain, hash⟩ := append_parts (List.append_cancel_left same)
  exact ⟨domain, Subtype.ext hash⟩

def digestInputs (codec : Codec) (domain : Eip712Domain) (data : Bytes) : List Bytes :=
  [digestData codec domain (codec.keccak data), domain.separatorData codec, data]

theorem eip712Digest_parts {inputs : Set Bytes} (collisionFree : Set.InjOn codec.keccak inputs)
    {domain other : Eip712Domain} {data otherData : Bytes}
    (hashed : ∀ input ∈ digestInputs codec domain data, input ∈ inputs)
    (hashed' : ∀ input ∈ digestInputs codec other otherData, input ∈ inputs)
    (same : eip712Digest codec domain (codec.keccak data)
      = eip712Digest codec other (codec.keccak otherData)) :
    domain.chainId = other.chainId ∧ domain.verifyingContract = other.verifyingContract ∧
      data = otherData := by
  obtain ⟨separator, struct⟩ := digestData_parts (collisionFree
    (hashed _ (by simp [digestInputs])) (hashed' _ (by simp [digestInputs])) same)
  obtain ⟨chain, contract⟩ := separatorData_parts (collisionFree
    (hashed _ (by simp [digestInputs])) (hashed' _ (by simp [digestInputs])) separator)
  exact ⟨chain, contract, collisionFree (hashed _ (by simp [digestInputs]))
    (hashed' _ (by simp [digestInputs])) struct⟩

end Domain

section Structs

variable {codec : Codec} {nonce nonce' deadline deadline' : UInt64}

def FundsOutParams.dynamic (params : FundsOutParams) : List Bytes :=
  [utf8 params.sourceAddress, params.proof, params.settlementData]

def LzFundsOutCall.dynamic (call : LzFundsOutCall) : List Bytes :=
  [utf8 call.sourceAddress, call.proof, call.settlementData, call.extraOptions]

theorem fundsOutStructData_inj {inputs : Set Bytes}
    (collisionFree : Set.InjOn codec.keccak inputs) {params other : FundsOutParams}
    (hashed : ∀ input ∈ params.dynamic, input ∈ inputs)
    (hashed' : ∀ input ∈ other.dynamic, input ∈ inputs)
    (same : fundsOutStructData codec params nonce deadline
      = fundsOutStructData codec other nonce' deadline') :
    params = other ∧ nonce = nonce' ∧ deadline = deadline' := by
  have parts := words_injective same
  simp only [List.cons.injEq, true_and, and_true] at parts
  obtain ⟨recipient, amount, burnId, source, chain, address, proof, settlement, burnTx, nonces,
    deadlines⟩ := parts
  have address := utf8_injective (collisionFree (hashed _ (by simp [FundsOutParams.dynamic]))
    (hashed' _ (by simp [FundsOutParams.dynamic])) address)
  have proof := collisionFree (hashed _ (by simp [FundsOutParams.dynamic]))
    (hashed' _ (by simp [FundsOutParams.dynamic])) proof
  have settlement := collisionFree (hashed _ (by simp [FundsOutParams.dynamic]))
    (hashed' _ (by simp [FundsOutParams.dynamic])) settlement
  refine ⟨?_, abiEncodeU256_injective nonces, abiEncodeU256_injective deadlines⟩
  cases params
  cases other
  simp only [FundsOutParams.mk.injEq]
  exact ⟨abiEncodeAddress_injective recipient, u256Be_injective amount, u256Be_injective burnId,
    u256Be_injective source, u256Be_injective chain, address, proof, settlement, burnTx⟩

theorem lzFundsOutStructData_inj {inputs : Set Bytes}
    (collisionFree : Set.InjOn codec.keccak inputs) {call other : LzFundsOutCall}
    (hashed : ∀ input ∈ call.dynamic, input ∈ inputs)
    (hashed' : ∀ input ∈ other.dynamic, input ∈ inputs)
    (same : lzFundsOutStructData codec call nonce deadline
      = lzFundsOutStructData codec other nonce' deadline') :
    call = other ∧ nonce = nonce' ∧ deadline = deadline' := by
  have parts := words_injective same
  simp only [List.cons.injEq, true_and, and_true] at parts
  obtain ⟨amount, burnId, source, chain, address, proof, settlement, dstEid, recipient, minimum,
    options, burnTx, nonces, deadlines⟩ := parts
  have address := utf8_injective (collisionFree (hashed _ (by simp [LzFundsOutCall.dynamic]))
    (hashed' _ (by simp [LzFundsOutCall.dynamic])) address)
  have proof := collisionFree (hashed _ (by simp [LzFundsOutCall.dynamic]))
    (hashed' _ (by simp [LzFundsOutCall.dynamic])) proof
  have settlement := collisionFree (hashed _ (by simp [LzFundsOutCall.dynamic]))
    (hashed' _ (by simp [LzFundsOutCall.dynamic])) settlement
  have options := collisionFree (hashed _ (by simp [LzFundsOutCall.dynamic]))
    (hashed' _ (by simp [LzFundsOutCall.dynamic])) options
  refine ⟨?_, abiEncodeU256_injective nonces, abiEncodeU256_injective deadlines⟩
  cases call
  cases other
  simp only [LzFundsOutCall.mk.injEq]
  exact ⟨u256Be_injective amount, u256Be_injective burnId, u256Be_injective source,
    u256Be_injective chain, address, proof, settlement, abiEncodeU32_injective dstEid, recipient,
    u256Be_injective minimum, options, burnTx⟩

theorem structData_ne (params : FundsOutParams) (call : LzFundsOutCall) :
    fundsOutStructData codec params nonce deadline
      ≠ lzFundsOutStructData codec call nonce' deadline' := by
  intro same
  have length := congrArg List.length same
  rw [fundsOutStructData, lzFundsOutStructData, words_length, words_length] at length
  simp at length

end Structs

end EnclaveSigner.Evm

namespace EnclaveSigner.Server

open Lib Evm Proto

/-- A destination that validation accepted, with the digest that the key signs
    for it. -/
structure SignableRelease (codec : Codec) where
  ctx : ServerContext
  destination : EvmDestination
  now : Rgb.SystemTime
  proof : RouteProof
  params : Option FundsOutParams
  release : ReleaseIdentity
  domain : Eip712Domain
  digest : Word 32
  shares : ctx.codec = codec
  accepted : validateDestination ctx.codec ctx.cfg destination now = .ok (proof, params, release)
  built : buildEvmDomain destination = .ok domain
  computed : releaseDigest ctx domain destination params = .ok digest

/-- What the digest of a direct release hashes. -/
def fundsOutInputs (codec : Codec) (domain : Eip712Domain) (params : FundsOutParams)
    (nonce deadline : UInt64) : List Bytes :=
  digestInputs codec domain (fundsOutStructData codec params nonce deadline) ++ params.dynamic

/-- What the digest of a LayerZero release hashes. -/
def lzFundsOutInputs (codec : Codec) (domain : Eip712Domain) (call : LzFundsOutCall)
    (nonce deadline : UInt64) : List Bytes :=
  digestInputs codec domain (lzFundsOutStructData codec call nonce deadline) ++ call.dynamic

section Routes

variable {codec : Codec}

/-- What the digest of the release hashes. -/
def SignableRelease.hashed (a : SignableRelease codec) : List Bytes :=
  match a.params, codec.decodeLzFundsOut a.destination.callData with
  | some params, _ =>
      fundsOutInputs codec a.domain params a.destination.nonce a.destination.deadline
  | none, .ok call =>
      lzFundsOutInputs codec a.domain call a.destination.nonce a.destination.deadline
  | none, .error _ => []

/-- A request, what its digest hashes, and the digest, on either route. -/
inductive Signs (codec : Codec) (req : EvmDestination) : List Bytes → Word 32 → Prop
  | direct {domain : Eip712Domain} {params : FundsOutParams} (of : DomainOf req domain)
      (route : req.lzRelease = none) (encoded : req.callData = codec.encodeFundsOut params) :
      Signs codec req (fundsOutInputs codec domain params req.nonce req.deadline)
        (fundsOutDigest codec domain params req.nonce req.deadline)
  | entrypoint {domain : Eip712Domain} {call : LzFundsOutCall} {minAmountLd : UInt64}
      (of : DomainOf req domain)
      (route : req.lzRelease = some ⟨call.dstEid, minAmountLd, call.recipient.val⟩)
      (minimum : call.minAmountLD = u256OfU64 minAmountLd)
      (encoded : req.callData = codec.encodeLzFundsOut call) :
      Signs codec req (lzFundsOutInputs codec domain call req.nonce req.deadline)
        (eip712Digest codec domain (lzFundsOutStructHash codec call req.nonce req.deadline))

/-- The fields that the digest names. -/
structure SameRelease (req other : EvmDestination) : Prop where
  chainId : req.chainId = other.chainId
  proxyContract : req.proxyContract = other.proxyContract
  nonce : req.nonce = other.nonce
  deadline : req.deadline = other.deadline
  callData : req.callData = other.callData
  lzRelease : req.lzRelease = other.lzRelease

theorem decodeCanonical_inv {α : Type} {decode : Bytes → Except String α} {encode : α → Bytes}
    {name rejection : String} {callData : Bytes} {decoded : α}
    (read : Evm.decodeCanonical decode encode name rejection callData = .ok decoded) :
    decode callData = .ok decoded ∧ callData = encode decoded := by
  simp only [Evm.decodeCanonical, bind_ok, refuse_ok, ne_eq, not_not, mapError_ok] at read
  obtain ⟨found, decodes, _, encodes, ⟨⟩⟩ := read
  exact ⟨decodes, encodes.symm⟩

theorem validateDestination_params {cfg : BridgeConfig} {destination : EvmDestination}
    {now : Rgb.SystemTime} {proof : RouteProof} {params : Option FundsOutParams}
    {release : ReleaseIdentity}
    (accepted : validateDestination codec cfg destination now = .ok (proof, params, release)) :
    (∃ decoded, params = some decoded ∧ destination.callData = codec.encodeFundsOut decoded) ∨
      params = none := by
  simp only [validateDestination, bind_ok] at accepted
  obtain ⟨selector, -, _, -, ⟨_, _, _⟩, decoded, _, -, _, -, _, -, _, -, _, -, ⟨⟩⟩ := accepted
  unfold decodeRelease at decoded
  split at decoded
  · simp only [decodeLzRelease, bind_ok] at decoded
    obtain ⟨_, -, _, -, _, -, _, -, ⟨⟩⟩ := decoded
    exact .inr rfl
  · simp only [decodeDirectRelease, bind_ok] at decoded
    obtain ⟨found, read, _, -, ⟨⟩⟩ := decoded
    exact .inl ⟨found, rfl, (decodeCanonical_inv read).2⟩

theorem lzFundsOutDigest_ok {domain : Eip712Domain} {callData : Bytes}
    {lzRelease : LzReleaseParams} {nonce deadline : UInt64} {digest : Word 32}
    (computed : lzFundsOutDigest codec domain callData lzRelease nonce deadline = .ok digest) :
    ∃ call minAmountLd, codec.decodeLzFundsOut callData = .ok call ∧
      callData = codec.encodeLzFundsOut call ∧
      lzRelease = ⟨call.dstEid, minAmountLd, call.recipient.val⟩ ∧
      call.minAmountLD = u256OfU64 minAmountLd ∧
      digest = eip712Digest codec domain (lzFundsOutStructHash codec call nonce deadline) := by
  simp only [lzFundsOutDigest, bind_ok, refuse_ok, okOr_ok, ne_eq, not_not] at computed
  obtain ⟨_, -, call, read, _, dstEid, _, recipient, minAmountLd, fits, _, minimum, ⟨⟩⟩ := computed
  obtain ⟨decodes, encodes⟩ := decodeCanonical_inv read
  refine ⟨call, minAmountLd, decodes, encodes, ?_, u64OfU256_eq_some.mp fits, rfl⟩
  cases lzRelease
  simp only [LzReleaseParams.mk.injEq]
  exact ⟨dstEid, minimum, recipient⟩

theorem SignableRelease.signs (a : SignableRelease codec) :
    Signs codec a.destination a.hashed a.digest := by
  obtain ⟨ctx, destination, now, proof, params, release, domain, digest, rfl, accepted, built,
    computed⟩ := a
  have of := buildEvmDomain_ok built
  rcases validateDestination_params accepted with ⟨decoded, rfl, encoded⟩ | rfl
  · cases route : destination.lzRelease with
    | some lzRelease =>
        simp only [releaseDigest, route] at computed
        cases computed
    | none =>
        simp only [releaseDigest, route] at computed
        cases computed
        exact .direct of route encoded
  · cases route : destination.lzRelease with
    | none =>
        simp only [releaseDigest, route] at computed
        cases computed
    | some lzRelease =>
        simp only [releaseDigest, route] at computed
        obtain ⟨call, minAmountLd, decodes, encoded, rfl, minimum, rfl⟩ :=
          lzFundsOutDigest_ok computed
        simp only [hashed, decodes]
        exact .entrypoint of route minimum encoded

theorem Signs.sameRelease {req other : EvmDestination} {inputs others : List Bytes}
    {digest digest' : Word 32} (left : Signs codec req inputs digest)
    (right : Signs codec other others digest')
    (collisionFree : Set.InjOn codec.keccak {input | input ∈ inputs ++ others})
    (same : digest = digest') : SameRelease req other := by
  cases left with
  | direct of route encoded =>
      cases right with
      | direct of' route' encoded' =>
          obtain ⟨chain, contract, data⟩ := eip712Digest_parts collisionFree
            (by simp +contextual [fundsOutInputs]) (by simp +contextual [fundsOutInputs]) same
          obtain ⟨rfl, nonces, deadlines⟩ := fundsOutStructData_inj collisionFree
            (by simp +contextual [fundsOutInputs]) (by simp +contextual [fundsOutInputs]) data
          obtain ⟨chain, proxy⟩ := of.same of' chain contract
          exact ⟨chain, proxy, nonces, deadlines, encoded.trans encoded'.symm,
            route.trans route'.symm⟩
      | entrypoint of' route' minimum' encoded' =>
          obtain ⟨-, -, data⟩ := eip712Digest_parts collisionFree
            (by simp +contextual [fundsOutInputs]) (by simp +contextual [lzFundsOutInputs]) same
          exact absurd data (structData_ne _ _)
  | entrypoint of route minimum encoded =>
      cases right with
      | direct of' route' encoded' =>
          obtain ⟨-, -, data⟩ := eip712Digest_parts collisionFree
            (by simp +contextual [lzFundsOutInputs]) (by simp +contextual [fundsOutInputs]) same
          exact absurd data.symm (structData_ne _ _)
      | entrypoint of' route' minimum' encoded' =>
          obtain ⟨chain, contract, data⟩ := eip712Digest_parts collisionFree
            (by simp +contextual [lzFundsOutInputs]) (by simp +contextual [lzFundsOutInputs]) same
          obtain ⟨rfl, nonces, deadlines⟩ := lzFundsOutStructData_inj collisionFree
            (by simp +contextual [lzFundsOutInputs]) (by simp +contextual [lzFundsOutInputs]) data
          obtain ⟨chain, proxy⟩ := of.same of' chain contract
          refine ⟨chain, proxy, nonces, deadlines, encoded.trans encoded'.symm, ?_⟩
          rw [route, route', u256OfU64_injective (minimum.symm.trans minimum')]

theorem Signs.preimage {req : EvmDestination} {inputs : List Bytes} {digest : Word 32}
    (signs : Signs codec req inputs digest) :
    ∃ rest, 0x19 :: rest ∈ inputs ∧ digest = codec.keccak (0x19 :: rest) := by
  cases signs with
  | direct of route encoded => exact ⟨_, List.mem_cons_self, rfl⟩
  | entrypoint of route minimum encoded => exact ⟨_, List.mem_cons_self, rfl⟩

theorem validateGasTxRequest_head {keccak : Bytes → Word 32} {req : Gas.SignRawDigestRequest}
    {cfg : BridgeConfig} {digest : Word 32}
    (accepted : Gas.validateGasTxRequest keccak req cfg = .ok digest) :
    digest = keccak req.unsignedTx ∧ req.unsignedTx.head? ≠ some 0x19 := by
  simp only [Gas.validateGasTxRequest, bind_ok] at accepted
  obtain ⟨_, -, _, -, tx, parsed, _, -, _, -, ⟨⟩⟩ := accepted
  refine ⟨rfl, fun head => ?_⟩
  rw [Gas.parseGasTx, head] at parsed
  cases parsed

end Routes

/-- A digest that is computed for an accepted destination names its release: the
    domain, the nonce, the deadline and the calldata of the route. It is not the
    digest of a gas transaction. -/
theorem digest_names_one_release (codec : Codec) (a : SignableRelease codec) :
    (∀ b : SignableRelease codec,
      Set.InjOn codec.keccak {input | input ∈ a.hashed ++ b.hashed} → a.digest = b.digest →
      a.destination.lzRelease.isSome = b.destination.lzRelease.isSome ∧
        SameRelease a.destination b.destination) ∧
    ∀ (req : Gas.SignRawDigestRequest) (cfg : BridgeConfig) (digest : Word 32),
      Gas.validateGasTxRequest codec.keccak req cfg = .ok digest →
      Set.InjOn codec.keccak {input | input ∈ req.unsignedTx :: a.hashed} → a.digest ≠ digest := by
  constructor
  · intro b collisionFree same
    have release := a.signs.sameRelease b.signs collisionFree same
    exact ⟨congrArg Option.isSome release.lzRelease, release⟩
  · intro req cfg digest accepted collisionFree same
    obtain ⟨rest, inside, preimage⟩ := a.signs.preimage
    obtain ⟨gas, other⟩ := validateGasTxRequest_head accepted
    have bytes := collisionFree (List.mem_cons_of_mem _ inside) List.mem_cons_self
      (preimage.symm.trans (same.trans gas))
    exact other (congrArg List.head? bytes.symm)

section Samples

/-- The hashes of the sample release, and of a gas transaction. -/
def digestCodec : Codec :=
  sampleCodecWith ((Gas.sampleGasTx.signingPreimage, Gas.sampleKeccak256
    Gas.sampleGasTx.signingPreimage) :: sampleHashes)

theorem sampleDestination_accepted :
    validateDestination digestCodec sampleConfig (sampleDestination 6) (some 1700002000)
      = .ok (⟨1000, none⟩, none, .fromLzFundsOut (sampleCall 6)) := by decide +kernel

theorem sampleDestination_digest :
    releaseDigest { sampleContext with codec := digestCodec } sampleDomain (sampleDestination 6)
      none = .ok sampleDigest := by decide +kernel

def sampleSignable (record : Option BurnDestination) : SignableRelease digestCodec where
  ctx := { sampleContext with codec := digestCodec }
  destination := { sampleDestination 6 with burnDestination := record }
  now := some 1700002000
  proof := ⟨1000, none⟩
  params := none
  release := .fromLzFundsOut (sampleCall 6)
  domain := sampleDomain
  digest := sampleDigest
  shares := rfl
  accepted := sampleDestination_accepted
  built := rfl
  computed := sampleDestination_digest

theorem sampleSignable_hashed (record : Option BurnDestination) :
    (sampleSignable record).hashed
      = lzFundsOutInputs digestCodec sampleDomain (sampleCall 6) 7 1700003000 := by
  have decoded : digestCodec.decodeLzFundsOut (sampleDestination 6).callData
      = .ok (sampleCall 6) := by decide +kernel
  unfold SignableRelease.hashed
  dsimp only [sampleSignable]
  rw [decoded]
  rfl

/-- The record of the burn does not enter the digest. -/
theorem digest_names_one_release_record :
    (sampleSignable (some sampleRecord)).destination ≠ (sampleSignable none).destination ∧
      SameRelease (sampleSignable (some sampleRecord)).destination
        (sampleSignable none).destination ∧
      sampleDigest ≠ digestCodec.keccak Gas.sampleGasTx.signingPreimage := by
  have apart : ∀ x ∈ Gas.sampleGasTx.signingPreimage ::
      lzFundsOutInputs digestCodec sampleDomain (sampleCall 6) 7 1700003000,
      ∀ y ∈ Gas.sampleGasTx.signingPreimage ::
        lzFundsOutInputs digestCodec sampleDomain (sampleCall 6) 7 1700003000,
        digestCodec.keccak x = digestCodec.keccak y → x = y := by decide +kernel
  have gas : Gas.validateGasTxRequest digestCodec.keccak ⟨[], Gas.sampleGasTx.signingPreimage⟩
      Gas.sampleGasConfig = .ok (digestCodec.keccak Gas.sampleGasTx.signingPreimage) := by
    decide +kernel
  obtain ⟨unique, separate⟩ :=
    digest_names_one_release digestCodec (sampleSignable (some sampleRecord))
  refine ⟨by decide +kernel, (unique (sampleSignable none) ?_ rfl).2, separate _ _ _ gas ?_⟩
  · rw [sampleSignable_hashed, sampleSignable_hashed]
    intro x hx y hy
    exact apart x (List.mem_cons_of_mem _ (by simpa using hx)) y
      (List.mem_cons_of_mem _ (by simpa using hy))
  · rw [sampleSignable_hashed]
    intro x hx y hy
    exact apart x hx y hy

end Samples

end EnclaveSigner.Server
