import Mathlib.Data.Set.Function
import EnclaveSigner.Evm.Crosscheck

/-! # What a release is bound to

Each field of a payout is pinned by some check: by the burn, by its record or, for
a legacy burn, by the configuration. The route follows from the endpoint, and the
burn id is a hash over the burn's operation id.
-/

namespace EnclaveSigner.Evm

open Lib Rgb Proto

variable {codec : Codec} {rgb : RgbStd} {cfg : BridgeConfig} {release : ReleaseIdentity}
  {validated : ValidatedConsignment}

theorem validateFundsOutAmount_ok
    (passes : validateFundsOutAmount rgb release validated = .ok ()) :
    ∃ last burned, validated.lastTransition = some last ∧
      last.burnedAssetAmount = some burned ∧ release.amount = u256OfU64 burned := by
  simp only [validateFundsOutAmount, fundsOutSourceAmount, assertFundsOutAmount, bind_ok, refuse_ok,
    ne_eq, not_not] at passes
  obtain ⟨last, found, burned, ⟨_, -, destroyed⟩, amount, fits, same⟩ := passes
  subst same
  exact ⟨last, burned, okOr_ok.mp found, okOr_ok.mp destroyed,
    u64OfU256_eq_some.mp (okOr_ok.mp fits)⟩

theorem validateFundsOutSourceBurnTxId_ok
    (passes : validateFundsOutSourceBurnTxId release validated = .ok ()) :
    validated.lastTransferOpId = some release.sourceBurnTxId := by
  simp only [validateFundsOutSourceBurnTxId, bind_ok, refuse_ok, ne_eq, not_not] at passes
  obtain ⟨_, -, expected, found, _, -, same⟩ := passes
  rw [same]
  exact okOr_ok.mp found

structure PaysOut (release : ReleaseIdentity) (target : BurnTarget) : Prop where
  dstEid : target.dstEid = release.dstEid
  chain : ∀ chain, target.destinationChainId = some chain →
    release.destinationChainId = u256OfU64 chain
  recipient : target.recipient = release.recipient

theorem validateFundsOutBurnRecipient_ok {record : Option BurnDestination}
    (passes : validateFundsOutBurnRecipient codec release validated record = .ok ()) :
    ∃ last reason target, validated.lastTransition = some last ∧
      last.burnReason = some reason ∧ resolve codec reason record = .ok target ∧
        PaysOut release target := by
  simp only [validateFundsOutBurnRecipient, bind_ok, refuse_ok, ne_eq, not_not] at passes
  obtain ⟨last, found, reason, committed, target, resolved, _, dstEid, _, chain, recipient⟩ :=
    passes
  refine ⟨last, reason, target, okOr_ok.mp found, okOr_ok.mp committed, resolved, dstEid, ?_,
    recipient⟩
  intro id named
  rw [checkTargetChain, named] at chain
  simpa using chain

section Resolve

variable {reason : Word 32} {target target₁ target₂ : BurnTarget}
  {record record₁ record₂ : Option BurnDestination}

def recordInputs (codec : Codec) : Option BurnDestination → List Bytes
  | some record => [recordPreimage codec record, record.recipient]
  | none => []

theorem recordPreimage_inj {a b : BurnDestination}
    (same : recordPreimage codec a = recordPreimage codec b) :
    a.destinationChainId = b.destinationChainId ∧ a.dstEid = b.dstEid ∧
      codec.keccak a.recipient = codec.keccak b.recipient := by
  have rest := List.append_cancel_left same
  obtain ⟨chain, rest⟩ := append_parts rest
  obtain ⟨dstEid, recipient⟩ := append_parts rest
  exact ⟨abiEncodeU256_injective chain, abiEncodeU32_injective dstEid, Subtype.ext recipient⟩

theorem resolve_legacy (legacy : isLegacyReason reason = true) :
    resolve codec reason record = .ok target ↔ record = none ∧ target = ⟨none, none, reason⟩ := by
  rw [resolve, if_pos legacy, refuse_bind_ok]
  constructor
  · rintro ⟨absent, same⟩
    cases same
    exact ⟨by simpa using absent, rfl⟩
  · rintro ⟨rfl, rfl⟩
    exact ⟨by simp, rfl⟩

theorem resolve_record (hashed : isLegacyReason reason = false)
    (resolved : resolve codec reason record = .ok target) :
    ∃ sent, record = some sent ∧ hashV1 codec sent = reason ∧
      target = ⟨some sent.destinationChainId, if sent.dstEid = 0 then none else some sent.dstEid,
        leftPadWord sent.recipient⟩ := by
  rw [resolve, if_neg (Bool.not_eq_true _ ▸ hashed), bind_ok] at resolved
  obtain ⟨sent, found, resolved⟩ := resolved
  rw [resolveRecord] at resolved
  split at resolved
  · simp only [resolveV1, bind_ok, refuse_ok, ne_eq, not_not] at resolved
    obtain ⟨_, -, _, -, _, hash, same⟩ := resolved
    cases same
    exact ⟨sent, okOr_ok.mp found, hash, rfl⟩
  · cases resolved

theorem resolve_unique
    (collisionFree : Set.InjOn codec.keccak
      {input | input ∈ recordInputs codec record₁ ++ recordInputs codec record₂})
    (resolved₁ : resolve codec reason record₁ = .ok target₁)
    (resolved₂ : resolve codec reason record₂ = .ok target₂) : target₁ = target₂ := by
  cases legacy : isLegacyReason reason with
  | true =>
      rw [((resolve_legacy legacy).mp resolved₁).2, ((resolve_legacy legacy).mp resolved₂).2]
  | false =>
      obtain ⟨sent₁, rfl, hash₁, rfl⟩ := resolve_record legacy resolved₁
      obtain ⟨sent₂, rfl, hash₂, rfl⟩ := resolve_record legacy resolved₂
      have preimage := collisionFree (by simp [recordInputs]) (by simp [recordInputs])
        (hash₁.trans hash₂.symm)
      obtain ⟨chain, dstEid, recipientHash⟩ := recordPreimage_inj preimage
      have recipient := collisionFree (by simp [recordInputs]) (by simp [recordInputs])
        recipientHash
      rw [chain, dstEid, recipient]

theorem dstEid_of_resolve (resolved : resolve codec reason record = .ok target)
    (unnamed : target.destinationChainId = none) : target.dstEid = none := by
  cases legacy : isLegacyReason reason with
  | true => rw [((resolve_legacy legacy).mp resolved).2]
  | false =>
      obtain ⟨sent, -, -, rfl⟩ := resolve_record legacy resolved
      cases unnamed

end Resolve

section BurnId

variable {other : ReleaseIdentity}

theorem validateRgbSourceIdentity_ok (passes : validateRgbSourceIdentity release = .ok ()) :
    release.sourceChainId = u256OfU64 RGB_CHAIN_ID ∧ release.sourceAddress = "" := by
  simp only [validateRgbSourceIdentity, bind_ok, refuse_ok, ne_eq, not_not] at passes
  obtain ⟨_, chain, address⟩ := passes
  exact ⟨chain, address⟩

theorem validateBurnId_ok (pinned : cfg.tokenContract ≠ Word.zero 20)
    (passes : validateBurnId codec cfg release = .ok ()) :
    release.burnId = expectedBurnId codec cfg release := by
  rw [validateBurnId, refuse_ok, not_and, ne_eq, not_not] at passes
  exact passes pinned

theorem sourceBurnTxId_of_burnIdPreimage
    (same : burnIdPreimage codec cfg release = burnIdPreimage codec cfg other) :
    release.sourceBurnTxId = other.sourceBurnTxId := by
  have rest := List.append_cancel_left same
  have rest := List.append_cancel_left rest
  have rest := List.append_cancel_left rest
  have rest := List.append_cancel_left rest
  obtain ⟨-, rest⟩ := append_parts rest
  obtain ⟨-, rest⟩ := append_parts rest
  obtain ⟨-, opId⟩ := append_parts rest
  exact Subtype.ext opId

end BurnId

section Destination

variable {destination : EvmDestination} {now : Rgb.SystemTime} {proof : RouteProof}
  {params : Option FundsOutParams}

theorem decodeRelease_dstEid {isEntrypointRoute : Bool} {callData : Bytes}
    (decoded : decodeRelease codec isEntrypointRoute callData = .ok (proof, params, release)) :
    release.dstEid.isSome = isEntrypointRoute := by
  cases isEntrypointRoute with
  | true =>
      simp only [decodeRelease, if_true, decodeLzRelease, bind_ok] at decoded
      obtain ⟨call, -, _, -, _, -, _, -, same⟩ := decoded
      cases same
      rfl
  | false =>
      simp only [decodeRelease, Bool.false_eq_true, if_false, decodeDirectRelease,
        bind_ok] at decoded
      obtain ⟨call, -, _, -, same⟩ := decoded
      cases same
      rfl

theorem validateDestination_ok
    (passes : validateDestination codec cfg destination now = .ok (proof, params, release)) :
    destination.callData.take 4
        = (if release.dstEid.isSome then lzFundsOutSelector codec else FUNDS_OUT_SELECTOR_POOLS) ∧
      (cfg.chainId ≠ 0 → release.dstEid = none →
        release.destinationChainId = u256OfU64 cfg.chainId) := by
  simp only [validateDestination, releaseSelector, bind_ok, refuse_ok, not_not] at passes
  obtain ⟨selector, ⟨_, -, _, -, _, listed, named⟩, _, -, ⟨proof', params', release'⟩, decoded,
    _, -, _, -, _, chain, _, -, _, -, same⟩ := passes
  cases named
  cases same
  have route := decodeRelease_dstEid decoded
  constructor
  · rw [route]
    rcases List.mem_cons.mp listed with direct | listed
    · split
      · rename_i entrypoint
        exact beq_iff_eq.mp entrypoint
      · exact direct
    · rw [List.mem_singleton.mp listed, if_pos (beq_self_eq_true _)]
  · intro pinned direct
    rw [direct, Option.isSome_none] at route
    rw [checkDestinationChain, ← route] at chain
    simp only [Bool.false_eq_true, if_false, refuse_ok, not_and, ne_eq, not_not] at chain
    exact chain pinned

end Destination

end EnclaveSigner.Evm
