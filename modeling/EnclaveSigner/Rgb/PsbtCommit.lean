import EnclaveSigner.Config
import EnclaveSigner.Rgb.Std

/-! # The transition that a transaction commits

The mint signer reads the one transition of the pinned contract from the fascia
of a transaction, with no consignment. Each step is a commitment: the fascia is
of this transaction, its output commits exactly the bundles of the fascia, and
the bundle holds one transition under its own id. So the txid fixes the
transition.
-/

namespace EnclaveSigner.Rgb

open Lib Bitcoin

structure Committed where
  txid : Txid
  opid : OpId
  transition : Transition
  deriving DecidableEq

def MAX_PSBT_BYTES : Nat := 1024 * 1024

def checkPsbtSize (what : String) (bytes : Bytes) : Result Unit :=
  refuse (bytes.length > MAX_PSBT_BYTES)
    (.crossCheck s!"{what} is {bytes.length} bytes; the limit is {MAX_PSBT_BYTES}")

def txidText (txid : Txid) : String := hexEncode txid.reverse.val

section

variable (btc : Crate) (rgb : RgbStd)

def pinnedContract (cfg : BridgeConfig) : Result ContractId := do
  refuse (cfg.rgbAssetId = "")
    (.crossCheck ("asset-identity pin missing: RGB_ASSET_ID is not configured - refusing to sign " ++
      "for an unpinned asset"))
  (rgb.contractIdOfText cfg.rgbAssetId).mapError fun e =>
    .crossCheck s!"RGB_ASSET_ID {cfg.rgbAssetId} is not a contract id: {e}"

/-- Decode a fascia. Its confinement to less than `2 ^ 24` bytes cannot fail once
    the size limit of a PSBT is passed. -/
def parseFascia (bytes : Bytes) (field : String) : Result Fascia := do
  refuse (bytes = [])
    (.crossCheck (s!"{field} required: rgb-lib strips the RGB data from the PSBT and keeps it in " ++
      "the tx's fascia"))
  checkPsbtSize field bytes
  (rgb.decodeFascia bytes).mapError fun e =>
    .crossCheck s!"{field} is not an rgb-lib fascia: {e}"

/-- Consensus reads the commitment from the first `OP_RETURN` or P2TR output.
    It has to be an `OP_RETURN`. -/
def assertOpretHost (tx : Transaction) : Result Unit := do
  let (host, i) ← okOr (.crossCheck "tx has no OP_RETURN output to commit its RGB bundle")
    (tx.output.val.zipIdx.find? fun (out, _) => out.isOpReturn || out.isP2tr)
  refuse (host.isOpReturn = false)
    (.crossCheck (s!"tx output {i} is a P2TR before the OP_RETURN, so RGB consensus reads a " ++
      "tapret commitment there - refusing to sign"))

def pinnedBundle (bundles : List (ContractId × TransitionBundle)) (pin : ContractId) :
    Result TransitionBundle :=
  match bundles with
  | [(cid, bundle)] => do
      refuse (cid ≠ pin)
        (.crossCheck (s!"the fascia discloses a bundle of contract {rgb.contractIdText cid}, not " ++
          s!"of the pinned RGB_ASSET_ID {rgb.contractIdText pin}"))
      pure bundle
  | all =>
      .error (.crossCheck (s!"the fascia discloses {all.length} contract bundles - exactly one, " ++
        "of the pinned asset"))

def assertCommitsExactly (tx : Transaction) (fascia : Fascia)
    (bundles : List (ContractId × TransitionBundle)) : Result Unit := do
  let entropy ← okOr
    (.crossCheck "the fascia's MPC block carries no MPC entropy to rebuild the commitment")
    fascia.mpcEntropy
  let messages := bundles.map fun (cid, bundle) => (cid, rgb.bundleId bundle)
  (rgb.confineMessages messages.length).mapError fun e =>
    EnclaveError.crossCheck s!"fascia MPC messages: {e}"
  let commitment ← (rgb.mpcCommit messages entropy).mapError fun e =>
    EnclaveError.crossCheck s!"fascia MPC tree: {e}"
  (rgb.opretVerify commitment tx).mapError fun e =>
    EnclaveError.crossCheck ("the OP_RETURN does not commit exactly the bundles the fascia " ++
      s!"discloses: {e} - refusing to sign state moves the enclave cannot see")

/-- The bundle id commits only the input map, so each entry must close an input
    of the disclosed transition, for that transition. -/
def assertInputMapIs (bundle : TransitionBundle) (transition : Transition) (id : OpId) :
    Result Unit := do
  let inputs := transition.inputs.eraseDups
  let keys := (bundle.inputMap.map Prod.fst).eraseDups
  refuse (¬ (keys ⊆ inputs ∧ inputs ⊆ keys))
    (.crossCheck (s!"the fascia's input map closes {keys.length} seal(s), but transition " ++
      s!"{rgb.opIdText id} spends {inputs.length} - refusing to sign a bundle that closes seals " ++
      "the enclave cannot see"))
  match (bundle.inputMap.map Prod.snd).find? (· != id) with
  | some other =>
      .error (.crossCheck (s!"the fascia's input map assigns a seal to transition " ++
        s!"{rgb.opIdText other}, not to the disclosed {rgb.opIdText id}"))
  | none => pure ()

/-- The bundle holds one transition, under its own id, of the pinned contract. -/
def disclosedTransition (bundle : TransitionBundle) (pin : ContractId) :
    Result (OpId × Transition) :=
  match bundle.knownTransitions with
  | [known] => do
      let transition := known.transition
      let id := rgb.transitionId transition
      refuse (id ≠ known.opid)
        (.crossCheck (s!"the fascia stores a transition under opid {rgb.opIdText known.opid} but " ++
          s!"its id is {rgb.opIdText id}"))
      refuse (transition.contractId ≠ pin)
        (.crossCheck (s!"the fascia's transition {rgb.opIdText id} belongs to contract " ++
          s!"{rgb.contractIdText transition.contractId}, not the pinned " ++
          s!"{rgb.contractIdText pin}"))
      assertInputMapIs rgb bundle transition id
      pure (id, transition)
  | all =>
      .error (.crossCheck (s!"the fascia discloses {all.length} transitions in its bundle - the " ++
        "mint signer signs exactly one"))

def committedTransition (tx : Transaction) (fascia : Fascia) (pin : ContractId) :
    Result Committed := do
  let txid := tx.txid btc
  refuse (fascia.witnessId btc ≠ txid)
    (.crossCheck (s!"the fascia is of tx {txidText (fascia.witnessId btc)}, not of the PSBT's tx " ++
      s!"{txidText txid} - refusing to sign a tx whose RGB data the enclave cannot see"))
  assertOpretHost tx
  let bundle ← pinnedBundle rgb fascia.bundles pin
  assertCommitsExactly rgb tx fascia fascia.bundles
  let (opid, transition) ← disclosedTransition rgb bundle pin
  pure { txid, opid, transition }

def singleRightInput (transition : Transition) (what : String) : Result Opout :=
  match transition.inputs with
  | [input] => do
      refuse (input.ty ≠ rgb.schemata.osMint)
        (.crossCheck (s!"{what} must close exactly one mintRight - it closes " ++
          rgb.opoutsDebug [input]))
      pure input
  | inputs =>
      .error (.crossCheck (s!"{what} must close exactly one mintRight - it closes " ++
        rgb.opoutsDebug inputs))

inductive OutputSeal where
  | revealed (txid : Option (Word 32)) (vout : UInt32)
  | confidential (secretSeal : String)
  deriving DecidableEq

def outputSeal : BuilderSeal → OutputSeal
  | .revealed graph => .revealed (graph.txid.map Word.reverse) graph.vout
  | .concealed secret => .confidential (rgb.secretSealText secret)

/-- The output of a seal on the transaction that commits its transition. -/
def witnessVout (what : String) : OutputSeal → Result UInt32
  | .revealed none vout => .ok vout
  | .revealed (some _) vout =>
      .error (.crossCheck (s!"{what} is on vout {vout} of another transaction - it must be on an " ++
        "output of the transaction that makes it"))
  | .confidential secretSeal =>
      .error (.crossCheck (s!"{what} is on blinded seal {secretSeal} - the enclave cannot prove " ++
        "where a blinded seal is"))

end

section

variable {btc : Crate} {rgb : RgbStd}

theorem disclosedTransition_ok {bundle : TransitionBundle} {pin : ContractId} {opid : OpId}
    {transition : Transition}
    (passes : disclosedTransition rgb bundle pin = .ok (opid, transition)) :
    opid = rgb.transitionId transition := by
  rw [disclosedTransition] at passes
  split at passes
  · simp only [bind_ok] at passes
    obtain ⟨_, -, _, -, _, -, same⟩ := passes
    cases same
    rfl
  · cases passes

theorem committedTransition_ok {tx : Transaction} {fascia : Fascia} {pin : ContractId}
    {committed : Committed}
    (passes : committedTransition btc rgb tx fascia pin = .ok committed) :
    committed.txid = tx.txid btc ∧ committed.opid = rgb.transitionId committed.transition := by
  simp only [committedTransition, bind_ok] at passes
  obtain ⟨_, -, _, -, bundle, -, _, -, ⟨opid, transition⟩, disclosed, same⟩ := passes
  cases same
  exact ⟨rfl, disclosedTransition_ok disclosed⟩

end

end EnclaveSigner.Rgb
