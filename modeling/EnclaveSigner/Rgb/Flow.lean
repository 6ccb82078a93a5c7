import EnclaveSigner.Lib.MachineInt
import EnclaveSigner.Rgb.Consignment

/-! # Mint and burn flow

The mint signer signs mints only. A withdrawal is settled by a burn. Its amount
is the burned-asset global of the burn, and the release must name exactly that
amount.
-/

namespace EnclaveSigner.Rgb

open Lib

def FLOW_NAME : String := "mint/burn"

def isMintTransition (rgb : RgbStd) (transitionType : UInt16) : Bool :=
  transitionType == rgb.schemata.tsMint

def isSigningTransition (rgb : RgbStd) (transitionType : UInt16) : Bool :=
  isMintTransition rgb transitionType

def assertGroupAmount (minted sourceAmount sourceCommission : UInt64) : Result Unit :=
  let netCredited := satSub64 sourceAmount sourceCommission
  refuse (minted ≠ netCredited)
    (.crossCheck (s!"mint-RGB amount mismatch: the mint issues {minted} != net credited " ++
      s!"(source_amount {sourceAmount} - source_commission {sourceCommission} = {netCredited})"))

def fundsOutSourceAmount (rgb : RgbStd) (last : TransitionSummary) :
    Result UInt64 := do
  refuse (last.transitionType ≠ rgb.schemata.tsBurn)
    (.crossCheck (s!"fundsOut requires a burn transition (last transition_type = " ++
      s!"{last.transitionType}, want {rgb.schemata.tsBurn}) - this enclave is built for the " ++
      s!"{FLOW_NAME} flow"))
  okOr (.crossCheck
    "burn transition carries no burnedAsset global - it destroys no asset units")
    last.burnedAssetAmount

def assertFundsOutAmount (sourceAmount calldataAmount : UInt64) : Result Unit :=
  refuse (sourceAmount ≠ calldataAmount)
    (.crossCheck (s!"fundsOut amount mismatch: consignment proves {sourceAmount} asset units " ++
      s!"were burned, calldata amount is {calldataAmount} - the {FLOW_NAME} flow requires " ++
      "exact equality"))

end EnclaveSigner.Rgb
