import EnclaveSigner.Bitcoin.Psbt
import EnclaveSigner.Error
import EnclaveSigner.Lib.Checks

/-! # The BIP-86 accounts

The wallet keeps plain bitcoin and coins that carry RGB state in two accounts of
one seed. A key belongs to an account by its derivation path, and the wallet
finds a coin again only on some paths below the account.
-/

namespace EnclaveSigner.Bitcoin

open Lib

inductive AccountType where
  | vanilla
  | colored
  deriving DecidableEq, Repr

def COLORED_KEYCHAIN : UInt32 := 0

def VANILLA_KEYCHAINS : List UInt32 := [0, 1]

def isWalletChildPath (account : AccountType) (childPath : DerivationPath) : Bool :=
  match childPath with
  | [.normal keychain, .normal _] =>
      match account with
      | .colored => keychain == COLORED_KEYCHAIN
      | .vanilla => VANILLA_KEYCHAINS.contains keychain
  | _ => false

/-- The two BIP-86 accounts of the seed. -/
structure BtcAccounts where
  masterFingerprint : Fingerprint
  accountXprivVanilla : Xpriv
  accountXprivColored : Xpriv
  vanillaCoinType : UInt32
  coloredCoinType : UInt32
  deriving DecidableEq

namespace BtcAccounts

variable (keys : BtcAccounts)

def deriveBtcChild (btc : PsbtCrate) (account : AccountType) (childPath : DerivationPath) :
    Result SecretKey :=
  let accountXpriv :=
    match account with
    | .vanilla => keys.accountXprivVanilla
    | .colored => keys.accountXprivColored
  (btc.derivePriv accountXpriv childPath).mapError fun e =>
    .invalidKey s!"child derivation failed: {e}"

def resolveAccountAndChildPath (fullPath : DerivationPath) :
    Option (AccountType × DerivationPath) :=
  match fullPath with
  | [purpose, coinType, account, keychain, index] =>
      if purpose ≠ .hardened 86 then none
      else if account ≠ .hardened 0 then none
      else if coinType = .hardened keys.vanillaCoinType then some (.vanilla, [keychain, index])
      else if coinType = .hardened keys.coloredCoinType then some (.colored, [keychain, index])
      else none
  | _ => none

end BtcAccounts

end EnclaveSigner.Bitcoin
