import EnclaveSigner.Bitcoin.Header

/-! # Common types of the SPV module

The Bitcoin network decides which header rules apply. Only the mainnet and the
two testnets enforce proof of work. `SpvError.message` holds the texts that
reach the host.
-/

namespace EnclaveSigner.Spv

open Lib Bitcoin

abbrev BlockHeight := UInt32

abbrev BlockHash := Word 32

inductive Network where
  | mainnet
  | signet
  /-- The custom signet: the headers and checkpoint of `signet` under another
      RGB chain-network. -/
  | signetCustom
  | testnet3
  | testnet4
  | regtest
  deriving DecidableEq, Repr

namespace Network

def asBitcoinParams (btc : Crate) : Network → Params
  | mainnet => btc.mainnet
  | signet => btc.signet
  | signetCustom => btc.signet
  | testnet3 => btc.testnet3
  | testnet4 => btc.testnet4
  | regtest => btc.regtest

/-- The `nBits` rules apply. -/
def enforcesPow : Network → Bool
  | mainnet => true
  | testnet3 => true
  | testnet4 => true
  | _ => false

def allowsMinDifficulty (btc : Crate) (network : Network) : Bool :=
  network.enforcesPow && (network.asBitcoinParams btc).allowMinDifficultyBlocks

def bip94 : Network → Bool
  | testnet4 => true
  | _ => false

def chainNet : Network → String
  | mainnet => "bc"
  | signet => "sb"
  | signetCustom => "sbc"
  | testnet3 => "tb3"
  | testnet4 => "tb4"
  | regtest => "bcrt"

/-- The easiest target, in compact form. -/
def powLimitBits (btc : Crate) (network : Network) : UInt32 :=
  btc.toCompactLossy (network.asBitcoinParams btc).maxAttainableTarget

theorem enforcesPow_of_allowsMinDifficulty {btc : Crate} {network : Network}
    (allows : network.allowsMinDifficulty btc = true) : network.enforcesPow = true := by
  rw [allowsMinDifficulty, Bool.and_eq_true] at allows
  exact allows.1

end Network

def networkName : Network → String
  | .mainnet => "Mainnet"
  | .signet => "Signet"
  | .signetCustom => "SignetCustom"
  | .testnet3 => "Testnet3"
  | .testnet4 => "Testnet4"
  | .regtest => "Regtest"

inductive SpvError where
  | headerParse (index : Nat) (message : String)
  | chainLinkage (height : BlockHeight)
  | powFailed (height : BlockHeight)
  | bitsMismatch (height : BlockHeight) (got expected : UInt32)
  | nonContiguous (got tip : BlockHeight)
  | belowCheckpoint (got checkpoint : BlockHeight)
  | reorgTooDeep (depth max : BlockHeight)
  | weakerChain
  | batchTooLarge (len max : Nat)
  | chainTooLong (len max : Nat)
  | timewarp (height : BlockHeight) (time prevTime : UInt32)
  | timeTooNew (height : BlockHeight) (time : UInt32) (now : UInt64)
  | timeTooOld (height : BlockHeight) (time medianTimePast : UInt32)
  | headerNotFound (height : BlockHeight)
  deriving DecidableEq, Repr

/-- The text of an error, with `nBits` as `0x` and eight hexadecimal digits. -/
def SpvError.message : SpvError → String
  | headerParse index message => s!"header parse failed at index {index}: {message}"
  | chainLinkage height => s!"chain linkage broken at height {height}: prev_blockhash mismatch"
  | powFailed height => s!"header at height {height} fails PoW: hash > target"
  | bitsMismatch height got expected =>
      let got := hexEncode (natBe 4 got.toNat)
      let expected := hexEncode (natBe 4 expected.toNat)
      s!"nBits at height {height} mismatch: header has 0x{got}, expected 0x{expected}"
  | nonContiguous got tip => s!"batch start_height {got} leaves a gap above tip {tip}"
  | belowCheckpoint got checkpoint =>
      s!"batch start_height {got} is at or below checkpoint {checkpoint}; " ++
        "refusing to rewrite history below the trust anchor"
  | reorgTooDeep depth max =>
      s!"reorg depth {depth} exceeds maximum {max}; refusing to rewrite that far back"
  | weakerChain =>
      "alternative chain has weaker or equal cumulative work; rejecting reorg " ++
        "(this is normal - best chain wins)"
  | batchTooLarge len max =>
      s!"submitted batch has {len} headers, exceeding the per-call cap of {max}"
  | chainTooLong len max =>
      s!"accepting this batch would retain {len} headers, exceeding the total-retention " ++
        s!"cap of {max}; the compile-time checkpoint is too far below the tip and must be advanced"
  | timewarp height time prevTime =>
      s!"header at height {height} breaks the BIP94 timewarp rule: time {time} is more " ++
        s!"than 600s before its parent's {prevTime}"
  | timeTooNew height time now =>
      s!"header at height {height} has time {time}, more than 2h after the enclave clock {now}"
  | timeTooOld height time medianTimePast =>
      s!"header at height {height} has time {time}, at or before the median time past " ++
        s!"{medianTimePast} of the blocks below it"
  | headerNotFound height => s!"no header at height {height}"

/-- The pinned block that the chain starts from. -/
structure Checkpoint where
  height : BlockHeight
  hash : BlockHash
  bits : UInt32
  time : UInt32
  /-- Work of the chain up to this block, where it is known. -/
  chainWork : Option (Word 32)
  deriving DecidableEq

end EnclaveSigner.Spv
