import Mathlib.Data.List.Sort
import EnclaveSigner.Lib.Checks
import EnclaveSigner.Lib.MachineInt
import EnclaveSigner.Spv.Types

/-! # Per-header validation

These checks hold no chain state. What a rule reads from the chain below the
header comes in as an argument, so each rule can be evaluated again later on
whatever prefix the header then stands on.
-/

namespace EnclaveSigner.Spv

open Lib Bitcoin

def RETARGET_INTERVAL : BlockHeight := 2016

def MAX_TIMEWARP_SECS : UInt32 := 600

def MAX_FUTURE_BLOCK_TIME_SECS : UInt64 := 2 * 60 * 60

def MEDIAN_TIME_SPAN : Nat := 11

def isRetargetHeight (height : BlockHeight) : Bool := height % RETARGET_INTERVAL == 0

def checkLinkage (header : Header) (expectedPrevHash : BlockHash) (height : BlockHeight) :
    Except SpvError Unit :=
  refuse (header.prevBlockhash ≠ expectedPrevHash) (.chainLinkage height)

def checkPow (btc : Crate) (header : Header) (height : BlockHeight) (network : Network) :
    Except SpvError Unit :=
  if network.enforcesPow then
    refuse (header.validatePow btc (header.target btc) = false) (.powFailed height)
  else pure ()

/-- What the `nBits` rule of a header reads from the chain below it. The fields
    the rule does not look up stay zero. -/
structure BitsInput where
  height : BlockHeight := 0
  headerTime : UInt32 := 0
  prevBits : UInt32 := 0
  prevTime : UInt32 := 0
  periodBits : UInt32 := 0
  epochFirstBits : UInt32 := 0
  epochFirstTime : UInt32 := 0

/-- The required `nBits`, or `none` on a network that does not check them. -/
def expectedBits (btc : Crate) (input : BitsInput) (network : Network) : Option UInt32 :=
  if !network.enforcesPow then none
  else
    let params := network.asBitcoinParams btc
    if !isRetargetHeight input.height then
      if !network.allowsMinDifficulty btc then some input.prevBits
      else
        let minDifficultyAfter := input.prevTime.toUInt64 + 2 * params.powTargetSpacing
        if input.headerTime.toUInt64 > minDifficultyAfter then some (network.powLimitBits btc)
        else some input.periodBits
    else
      -- BIP94 retargets from the period's first block, which cannot be a
      -- minimum-difficulty block.
      let base := if network.bip94 then input.epochFirstBits else input.prevBits
      let actualTimespan := (satSub32 input.prevTime input.epochFirstTime).toUInt64
      some (btc.fromNextWorkRequired base actualTimespan params)

/-- BIP94: a period's first block is not much older than its parent. -/
def checkTimewarp (height : BlockHeight) (time prevTime : UInt32) (network : Network) :
    Except SpvError Unit :=
  if !network.bip94 || !isRetargetHeight height then pure ()
  else
    refuse (time.toUInt64 + MAX_TIMEWARP_SECS.toUInt64 < prevTime.toUInt64)
      (.timewarp height time prevTime)

def checkFutureTime (height : BlockHeight) (time : UInt32) (nowUnix : UInt64) :
    Except SpvError Unit :=
  refuse (time.toUInt64 > satAdd64 nowUnix MAX_FUTURE_BLOCK_TIME_SECS)
    (.timeTooNew height time nowUnix)

/-- The middle value of the sorted times. The window is never empty. -/
def medianTimePast (times : List UInt32) : UInt32 :=
  (times.insertionSort (· ≤ ·)).getD (times.length / 2) 0

/-- The header is newer than the median time past, where there is one. -/
def checkTimeTooOld (height : BlockHeight) (time : UInt32) :
    Option UInt32 → Except SpvError Unit
  | some medianTimePast => refuse (time ≤ medianTimePast) (.timeTooOld height time medianTimePast)
  | none => pure ()

def checkBits (height : BlockHeight) (got : UInt32) : Option UInt32 → Except SpvError Unit
  | some expected => refuse (got ≠ expected) (.bitsMismatch height got expected)
  | none => pure ()

structure Predecessor where
  hash : BlockHash
  time : UInt32

def validateHeaderFull (btc : Crate) (header : Header) (height : BlockHeight)
    (prev : Predecessor) (medianTimePast expectedBitsValue : Option UInt32)
    (network : Network) (nowUnix : UInt64) : Except SpvError Unit := do
  checkLinkage header prev.hash height
  checkTimewarp height header.time prev.time network
  checkFutureTime height header.time nowUnix
  checkTimeTooOld height header.time medianTimePast
  checkBits height header.bits expectedBitsValue
  checkPow btc header height network

theorem retargetOffset_toNat (height : BlockHeight) :
    (height % RETARGET_INTERVAL).toNat = height.toNat % 2016 := by
  rw [UInt32.toNat_mod]
  rfl

theorem isRetargetHeight_iff {height : BlockHeight} :
    isRetargetHeight height = true ↔ height.toNat % 2016 = 0 := by
  rw [isRetargetHeight, beq_iff_eq, ← UInt32.toNat_inj, retargetOffset_toNat]
  rfl

theorem periodStart_toNat (height : BlockHeight) :
    (height - height % RETARGET_INTERVAL).toNat = height.toNat - height.toNat % 2016 := by
  have offset := retargetOffset_toNat height
  rw [toNat_sub32 (by rw [offset]; exact Nat.mod_le _ _), offset]

theorem periodStart_lt {height : BlockHeight} (inside : isRetargetHeight height = false) :
    height - height % RETARGET_INTERVAL < height := by
  have positive : height.toNat % 2016 ≠ 0 := by
    intro boundary
    rw [isRetargetHeight_iff.mpr boundary] at inside
    cases inside
  have atMost := Nat.mod_le height.toNat 2016
  rw [UInt32.lt_iff_toNat_lt, periodStart_toNat]
  omega

theorem checkLinkage_ok {header : Header} {hash : BlockHash} {height : BlockHeight} :
    checkLinkage header hash height = .ok () ↔ header.prevBlockhash = hash := by
  rw [checkLinkage, refuse_ok, not_not]

theorem checkBits_some_ok {height : BlockHeight} {got expected : UInt32} :
    checkBits height got (some expected) = .ok () ↔ got = expected := by
  rw [checkBits, refuse_ok, not_not]

theorem validateHeaderFull_ok {btc : Crate} {header : Header} {height : BlockHeight}
    {prev : Predecessor} {median bits : Option UInt32} {network : Network} {now : UInt64} :
    validateHeaderFull btc header height prev median bits network now = .ok () ↔
      checkLinkage header prev.hash height = .ok () ∧
      checkTimewarp height header.time prev.time network = .ok () ∧
      checkFutureTime height header.time now = .ok () ∧
      checkTimeTooOld height header.time median = .ok () ∧
      checkBits height header.bits bits = .ok () ∧
      checkPow btc header height network = .ok () := by
  simp only [validateHeaderFull, bind_ok]
  constructor
  · rintro ⟨_, linkage, _, timewarp, _, future, _, old, _, bits, pow⟩
    exact ⟨linkage, timewarp, future, old, bits, pow⟩
  · rintro ⟨linkage, timewarp, future, old, bits, pow⟩
    exact ⟨(), linkage, (), timewarp, (), future, (), old, (), bits, pow⟩

end EnclaveSigner.Spv
