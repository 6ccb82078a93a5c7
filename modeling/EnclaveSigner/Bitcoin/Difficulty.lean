import EnclaveSigner.Bitcoin.Header

/-! # Difficulty arithmetic of the `bitcoin` crate

The compact form of a target and the work of a target, as the crate computes
them. `crateWith` completes them to a `Crate` around a given hash, for the
concrete chains on which a result is exercised.
-/

namespace EnclaveSigner.Bitcoin

open Lib

/-- `Target::from_compact`: a mantissa of three bytes and a base-256 exponent.
    A mantissa with the sign bit stands for the zero target. The shift wraps at the
    width of the target. -/
def fromCompact (bits : UInt32) : U256 :=
  let size := bits.toNat / 2 ^ 24
  let word := bits.toNat % 2 ^ 24
  let mantissa := if size ≤ 3 then word / 2 ^ (8 * (3 - size)) else word
  let shift := if size ≤ 3 then 0 else 8 * (size - 3)
  if mantissa > 0x7FFFFF then 0 else BitVec.ofNat 256 (mantissa * 2 ^ (shift % 256))

/-- `U256::inverse`: about `2 ^ 256 / (target + 1)`, with the inverse of zero and
    of one capped at the largest value. -/
def inverse (target : U256) : U256 :=
  if target.toNat ≤ 1 then BitVec.ofNat 256 (2 ^ 256 - 1)
  else if target.toNat = 2 ^ 256 - 1 then 1
  else BitVec.ofNat 256 ((2 ^ 256 - 1 - target.toNat) / (target.toNat + 1) + 1)

theorem inverse_pos (target : U256) : 0 < (inverse target).toNat := by
  unfold inverse
  split
  · decide
  · split
    · decide
    · rename_i large _
      have small : (2 ^ 256 - 1 - target.toNat) / (target.toNat + 1) + 1 < 2 ^ 256 := by
        have quotient := Nat.div_le_self (2 ^ 256 - 1 - target.toNat) (target.toNat + 1)
        omega
      rw [BitVec.toNat_ofNat, Nat.mod_eq_of_lt small]
      exact Nat.succ_pos _

/-- `Target::to_compact_lossy`: the three leading bytes, with one byte more of
    exponent where the leading bit would read as a sign. -/
def toCompactLossy (target : U256) : UInt32 :=
  let size := if target = 0 then 0 else (Nat.log2 target.toNat + 8) / 8
  let compact :=
    if size ≤ 3 then target.toNat * 2 ^ (8 * (3 - size)) else target.toNat / 2 ^ (8 * (size - 3))
  if compact / 2 ^ 23 % 2 = 1 then UInt32.ofNat (compact / 256 + (size + 1) * 2 ^ 24)
  else UInt32.ofNat (compact + size * 2 ^ 24)

/-- The parameters the crate ships for each network, around a given hash. No
    chain it is used for reaches a retarget. -/
def crateWith (sha256d : Bytes → Word 32) : Crate where
  sha256d
  target := fromCompact
  toWork := inverse
  toCompactLossy
  fromNextWorkRequired bits _ _ := bits
  decodeError raw :=
    if raw.length < 80 then "IO error"
    else "parse failed: data not consumed entirely when explicitly deserializing"
  mainnet := ⟨600, false, fromCompact 0x1d00ffff⟩
  signet := ⟨600, false, fromCompact 0x1e0377ae⟩
  testnet3 := ⟨600, true, fromCompact 0x1d00ffff⟩
  testnet4 := ⟨600, true, fromCompact 0x1d00ffff⟩
  regtest := ⟨600, true, fromCompact 0x207fffff⟩

end EnclaveSigner.Bitcoin
