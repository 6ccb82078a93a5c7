import EnclaveSigner.Config

/-! # Release calldata

The two calls that release funds, with the fields in their ABI order. Decoding
and encoding are `alloy`'s: `Evm` is what the enclave takes from there and from
the hash crate. Integers and addresses enter a hash as 32-byte words.
-/

namespace EnclaveSigner.Evm

open Lib

abbrev U256 := Bitcoin.U256

def HASH_LEN : Nat := 32

def ADDRESS_LEN : Nat := 20

def RGB_CHAIN_ID : UInt64 := 827166

structure FundsOutParams where
  recipient : Address
  amount : U256
  burnId : U256
  sourceChainId : U256
  destinationChainId : U256
  sourceAddress : String
  proof : Bytes
  settlementData : Bytes
  sourceBurnTxId : Word 32
  deriving DecidableEq

structure LzFundsOutCall where
  amount : U256
  burnId : U256
  sourceChainId : U256
  destinationChainId : U256
  sourceAddress : String
  proof : Bytes
  settlementData : Bytes
  dstEid : UInt32
  recipient : Word 32
  minAmountLD : U256
  extraOptions : Bytes
  sourceBurnTxId : Word 32
  deriving DecidableEq

/-- The functions of `alloy` and of the hash crate that the enclave calls. A
    decoder takes the whole calldata, selector included. -/
structure Codec where
  keccak : Bytes → Word 32
  decodeFundsOut : Bytes → Except String FundsOutParams
  encodeFundsOut : FundsOutParams → Bytes
  decodeLzFundsOut : Bytes → Except String LzFundsOutCall
  encodeLzFundsOut : LzFundsOutCall → Bytes
  decodeSettlement : Bytes → Except String (List (Word 32))
  encodeSettlement : List (Word 32) → Bytes

def u256OfU64 (value : UInt64) : U256 := BitVec.ofNat 256 value.toNat

def u64OfU256 (value : U256) : Option UInt64 :=
  if value.toNat < 2 ^ 64 then some (UInt64.ofNat value.toNat) else none

def u256Be (value : U256) : Word 32 := .ofNatBe 32 value.toNat

def u256OfBe (word : Word 32) : U256 := BitVec.ofNat 256 (ofBe word.val)

def abiEncodeU256 (value : UInt64) : Word 32 := .ofNatBe 32 value.toNat

def abiEncodeU32 (value : UInt32) : Word 32 := .ofNatBe 32 value.toNat

def leftPad (n : Nat) (bytes : Bytes) : Bytes := List.replicate (n - bytes.length) 0 ++ bytes

def leftPadWord (bytes : Bytes) : Word 32 :=
  ⟨leftPad 32 (bytes.take 32), by
    rw [leftPad, List.length_append, List.length_replicate, List.length_take]
    omega⟩

def abiEncodeAddress (address : Address) : Word 32 :=
  ⟨leftPad 32 address.val, by
    rw [leftPad, List.length_append, List.length_replicate, address.property]⟩

def hexNat (value : Nat) : String := "0x" ++ String.ofList (Nat.toDigits 16 value)

theorem u256OfBe_injective : Function.Injective u256OfBe := by
  intro a b same
  have value := congrArg BitVec.toNat same
  have small : ∀ word : Word 32, ofBe word.val < 2 ^ 256 := by
    intro word
    have bound := ofBe_lt word.val
    rw [word.property] at bound
    exact bound
  simp only [u256OfBe, BitVec.toNat_ofNat, Nat.mod_eq_of_lt (small a),
    Nat.mod_eq_of_lt (small b)] at value
  exact Subtype.ext (ofBe_inj (a.property.trans b.property.symm) value)

theorem u256Be_injective : Function.Injective u256Be := by
  intro a b same
  exact BitVec.eq_of_toNat_eq (natBe_inj a.isLt b.isLt (congrArg Subtype.val same))

theorem abiEncodeU256_injective : Function.Injective abiEncodeU256 := by
  intro a b same
  have small : ∀ value : UInt64, value.toNat < 256 ^ 32 := by
    intro value
    exact value.toNat_lt.trans_le (by norm_num)
  exact UInt64.toNat_inj.mp (natBe_inj (small a) (small b) (congrArg Subtype.val same))

theorem abiEncodeU32_injective : Function.Injective abiEncodeU32 := by
  intro a b same
  have small : ∀ value : UInt32, value.toNat < 256 ^ 32 := by
    intro value
    exact value.toNat_lt.trans_le (by norm_num)
  exact UInt32.toNat_inj.mp (natBe_inj (small a) (small b) (congrArg Subtype.val same))

theorem u64OfU256_eq_some {value : U256} {n : UInt64} :
    u64OfU256 value = some n ↔ value = u256OfU64 n := by
  unfold u64OfU256 u256OfU64
  have fits : n.toNat < 2 ^ 256 := n.toNat_lt.trans_le (by norm_num)
  split
  · rename_i small
    rw [Option.some.injEq, ← UInt64.toNat_inj, UInt64.toNat_ofNat', Nat.mod_eq_of_lt small]
    constructor
    · intro same
      exact BitVec.eq_of_toNat_eq (by rw [BitVec.toNat_ofNat, Nat.mod_eq_of_lt fits, same])
    · rintro rfl
      rw [BitVec.toNat_ofNat, Nat.mod_eq_of_lt fits]
  · rename_i large
    constructor
    · intro impossible; cases impossible
    · rintro rfl
      exact absurd n.toNat_lt (by rwa [BitVec.toNat_ofNat, Nat.mod_eq_of_lt fits] at large)

end EnclaveSigner.Evm
