import EnclaveSigner.Error
import EnclaveSigner.Lib.Bytes
import EnclaveSigner.Lib.Checks

/-! # Keys in memory -/

namespace EnclaveSigner

open Lib

abbrev Seed := Word 64

abbrev EvmAddress := Word 20

/-- The derivation of the EVM address of a seed: BIP-32, secp256k1 and
    Keccak-256. It may fail. The network of a launch does not enter here. -/
abbrev KeyDerivation := Seed → Result EvmAddress

/-- The keys of one seed. The other derived keys are left out. -/
structure KeyManager where
  seed : Seed
  evmAddress : EvmAddress
  deriving DecidableEq

def KeyManager.fromSeed (derive : KeyDerivation) (seed : Seed) : Result KeyManager := do
  let evmAddress ← derive seed
  pure ⟨seed, evmAddress⟩

theorem KeyManager.fromSeed_ok {derive : KeyDerivation} {seed : Seed} {keys : KeyManager} :
    fromSeed derive seed = .ok keys ↔
      keys.seed = seed ∧ derive seed = .ok keys.evmAddress := by
  obtain ⟨seed', evmAddress⟩ := keys
  rw [fromSeed, bind_ok]
  constructor
  · rintro ⟨_, derived, ⟨⟩⟩
    exact ⟨rfl, derived⟩
  · rintro ⟨⟨⟩, derived⟩
    exact ⟨evmAddress, derived, rfl⟩

/-- The public keys of a seed, next to its EVM address. The network decides the
    accounts and their text forms. -/
structure DerivedKeys where
  evmUncompressedPub : Word 64
  evmGasTxAddress : Word 20
  evmGasTxUncompressedPub : Word 64
  btcCompressedPubkey : Word 33
  btcXpub : String
  masterFingerprint : Word 4
  accountXpubVanilla : String
  accountXpubColored : String
  ccdEd25519Pub : Word 32
  deriving DecidableEq

/-- The public keys of the enclave. -/
structure KeyInfo extends DerivedKeys where
  evmAddress : EvmAddress
  deriving DecidableEq

/-- The public bundle of some keys. `derived` is the derivation of the other keys
    of a seed. -/
def KeyManager.keyInfo (derived : Seed → DerivedKeys) (keys : KeyManager) : KeyInfo :=
  { derived keys.seed with evmAddress := keys.evmAddress }

def sampleDerivedKeys : DerivedKeys where
  evmUncompressedPub := .ofNatBe 64
    0xbd8916f5e2f86df549347ed6fdc2a9d25dcbdb38dc23ff3cd0efa9789dc8ab2f9e1855fa3704455f1d6a624a9d1fa88f35228998a0a3a6274692fe1edbbc8c77
  evmGasTxAddress := .ofNatBe 20 0x7c7bb738f04b34db03500875a1f1a7627c3f96bc
  evmGasTxUncompressedPub := .ofNatBe 64
    0xeb8ea2431cdd12038df22c8ee7b3bcf7dbda6a78ab756434b8af4b6a67863e7c0045b8200ae4f575c8471b66047842d5ad911f169dec06461d4228ab5e7e29f1
  btcCompressedPubkey := .ofNatBe 33
    0x030e8946ed88a88cbe924b3ad58c288baaae32c4e4c837b5a0b935f97b5844927c
  btcXpub := "xpub6Fp4S7w2TZGk33vyvgRHs5VfNTvTTukSphQqL3QKs9ufL88BGw7FDrSSMncz1uQb2h8Fv69xH1xZFxAmj" ++
    "Ya4RijZx8yHX7yZDSXMrGfG58A"
  masterFingerprint := .ofNatBe 4 0x932f8b09
  accountXpubVanilla := "xpub6Bzw9ahKVzitknHwqatxxdHDDANA7bYMkU4jHzQzuWsSxZ4jXzuRugrCdD3QqAAZwn2" ++
    "WwYUNFBGFiHoEXV1xu23BsZJ2EgS6p52JYzVPpiz"
  accountXpubColored := "xpub6D5tyDHFtnxZ9zXBJk93667UNLoAazPhx4doBX3FVWuqgTNtyr5sHR7k2AZLtVJVB3C" ++
    "pHZzDfjoL7ow19GXtmX15Zknp7nQeQ8ZPZkmFuVj"
  ccdEd25519Pub := .ofNatBe 32
    0x48d9ba4c239f87c4888c5ed4bbeeecf6097cc159e4f3e6225d98a9aae23187d8

def sampleKeyManager : KeyManager :=
  ⟨.fill 64 1, .ofNatBe 20 0xb0acc6da31231890c315d8288db5224ca441cc8f⟩

end EnclaveSigner
