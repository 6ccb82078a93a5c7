import EnclaveSigner.Bitcoin.Difficulty
import EnclaveSigner.Config
import EnclaveSigner.Rgb.UnownedValue

/-! # Known keys and PSBTs

The crate around tables of known values: the accounts of a seed of ones on
mainnet, some of their keys, and the PSBTs of the samples.
-/

namespace EnclaveSigner.Rgb

open Lib Bitcoin

structure KeyRow where
  account : AccountType
  childPath : DerivationPath
  secret : SecretKey
  xonly : XOnlyPublicKey
  outputKey : XOnlyPublicKey

def sampleAccounts : BtcAccounts where
  masterFingerprint := .ofNatBe 4 0x932f8b09
  accountXprivVanilla := ⟨
    .ofNatBe 32 0x4d5d298c22ff04a2719d4f9033522a34d33bb7a710eec3b11582232221538bea,
    .ofNatBe 32 0xc04315f1ebdf33b57060676dade107172c2456d1454c41ce52ad8e6a25c85dc8⟩
  accountXprivColored := ⟨
    .ofNatBe 32 0xbe33a565a3a752e6049962850002dd48e3f8e5da494f3f0b1adcf0321b73a709,
    .ofNatBe 32 0x4db5c75b93bc536422002397f3981cb5acd5c4081606a2d05d7372bd4dde3321⟩
  vanillaCoinType := 0
  coloredCoinType := 827166

def sampleKeyRows : List KeyRow := [
  ⟨.vanilla, [.normal 0, .normal 0],
    .ofNatBe 32 0xed6b21a3a84df5836566dce63d2cc0e3c10aec9381b291f32b0447318d4c83a5,
    .ofNatBe 32 0xc679075a866a558af01406ab1437aaa98ef929959a693c3b6cf5a72a7d3e93a0,
    .ofNatBe 32 0x07e534fa92cda5523fb84df6ec4326671a7c66a80815fe1414a7b4e42aa6bbce⟩,
  ⟨.vanilla, [.normal 1, .normal 0],
    .ofNatBe 32 0x79ccbea8c0806224d17b2324757514427ceec2cb8890c8d0e035ce10813859be,
    .ofNatBe 32 0x122cdcc18a856600f494374bd1f094868dabe8c6657ae230ec5c520e04673e33,
    .ofNatBe 32 0x6cb643996fb535172a46248a46d063bcf070f2cee3e41005b0308dcd476e4a0c⟩,
  ⟨.colored, [.normal 0, .normal 0],
    .ofNatBe 32 0x3422cf022567da6bbc043562e4118d65c7743b37d4110cb9e61cc4ea9fa73407,
    .ofNatBe 32 0xd162c6b84ca94769a7db86292f34e022f790bb131698f7c53bae64463b9615f6,
    .ofNatBe 32 0x23db39fae4ab0df8e8bdff98bd8ab07dc554d6a50ae1dae48335b518118f3e77⟩,
  ⟨.colored, [.normal 0, .normal 1],
    .ofNatBe 32 0xdf98b3e9543644f483597bfd321e78a43d99641b76d0d3e6509a75cc4b6e23d5,
    .ofNatBe 32 0x892d55a09f50aa03fda2486319c1f8e4620cd4924ff01491a5a4ac0af5bcf288,
    .ofNatBe 32 0xd731b488a1702140728a0da6b60e0dbedd9dca6d0e802453c55d09a00b91cf1d⟩,
  ⟨.colored, [.normal 0, .normal 2],
    .ofNatBe 32 0x40d1045e26f832aabb9f83beb0163232a1b948d9a7cd6acc05f921d0deb9ca73,
    .ofNatBe 32 0xdf375aa3a76044b4e714df70708e62bb0097c87abcb3d7ece584ce91404224a2,
    .ofNatBe 32 0xdc37171fbbc84566984e53ac4fcee174c9d2461f5a045f8393a1ef550695f100⟩,
  ⟨.colored, [.normal 0, .normal 3],
    .ofNatBe 32 0x32bc5efc12398a363e39a863f3533baa311f53245c5cc0deae6b974ea47a300c,
    .ofNatBe 32 0x2810a6401b08d61a37281afc43d85eff4fcc615f4afccca7f1ea39fba33c9b1d,
    .ofNatBe 32 0x462b11a5b665501f33f58e6692ec8c434ede09f71b67ebe27befc2d4bc41da2e⟩]

def feeOf (psbt : Psbt) : Except String UInt64 :=
  if outputSats psbt ≤ inputSats psbt ∧ inputSats psbt < 2 ^ 64 then
    .ok (.ofNat (inputSats psbt - outputSats psbt))
  else .error "negative fee"

/-- The crate around the sample keys and the PSBTs that some bytes decode to. -/
def psbtCrateWith (sha256d : Bytes → Word 32) (psbts : List (Bytes × Psbt)) : PsbtCrate where
  toCrate := crateWith sha256d
  deserialize bytes := (psbts.lookup bytes).elim (.error "invalid magic") .ok
  serialize psbt := ((psbts.find? (·.2 = psbt)).map Prod.fst).getD []
  fee := feeOf
  iterFundingUtxos psbt := psbt.inputs.map fun input =>
    okOr "missing UTXO" input.witnessUtxo
  derivePriv xpriv path :=
    let account := if xpriv = sampleAccounts.accountXprivColored then .colored else .vanilla
    okOr "unknown path" ((sampleKeyRows.find? fun row =>
      row.account = account ∧ row.childPath = path).map (·.secret))
  xOnlyOfSecret secret :=
    ((sampleKeyRows.find? (·.secret = secret)).map (·.xonly)).getD (.zero 32)
  isXOnly _ := true
  isPublicKey _ := true
  tapTweak key root :=
    ((sampleKeyRows.find? fun row => row.xonly = key ∧ root = none).map (·.outputKey)).getD
      (.zero 32)
  taprootKeySpendSignatureHash tx index prevouts _ :=
    if prevouts.length = tx.input.val.length ∧ index < prevouts.length then .ok (.zero 32)
    else .error "prevouts size"
  tapTweakSecret secret _ := secret
  signSchnorrNoAuxRand _ _ := .zero 64
  verifyTaprootCommitment _ _ _ := false
  sha256 _ := .zero 32
  ratioText _ _ := ""

theorem psbtCrateWith_feeExact (sha256d : Bytes → Word 32) (psbts : List (Bytes × Psbt)) :
    FeeExact (psbtCrateWith sha256d psbts) := by
  intro psbt fee read _
  change feeOf psbt = .ok fee at read
  unfold feeOf at read
  split at read
  · rename_i bounds
    cases read
    have value : (UInt64.ofNat (inputSats psbt - outputSats psbt)).toNat
        = inputSats psbt - outputSats psbt := toNat_ofNat64 (by omega)
    omega
  · cases read

structure SigningTables where
  hashes : List ((Transaction × Nat × List TxOut × UInt8) × Word 32)
  /-- The tweaked secrets of keys without a script tree. -/
  tweaks : List (SecretKey × SecretKey)
  signatures : List ((Word 32 × SecretKey) × Word 64)

def signingCrateWith (psbts : List (Bytes × Psbt)) (tables : SigningTables) : PsbtCrate :=
  { psbtCrateWith (fun _ => .zero 32) psbts with
    taprootKeySpendSignatureHash := fun tx index prevouts sighashType =>
      if prevouts.length = tx.input.val.length ∧ index < prevouts.length then
        .ok ((tables.hashes.lookup (tx, index, prevouts, sighashType)).getD (.zero 32))
      else .error "prevouts size"
    tapTweakSecret := fun secret _ => (tables.tweaks.lookup secret).getD secret
    signSchnorrNoAuxRand := fun sighash secret =>
      (tables.signatures.lookup (sighash, secret)).getD (.zero 64) }

theorem derivePriv_row {psbts : List (Bytes × Psbt)} {tables : SigningTables} {account : AccountType}
    {childPath : DerivationPath} {secret : SecretKey}
    (derived : sampleAccounts.deriveBtcChild (signingCrateWith psbts tables) account childPath
      = .ok secret) : ∃ row ∈ sampleKeyRows, row.account = account ∧ row.secret = secret := by
  have apart : sampleAccounts.accountXprivVanilla ≠ sampleAccounts.accountXprivColored := by
    decide
  simp only [BtcAccounts.deriveBtcChild, mapError_ok] at derived
  change okOr _ (Option.map _ (List.find? _ _)) = _ at derived
  rw [okOr_ok, Option.map_eq_some_iff] at derived
  obtain ⟨row, found, same⟩ := derived
  refine ⟨row, List.mem_of_find?_eq_some found, ?_, same⟩
  have matched := List.find?_some found
  rw [decide_eq_true_eq] at matched
  rw [matched.1]
  cases account with
  | vanilla => exact if_neg apart
  | colored => exact if_pos rfl

def sampleOrigin (account : AccountType) (childPath : DerivationPath) : TapKeyOrigin :=
  let coinType :=
    match account with
    | .vanilla => sampleAccounts.vanillaCoinType
    | .colored => sampleAccounts.coloredCoinType
  ⟨[], sampleAccounts.masterFingerprint,
    [.hardened 86, .hardened coinType, .hardened 0] ++ childPath⟩

def ownInput (row : KeyRow) (value : UInt64) : PsbtInput where
  witnessUtxo := some ⟨value, newP2trTweaked row.outputKey⟩
  tapKeyOrigins := [(row.xonly, sampleOrigin row.account row.childPath)]
  tapInternalKey := some row.xonly

def ownOutput (row : KeyRow) : PsbtOutput where
  tapKeyOrigins := [(row.xonly, sampleOrigin row.account row.childPath)]
  tapInternalKey := some row.xonly

def sampleWpkh (byte : UInt8) : Sized UInt8 :=
  ⟨0x00 :: 0x14 :: List.replicate 20 byte, by simp⟩

def vanillaRow (index : Fin 2) : KeyRow :=
  sampleKeyRows.get ⟨index.val, Nat.lt_of_lt_of_le index.isLt (by decide)⟩

def coloredRow (index : Nat) : KeyRow := sampleKeyRows.get (Fin.ofNat 6 (index + 2))

def ownTxOut (row : KeyRow) (value : UInt64) : TxOut := ⟨value, newP2trTweaked row.outputKey⟩

def opretOut (commitment : Word 32) : TxOut := ⟨0, pushScript 0x6a commitment⟩

def sampleMintConfig : BridgeConfig := { rgbAssetId := "rgb:sample" }

/-- A mint that spends the output of the first coloured key, pays 1500 sats to its
    recipient and keeps the rest. -/
def sampleMintPsbt (spent : Word 32) (commitment : Word 32) : Psbt where
  unsignedTx := {
    version := 2
    input := ⟨[⟨spent, 1, emptyScript, 0xffffffff⟩], by simp⟩
    output := ⟨[opretOut commitment, ⟨1500, sampleWpkh 0x99⟩, ownTxOut (coloredRow 1) 8000],
      by simp⟩
    lockTime := 0 }
  inputs := [ownInput (coloredRow 0) 10000]
  outputs := [{}, {}, ownOutput (coloredRow 1)]

def sampleRefillPsbt (spent : Word 32) (commitment : Word 32) : Psbt where
  unsignedTx := {
    version := 2
    input := ⟨[⟨spent, 1, emptyScript, 0xffffffff⟩, ⟨.fill 32 0x44, 0, emptyScript, 0xffffffff⟩],
      by simp⟩
    output := ⟨[opretOut commitment, ownTxOut (coloredRow 2) 7000, ownTxOut (coloredRow 3) 7500],
      by simp⟩
    lockTime := 0 }
  inputs := [ownInput (coloredRow 0) 10000, ownInput (coloredRow 1) 5000]
  outputs := [{}, ownOutput (coloredRow 2), ownOutput (coloredRow 3)]

end EnclaveSigner.Rgb
