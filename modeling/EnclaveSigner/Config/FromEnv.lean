import EnclaveSigner.Config

/-! # Configuration from the environment

The image carries its configuration in environment variables. Most values that
do not parse count as unset. The others stop the boot, with a panic.
-/

namespace EnclaveSigner

open Lib

def isWhitespace (c : Char) : Bool :=
  let n := c.toNat
  9 ≤ n && n ≤ 13 || 0x2000 ≤ n && n ≤ 0x200A ||
    [0x20, 0x85, 0xA0, 0x1680, 0x2028, 0x2029, 0x202F, 0x205F, 0x3000].contains n

def trim (text : String) : String :=
  let front := text.toList.dropWhile isWhitespace
  String.ofList (front.reverse.dropWhile isWhitespace).reverse

/-- A number below `bound`, as `str::parse` reads an unsigned integer: digits, with
    or without a plus in front. -/
def parseUnsigned (bound : Nat) (text : String) : Option Nat := do
  let digits := match text.toList with
    | '+' :: rest => rest
    | all => all
  if digits.isEmpty || !digits.all Char.isDigit then none
  let value := digits.foldl (fun value c => 10 * value + (c.toNat - '0'.toNat)) 0
  if value < bound then some value else none

def parseU32 (text : String) : Option UInt32 := (parseUnsigned (2 ^ 32) text).map UInt32.ofNat

def parseU64 (text : String) : Option UInt64 := (parseUnsigned (2 ^ 64) text).map UInt64.ofNat

def parseU128 (text : String) : Option (BitVec 128) :=
  (parseUnsigned (2 ^ 128) text).map (BitVec.ofNat 128)

def parseUsize (text : String) : Option Nat := parseUnsigned (2 ^ 64) text

/-- The bytes of a hexadecimal text, with or without `0x`. -/
def decodePrefixedHex (text : String) : Option Bytes :=
  hexDecode (match text.toList with
    | '0' :: 'x' :: rest => String.ofList rest
    | _ => text)

def parseEthAddress (text : String) : Option Address :=
  (decodePrefixedHex text).bind (Word.ofBytes? 20)

def commaSeparated (text : String) : List String :=
  let parts := (text.toList.splitOn ',').map fun part => trim (String.ofList part)
  parts.filter (· ≠ "")

def parseSelectors (text : String) : List (Word 4) :=
  (commaSeparated text).filterMap fun part =>
    (decodePrefixedHex part).bind (Word.ofBytes? 4)

def SPV_MIN_CONFIRMATIONS_ENV : String := "SPV_MIN_CONFIRMATIONS"

def MINT_WITNESS_SAT_ENV : String := "MINT_WITNESS_SAT"

def MIN_MINT_WITNESS_SAT : UInt64 := 546

def MAX_MINT_WITNESS_SAT : UInt64 := 10000

def KMS_ALLOWED_ACCOUNTS_ENV : String := "KMS_ALLOWED_ACCOUNT_IDS"

inductive VarError where
  | notPresent
  | notUnicode
  deriving DecidableEq

def EvmFinalityTag.fromStr (value : String) : Except String EvmFinalityTag :=
  if value = "latest" then .ok .latest
  else if value = "safe" then .ok .safe
  else if value = "finalized" then .ok .finalized
  else .error (s!"invalid EVM finality tag {debugQuote value}; expected latest, safe or finalized")

def parseEvmFinalityTag : Except VarError String → Except String EvmFinalityTag
  | .ok value => EvmFinalityTag.fromStr value
  | .error .notPresent => .ok .finalized
  | .error .notUnicode => .error "value must be valid Unicode"

def BtcRelayMode.fromEnvValue (value : Option String) : BtcRelayMode :=
  if value.map (fun text => (trim text).toLower) = some "none" then .none else .required

def networkFromEnvStr (text : String) : Except String Attestation.BitcoinNetwork :=
  if text = "bitcoin" ∨ text = "mainnet" then .ok .mainnet
  else if text = "signet" then .ok .signet
  else if text = "signetcustom" then .ok .signetCustom
  else if text = "testnet" ∨ text = "testnet3" then .ok .testnet3
  else if text = "testnet4" then .ok .testnet4
  else if text = "regtest" then .ok .regtest
  else .error "unknown network"

/-- Unset, unparseable or zero gives the default. -/
def parseCap (value : Option String) (default : Nat) : Nat :=
  ((value.bind parseUsize).filter (0 < ·)).getD default

def parseConsignmentLimit (value : Option String) : Except String Nat :=
  match (value.bind parseUsize).filter (0 < ·) with
  | none => .ok DEFAULT_MAX_CONSIGNMENT_BYTES
  | some n =>
      if n ≤ DEFAULT_MAX_CONSIGNMENT_BYTES then .ok n
      else .error (s!"MAX_CONSIGNMENT_BYTES {n} is above {DEFAULT_MAX_CONSIGNMENT_BYTES}, the " ++
        "largest consignment the request memory model allows (memory.rs); set a smaller value " ++
        "or leave it unset")

/-- A setting that is the default when it is unset or blank and stops the boot when
    it does not parse. -/
def parseSetting {α : Type} (value : Option String) (default : α) (parse : String → Option α)
    (invalid : String → String) : Except String α :=
  match (value.map trim).filter (· ≠ "") with
  | none => .ok default
  | some raw => okOr (invalid raw) (parse raw)

def parseSpvMinConfirmations (value : Option String) : Except String UInt32 :=
  parseSetting value DEFAULT_SPV_MIN_CONFIRMATIONS (fun raw => (parseU32 raw).filter (1 ≤ ·))
    fun raw => s!"{SPV_MIN_CONFIRMATIONS_ENV} {debugQuote raw} is not valid: set a whole number " ++
      s!"of at least 1, or leave it unset for {DEFAULT_SPV_MIN_CONFIRMATIONS}"

def parseMintWitnessSat (value : Option String) : Except String UInt64 :=
  parseSetting value DEFAULT_MINT_WITNESS_SAT
    (fun raw => (parseU64 raw).filter fun n => MIN_MINT_WITNESS_SAT ≤ n ∧ n ≤ MAX_MINT_WITNESS_SAT)
    fun raw => s!"{MINT_WITNESS_SAT_ENV} {debugQuote raw} is not valid: set a whole number of " ++
      s!"sats from {MIN_MINT_WITNESS_SAT} to {MAX_MINT_WITNESS_SAT}, or leave it unset for " ++
      s!"{DEFAULT_MINT_WITNESS_SAT}"

def parseEndpointsSha256 (value : Option String) : Except String (Option (Word 32)) :=
  match value.filter (· ≠ "") with
  | none => .ok none
  | some value =>
      okOr "ENDPOINTS_SHA256 must be exactly 64 hex characters"
        (((hexDecode value).bind (Word.ofBytes? 32)).map some)

def parseKmsAllowedAccounts (value : Option String) : Except String (List String) :=
  let ids := commaSeparated (value.getD "")
  if ids.all fun id => id.toList.length = 12 && id.toList.all Char.isDigit then .ok ids
  else .error s!"{KMS_ALLOWED_ACCOUNTS_ENV} must list 12-digit AWS account ids"

/-- The environment of a process. `execve` takes no string of more than 32 pages. -/
structure Env where
  var : String → Except VarError String
  short : ∀ name value, var name = .ok value → (utf8 value).length < 2 ^ 21

def Env.ofVars (vars : List (String × String))
    (short : ∀ entry ∈ vars, (utf8 entry.2).length < 2 ^ 21) : Env where
  var name := match vars.find? (·.1 = name) with
    | some entry => .ok entry.2
    | none => .error .notPresent
  short name value set := by
    split at set
    · rename_i entry found
      cases set
      exact short _ (List.mem_of_find?_eq_some found)
    · cases set

/-- The value of a variable that is set and is Unicode. -/
def Env.get? (env : Env) (name : String) : Option String := (env.var name).toOption

/-- The error is the panic that stops the boot. -/
def BridgeConfig.fromEnv (env : Env) : Except String BridgeConfig := do
  let chainId := ((env.get? "EVM_CHAIN_ID").bind parseU64).getD 0
  let bridgeContract :=
    ((env.get? "EVM_PROXY_CONTRACT_ADDRESS").bind parseEthAddress).getD (Word.zero 20)
  let rgbAssetId := (env.get? "RGB_ASSET_ID").getD ""
  let gasTxAllowedTo := (env.get? "GAS_TX_ALLOWED_TO").bind parseEthAddress
  let gasTxMaxGasLimit := ((env.get? "GAS_TX_MAX_GAS_LIMIT").bind parseU64).getD 0
  let gasTxMaxFeePerGas := ((env.get? "GAS_TX_MAX_FEE_PER_GAS").bind parseU128).getD 0
  let gasTxAllowedSelectors := ((env.get? "GAS_TX_ALLOWED_SELECTORS").map parseSelectors).getD []
  let gasTxMaxValueWei := (env.get? "GAS_TX_MAX_VALUE_WEI").bind fun s => parseU128 (trim s)
  let btcMaxTotalSats := ((env.get? "BTC_MAX_TOTAL_SATS").bind parseU64).getD 0
  let btcMaxUnownedSats := ((env.get? "BTC_MAX_UNOWNED_SATS").bind parseU64).getD 0
  let fundsInContract :=
    ((env.get? "FUNDS_IN_CONTRACT").bind parseEthAddress).getD bridgeContract
  let evmFinalityTag ← (parseEvmFinalityTag (env.var "EVM_FINALITY_TAG")).mapError fun e =>
    s!"EVM_FINALITY_TAG must be latest, safe, or finalized: {debugQuote e}"
  let tokenContract := ((env.get? "TOKEN_CONTRACT").bind parseEthAddress).getD (Word.zero 20)
  let btcRelayMode := BtcRelayMode.fromEnvValue (env.get? BTC_RELAY_MODE_ENV)
  let bitcoinNetwork ← (networkFromEnvStr ((env.get? "BITCOIN_NETWORK").getD "bitcoin")).mapError
    fun e => s!"BITCOIN_NETWORK must be a known network: {debugQuote e}"
  let maxConsignmentBytes ← parseConsignmentLimit (env.get? "MAX_CONSIGNMENT_BYTES")
  let maxMerkleProofs := parseCap (env.get? "MAX_MERKLE_PROOFS") DEFAULT_MAX_MERKLE_PROOFS
  let maxTotalProofBytes :=
    parseCap (env.get? "MAX_TOTAL_PROOF_BYTES") DEFAULT_MAX_TOTAL_PROOF_BYTES
  let spvMinConfirmations ← parseSpvMinConfirmations (env.get? SPV_MIN_CONFIRMATIONS_ENV)
  let mintWitnessSat ← parseMintWitnessSat (env.get? MINT_WITNESS_SAT_ENV)
  let endpointsSha256 ← parseEndpointsSha256 (env.get? "ENDPOINTS_SHA256")
  let kmsAllowedAccounts ← parseKmsAllowedAccounts (env.get? KMS_ALLOWED_ACCOUNTS_ENV)
  pure {
    chainId, bridgeContract, rgbAssetId, gasTxAllowedTo, gasTxMaxGasLimit, gasTxMaxFeePerGas
    gasTxAllowedSelectors, gasTxMaxValueWei, btcMaxTotalSats, btcMaxUnownedSats, fundsInContract
    evmFinalityTag, tokenContract, bitcoinNetwork, btcRelayMode, maxConsignmentBytes
    maxMerkleProofs, maxTotalProofBytes, spvMinConfirmations, mintWitnessSat, endpointsSha256
    kmsAllowedAccounts }

section Trim

theorem isWhitespace_of_graphic {c : Char} (low : 0x21 ≤ c.toNat) (high : c.toNat ≤ 0x7E) :
    isWhitespace c = false := by
  simp [isWhitespace]
  omega

theorem trim_eq_self {text : String} (solid : ∀ c ∈ text.toList, isWhitespace c = false) :
    trim text = text := by
  have kept : ∀ chars : List Char, (∀ c ∈ chars, isWhitespace c = false) →
      chars.dropWhile isWhitespace = chars := by
    intro chars solid
    cases chars with
    | nil => rfl
    | cons c chars =>
        rw [List.dropWhile_cons_of_neg]
        exact Bool.eq_false_iff.mp (solid c List.mem_cons_self)
  rw [trim, kept _ solid, kept _ (fun c listed => solid c (List.mem_reverse.mp listed)),
    List.reverse_reverse, String.ofList_toList]

theorem trim_of_parseUnsigned {bound n : Nat} {text : String}
    (read : parseUnsigned bound text = some n) : trim text = text := by
  have digits : ∀ chars : List Char, chars.all Char.isDigit = true →
      ∀ c ∈ chars, isWhitespace c = false := by
    intro chars all c listed
    have digit := List.all_eq_true.mp all c listed
    simp only [Char.isDigit, Bool.and_eq_true, decide_eq_true_eq, ge_iff_le,
      UInt32.le_iff_toNat_le] at digit
    exact isWhitespace_of_graphic (Nat.le_trans (by decide) digit.1)
      (Nat.le_trans digit.2 (by decide))
  apply trim_eq_self
  unfold parseUnsigned at read
  generalize text.toList = chars at read ⊢
  split at read
  · rename_i rest
    by_cases bad : (rest.isEmpty || !rest.all Char.isDigit) = true
    · simp only [if_pos bad] at read
      cases read
    · simp only [Bool.or_eq_true, Bool.not_eq_true', not_or, Bool.not_eq_false] at bad
      intro c listed
      rcases List.mem_cons.mp listed with rfl | later
      · decide
      · exact digits rest bad.2 c later
  · by_cases bad : (chars.isEmpty || !chars.all Char.isDigit) = true
    · simp only [if_pos bad] at read
      cases read
    · simp only [Bool.or_eq_true, Bool.not_eq_true', not_or, Bool.not_eq_false] at bad
      exact digits chars bad.2

end Trim

theorem Env.get?_short {env : Env} {name value : String} (set : env.get? name = some value) :
    (utf8 value).length < 2 ^ 21 := by
  apply env.short name
  unfold Env.get? at set
  cases read : env.var name with
  | error e => rw [read] at set; cases set
  | ok text => rw [read] at set; rw [Option.some.inj set]

theorem length_splitOnPPrepend_le {α : Type} (p : α → Bool) (xs acc : List α) :
    (List.splitOnPPrepend p xs acc).length ≤ xs.length + 1 := by
  induction xs generalizing acc with
  | nil => simp
  | cons x xs ih =>
      rw [List.splitOnPPrepend_cons_eq_if]
      split
      · exact Nat.succ_le_succ (ih [])
      · exact (ih _).trans (Nat.le_succ _)

theorem length_parseSelectors_le (text : String) :
    (parseSelectors text).length ≤ (utf8 text).length + 1 :=
  calc
    (parseSelectors text).length ≤ (commaSeparated text).length := List.length_filterMap_le ..
    _ ≤ (text.toList.splitOn ',').length := (List.length_filter_le ..).trans_eq (List.length_map _)
    _ ≤ text.toList.length + 1 := length_splitOnPPrepend_le ..
    _ ≤ (utf8 text).length + 1 := Nat.succ_le_succ (length_toList_le_utf8 text)

theorem BridgeConfig.fromEnv_short {env : Env} {cfg : BridgeConfig}
    (read : BridgeConfig.fromEnv env = .ok cfg) :
    (utf8 cfg.rgbAssetId).length < 2 ^ 32 ∧ cfg.gasTxAllowedSelectors.length < 2 ^ 32 := by
  simp only [BridgeConfig.fromEnv, bind_ok] at read
  obtain ⟨_, -, _, -, _, -, _, -, _, -, _, -, _, -, ⟨⟩⟩ := read
  constructor
  · cases set : env.get? "RGB_ASSET_ID" with
    | none => exact (by decide : 0 < 2 ^ 32)
    | some text => exact (Env.get?_short set).trans (by decide)
  · cases set : env.get? "GAS_TX_ALLOWED_SELECTORS" with
    | none => exact (by decide : 0 < 2 ^ 32)
    | some text =>
        have short := Env.get?_short set
        exact (length_parseSelectors_le text).trans_lt (by omega)

end EnclaveSigner
