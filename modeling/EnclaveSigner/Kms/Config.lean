import EnclaveSigner.Error
import EnclaveSigner.Lib.Checks
import EnclaveSigner.Lib.Text

/-! # The KMS key of the seed

The operator names a key at launch. It must be a full key ARN of a commercial
region, in an account that the image pins.
-/

namespace EnclaveSigner.Kms

open Lib

structure KmsConfig where
  keyArn : String
  region : String
  seedId : String
  deriving DecidableEq

def fail (message : String) : EnclaveError := .internal s!"KMS custody: {message}"

section Bytes

def isAsciiDigit (byte : UInt8) : Bool := 0x30 ≤ byte && byte ≤ 0x39

def isAsciiLowercase (byte : UInt8) : Bool := 0x61 ≤ byte && byte ≤ 0x7A

def isAsciiUppercase (byte : UInt8) : Bool := 0x41 ≤ byte && byte ≤ 0x5A

def isAsciiAlphanumeric (byte : UInt8) : Bool :=
  isAsciiLowercase byte || isAsciiUppercase byte || isAsciiDigit byte

def isAsciiHexdigit (byte : UInt8) : Bool :=
  isAsciiDigit byte || 0x61 ≤ byte && byte ≤ 0x66 || 0x41 ≤ byte && byte ≤ 0x46

end Bytes

def colonSeparated (text : String) : List String :=
  (text.toList.splitOn ':').map String.ofList

/-- Other partitions have their own hosts and ARN rules. -/
def isCommercialRegion (region : String) : Bool :=
  let bytes := utf8 region
  3 ≤ bytes.length && bytes.length ≤ 32 &&
    bytes.all (fun byte => isAsciiLowercase byte || isAsciiDigit byte || byte = 0x2D) &&
    bytes.head? ≠ some 0x2D && bytes.getLast? ≠ some 0x2D &&
    ["cn-", "us-gov-", "us-iso"].all fun start => stripPrefix start region = none

def keyIdOf (keyArn region : String) : Option String :=
  match colonSeparated keyArn with
  | [arn, aws, kms, keyRegion, account, key] =>
      if arn = "arn" ∧ aws = "aws" ∧ kms = "kms" ∧ keyRegion = region ∧
          (utf8 account).length = 12 ∧ (utf8 account).all isAsciiDigit then
        stripPrefix "key/" key
      else none
  | _ => none

def isUuid (keyId : String) : Bool :=
  (utf8 keyId).length = 36 && (utf8 keyId).zipIdx.all fun (byte, i) =>
    if i ∈ [8, 13, 18, 23] then byte = 0x2D else isAsciiHexdigit byte

def isMultiRegion (keyId : String) : Bool :=
  (stripPrefix "mrk-" keyId).any fun id =>
    (utf8 id).length = 32 && (utf8 id).all isAsciiHexdigit

def isSeedId (seedId : String) : Bool :=
  let bytes := utf8 seedId
  !bytes.isEmpty && bytes.length ≤ 128 && bytes.all fun byte =>
    isAsciiAlphanumeric byte || byte = 0x2D || byte = 0x5F || byte = 0x2E

namespace KmsConfig

def validate (config : KmsConfig) : Result Unit := do
  refuse (isCommercialRegion config.region = false)
    (fail "KMS_REGION must be a commercial AWS region")
  let keyId ← okOr
    (fail "KMS_KEY_ARN must be a full key ARN in KMS_REGION (aliases are not accepted)")
    (keyIdOf config.keyArn config.region)
  refuse (isUuid keyId = false ∧ isMultiRegion keyId = false)
    (fail "KMS_KEY_ARN has an invalid key identifier")
  refuse (isSeedId config.seedId = false)
    (fail "KMS_SEED_ID must be 1-128 ASCII letters, digits, dots, underscores or hyphens")

/-- Without a list a dev build takes any account and a release build takes none. -/
def validateAccount (config : KmsConfig) (allowed : List String) (allowUnpinned : Bool) :
    Result Unit :=
  if allowed = [] then
    refuse (allowUnpinned = false) (fail ("KMS_ALLOWED_ACCOUNT_IDS is not pinned in the image - " ++
      "refusing a host-chosen KMS account"))
  else
    let account := ((colonSeparated config.keyArn)[4]?).getD ""
    refuse (account ∉ allowed) (fail ("KMS_KEY_ARN is in an AWS account this image does not pin " ++
      "(KMS_ALLOWED_ACCOUNT_IDS)"))

end KmsConfig

def endpointHost (region : String) : String := s!"kms.{region}.amazonaws.com"

theorem KmsConfig.validate_region {config : KmsConfig} {u : Unit}
    (valid : config.validate = .ok u) : config.region ≠ "" := by
  intro empty
  obtain ⟨commercial, -⟩ := refuse_bind_ok.mp valid
  exact commercial (empty ▸ by decide)

end EnclaveSigner.Kms
