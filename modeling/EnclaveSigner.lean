import EnclaveSigner.Spv.BatchSplit
import EnclaveSigner.Spv.MerkleCompleteness
import EnclaveSigner.Server.BurnRelease
import EnclaveSigner.Server.Settlement
import EnclaveSigner.Server.WitnessPositions
import EnclaveSigner.Server.MintReplay
import EnclaveSigner.RequestShape
import EnclaveSigner.Parent.ReplyStore
import EnclaveSigner.SeedAgreement
import EnclaveSigner.Kms.BerCanonical
import EnclaveSigner.State.PhaseMachine
import EnclaveSigner.State.ExportQuota
import EnclaveSigner.Spv.HeightWrap
import EnclaveSigner.Rgb.SatConservation
import EnclaveSigner.Rgb.UnownedOrder
import EnclaveSigner.Rgb.AccountIsolation
import EnclaveSigner.Evm.RlpBounds
import EnclaveSigner.Server.RejectList
import EnclaveSigner.Server.ReleaseDigest
import EnclaveSigner.Server.DepositFinality
import EnclaveSigner.Server.RelayAtKeyUse
import EnclaveSigner.Parent.LaunchAgreement
import EnclaveSigner.State.RefillRate
import EnclaveSigner.State.EarlyCheck
import EnclaveSigner.State.ResultHistory
import EnclaveSigner.Attestation.CertificateChain
import EnclaveSigner.Rgb.SignedSize
import EnclaveSigner.Rgb.RejectCost
import EnclaveSigner.Parent.ForkRepair
import EnclaveSigner.Rgb.RightsLedger
import EnclaveSigner.Server.CloneHandshake
