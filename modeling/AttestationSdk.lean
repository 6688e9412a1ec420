import AttestationSdk.MeasresDecoding
import AttestationSdk.RimClaims
import AttestationSdk.GpuEvidence
import AttestationSdk.SwitchEvidence
import AttestationSdk.StatusProofBundle
import AttestationSdk.RawProofJudgement
import AttestationSdk.ChainCoverage
import AttestationSdk.NvCacheRefinement
import AttestationSdk.CachingTransparency
import AttestationSdk.OverallPolicy
import AttestationSdk.LocalGpuVerifier
import AttestationSdk.LocalSwitchVerifier
import AttestationSdk.VerifierCoverage
import AttestationSdk.AttestVerdict
import AttestationSdk.VouchedChain
import AttestationSdk.GpuSoundness
import AttestationSdk.OcspCacheHistory
import AttestationSdk.ReportLayout
import AttestationSdk.RimSigningKey
import AttestationSdk.EatValidation
import AttestationSdk.EatWriting
import AttestationSdk.EatRoundTrip
import AttestationSdk.Reconfiguration
import AttestationSdk.InstalledComponents
import AttestationSdk.StepRuns
import AttestationSdk.DriverLibraries
import AttestationSdk.SdkLifecycle
import AttestationSdk.HttpTransfer
import AttestationSdk.HttpRetry
import AttestationSdk.HttpSettings
import AttestationSdk.JwksHistory
import AttestationSdk.HandleTable
import AttestationSdk.SharedHandles
import AttestationSdk.PairedRuns
import AttestationSdk.FilesystemRimStore
import AttestationSdk.CliAttest
import AttestationSdk.OfflineMode
import AttestationSdk.LinkedFiles
import AttestationSdk.ReleaseTransaction
import AttestationSdk.TransactionSteps
import AttestationSdk.SharedStaging
import AttestationSdk.PublishedQuartets
import AttestationSdk.QuartetPromotion
import AttestationSdk.ConcurrentReleases
import AttestationSdk.MeasurementComparison
import AttestationSdk.GoldenDocuments
import AttestationSdk.ComparisonLoops
import AttestationSdk.RevocationReason
import AttestationSdk.ValidityPeriod
import AttestationSdk.DelimitedText
import AttestationSdk.ChainSplitting
import AttestationSdk.FwidExtraction
import AttestationSdk.Sha256
import AttestationSdk.PyValue
import AttestationSdk.JsonText
import AttestationSdk.ReleaseAuthority
import AttestationSdk.ReleaseManifest
import AttestationSdk.SetValidator
import AttestationSdk.ValidatorFindings
import AttestationSdk.ReleaseSetCompleteness
import AttestationSdk.ReleaseRail
import AttestationSdk.RailAcceptance
import AttestationSdk.ReleaseSetSoundness
import AttestationSdk.DeclaredFieldTypes
import AttestationSdk.ReportAccessors
import AttestationSdk.TopologyIdentifiers
import AttestationSdk.Base64Decoding
import AttestationSdk.EvidenceJson
import AttestationSdk.HexDecoding
import AttestationSdk.ClaimsRoundTrip
import AttestationSdk.ClaimsEquality
import AttestationSdk.EatNonce
import AttestationSdk.NonceHex
import AttestationSdk.RetryBackoff
import AttestationSdk.SpdmReuse
import AttestationSdk.RimLookup
import AttestationSdk.BinaryReader
import AttestationSdk.ElfReader
import AttestationSdk.MachOReader
import AttestationSdk.LoaderGate
import AttestationSdk.DependencyDeclarations
import AttestationSdk.DependencyPins
import AttestationSdk.CommentInvariance
import AttestationSdk.CommitGraph
import AttestationSdk.PythonText
import AttestationSdk.SourceSeries
import AttestationSdk.CheckedSlices
import AttestationSdk.OpaqueTlv
import AttestationSdk.EncodeBuffer
import AttestationSdk.WindowsTime
import AttestationSdk.RecordedEvidence
import AttestationSdk.RemoteRimStore
import AttestationSdk.RemoteAttestation
import AttestationSdk.VerificationOnly
import AttestationSdk.SplitAttestation
