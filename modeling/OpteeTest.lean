import OpteeTest.ByteMemory
import OpteeTest.TeeApi
import OpteeTest.AttrWireFormat
import OpteeTest.AttrPack
import OpteeTest.AttrPackLayout
import OpteeTest.AttrUnpack
import OpteeTest.AttrUnpackContract
import OpteeTest.AttrRoundTrip
import OpteeTest.GuardedRun
import OpteeTest.HandleDatabase
import OpteeTest.HandleRefinement
import OpteeTest.ArithTaf
import OpteeTest.HandleWords
import OpteeTest.TypedHandles
import OpteeTest.BigEndian
import OpteeTest.Sha2Spec
import OpteeTest.Sha2Impl
import OpteeTest.Sha2Compression
import OpteeTest.Sha2Streaming
import OpteeTest.Sha2Commands
import OpteeTest.AesField
import OpteeTest.KeyAlternating
import OpteeTest.AesSpec
import OpteeTest.AesTables
import OpteeTest.AesImpl
import OpteeTest.AesWords
import OpteeTest.AesKeySchedule
import OpteeTest.AesCipher
import OpteeTest.AesEcbCommands
import OpteeTest.AesEcbHistory
import OpteeTest.ClientApi
import OpteeTest.HostDigestEcb
import OpteeTest.SimsStore
import OpteeTest.HandleTransport
import OpteeTest.TeeCalls
import OpteeTest.CryptHandlers
import OpteeTest.StorageHandlers
import OpteeTest.KeyHandlers
import OpteeTest.CryptWrappers
import OpteeTest.StorageWrappers
import OpteeTest.WrapperMarshalling
import OpteeTest.StorageMarshalling
import OpteeTest.KeyMarshalling
import OpteeTest.EffectRuns
import OpteeTest.ErrorReporting
import OpteeTest.DroppedResults
import OpteeTest.RpcCallCryp
import OpteeTest.HandleLedger
import OpteeTest.SimsSessions
import OpteeTest.SharedCounter
import OpteeTest.ConcurrentCalls
import OpteeTest.BlockHeap
import OpteeTest.OwnedBlocks
import OpteeTest.SimsHeap
import OpteeTest.EnumObjectList
import OpteeTest.EnumListOwnership
import OpteeTest.EnumListing
import OpteeTest.AesUnrolled
import OpteeTest.Sha2Unrolled
import OpteeTest.AesTargets
import OpteeTest.ChunkLoop
import OpteeTest.StorageBenchmark
import OpteeTest.StorageCalls
import OpteeTest.StorageRewrite
import OpteeTest.StorageVerify
import OpteeTest.StorageCleanup
import OpteeTest.PerfCommands
import OpteeTest.PerfBounds
import OpteeTest.EnumOutcomes
import OpteeTest.RpcBounce
import OpteeTest.SdpCopies
import OpteeTest.ConcurrentDigest
import OpteeTest.KeyListing
import OpteeTest.TeeRecord
import OpteeTest.KeyInPersistent
import OpteeTest.KeyCreation
import OpteeTest.PerfOperation
import OpteeTest.PerfLifetimes
import OpteeTest.HandleFreeing
import OpteeTest.ArithFrames
import OpteeTest.MbedtlsTaf
import OpteeTest.CertSigning
import OpteeTest.FixedOutputs
import OpteeTest.HandleCapacity
import OpteeTest.HandleIssue
import OpteeTest.CertProbing
import OpteeTest.ArithObjects
import OpteeTest.ArithRefinement
import OpteeTest.CryptInstance
import OpteeTest.RpcCrypt
import OpteeTest.SdpForwarding
import OpteeTest.CTokens
import OpteeTest.FileToC
import OpteeTest.RspToGcm
import OpteeTest.SocketHandles
import OpteeTest.SocketRuns
import OpteeTest.SimsCounter
import OpteeTest.OsTestProperties
import OpteeTest.PropertyVerdict
import OpteeTest.DeriveKeyTest
import OpteeTest.Ta2TaMemref
