import PulseEcu.Foundation.BigEndian
import PulseEcu.Foundation.Run
import PulseEcu.Foundation.Clock
import PulseEcu.Foundation.Region
import PulseEcu.Foundation.FirstMatch
import PulseEcu.Types
import PulseEcu.Session
import PulseEcu.SessionMachine
import PulseEcu.Hal.Timer
import PulseEcu.Foundation.RingBuffer
import PulseEcu.Hal.Stm32Can
import PulseEcu.Transport.IsoTp
import PulseEcu.Transport.Segmentation
import PulseEcu.Transport.Views
import PulseEcu.Transport.Receive
import PulseEcu.Transport.Transmit
import PulseEcu.Transport.Emission
import PulseEcu.Transport.Reassembly
import PulseEcu.Transport.ClosedLoop
import PulseEcu.Transport.Delivery
import PulseEcu.Transport.FlowControl
import PulseEcu.Transport.ReceiveSafety
import PulseEcu.Transport.RoundTrip
import PulseEcu.Dtc.DtcManager
import PulseEcu.Dtc.DtcRun
import PulseEcu.Dtc.Registry
import PulseEcu.Dtc.StatusHistory
import PulseEcu.Dtc.FreezeFrame
import PulseEcu.Services.AddressAndLength
import PulseEcu.Services.ServiceBase
import PulseEcu.Services.HandlerContract
import PulseEcu.Services.SecurityAccess
import PulseEcu.Services.SessionServices
import PulseEcu.Services.SecuritySession
import PulseEcu.Services.SecurityRun
import PulseEcu.Services.BruteForce
import PulseEcu.Services.ControlServices
import PulseEcu.Services.Transfer
import PulseEcu.Services.BlockTransfer
import PulseEcu.Services.DownloadSession
import PulseEcu.Services.DownloadCoupling
import PulseEcu.Services.DtcServices
import PulseEcu.Services.MemoryServices
import PulseEcu.Services.TransferSession
import PulseEcu.Server.UdsServer
import PulseEcu.Services.ReadDataByIdentifier
import PulseEcu.Services.TableServices
import PulseEcu.Services.WriteMemoryByAddress
import PulseEcu.Services.ServiceSet
import PulseEcu.Services.AddressDecoding
import PulseEcu.Services.SuppressBit
import PulseEcu.Services.NegativeResponses
import PulseEcu.Services.SessionGating
import PulseEcu.Services.UnlockSoundness
import PulseEcu.Server.SessionEffect
import PulseEcu.Server.InFlight
import PulseEcu.Server.KeepAlive
import PulseEcu.Server.RequestDelivery
import PulseEcu.Server.ResponseForm
import PulseEcu.Server.S3Fallback
import PulseEcu.Timing.SecurityClock
import PulseEcu.Timing.SessionClock
import PulseEcu.Timing.TransportClock
import PulseEcu.Timing.Translation
import PulseEcu.Services.ClearInformation
import PulseEcu.Services.ReadDidFold
import PulseEcu.Transport.PeerAbort
import PulseEcu.Transport.BlockGrants
import PulseEcu.Transport.Interleaving
import PulseEcu.Transport.SeparationTime
import PulseEcu.Transport.Stranding
import PulseEcu.Transport.WrongSequence
import PulseEcu.Transport.FrameProgress
import PulseEcu.Services.DtcReports
import PulseEcu.Dtc.FreezeFrameRecords
import PulseEcu.Services.FlashRoutine
import PulseEcu.Services.FlashRun
import PulseEcu.Services.FlashRequests
import PulseEcu.Server.AnswerOrder
import PulseEcu.Services.NrcOrder
import PulseEcu.Services.NrcPrecedence
import PulseEcu.Foundation.CrcTable
import PulseEcu.Utils.Crc
import PulseEcu.Foundation.BurstDetection
import PulseEcu.Foundation.Access
import PulseEcu.Transport.FrameReads
import PulseEcu.Foundation.XorShift
import PulseEcu.Security.SeedKey
import PulseEcu.Services.XorSeeds
import PulseEcu.Foundation.FullPeriod
import PulseEcu.Foundation.StepPolynomial
import PulseEcu.Security.SeedPeriod
import PulseEcu.Foundation.Simulation
import PulseEcu.Transport.Receiver
import PulseEcu.Transport.Transmitter
import PulseEcu.Server.MessageServer
import PulseEcu.Server.Conversation
import PulseEcu.Foundation.Agreement
import PulseEcu.Services.StaleBytes
import PulseEcu.Server.Buffers
import PulseEcu.Server.Firmware
import PulseEcu.Services.ImageDownload
import PulseEcu.Server.Silence
import PulseEcu.Foundation.ErrorDetection
import PulseEcu.Security.Lfsr
import PulseEcu.Utils.CrcErrors
import PulseEcu.Dtc.Independence
import PulseEcu.Services.XorHandshake
import PulseEcu.Server.FaultyBus
import PulseEcu.Foundation.LastWrite
import PulseEcu.Services.StoredData
import PulseEcu.Services.StoredMemory
import PulseEcu.Server.Traffic
import PulseEcu.Foundation.Bus
import PulseEcu.Server.SharedBus
import PulseEcu.Services.LinkTransition
import PulseEcu.Hal.TimerSpacing
