import AliroUwb.Core.ByteOrder
import AliroUwb.Core.Types
import AliroUwb.Crypto.DomainSeparation
import AliroUwb.Crypto.KeyDerivation
import AliroUwb.Crypto.Provider
import AliroUwb.Crypto.SlotKeys
import AliroUwb.Crypto.Sp0
import AliroUwb.Crypto.Sp0Ccm
import AliroUwb.Crypto.Sp0Failure
import AliroUwb.Library.BlockModes
import AliroUwb.Library.Ccm
import AliroUwb.Library.LastWriter
import AliroUwb.Library.Machine
import AliroUwb.Library.SignedWords
import AliroUwb.Library.Streaks
import AliroUwb.Library.TwoWayTime
import AliroUwb.Library.WireFormat
import AliroUwb.Protocol.FrameCodec
import AliroUwb.Protocol.FrameCodecLaws
import AliroUwb.Protocol.Negotiation
import AliroUwb.Protocol.NormalForm
import AliroUwb.Protocol.Parameters
import AliroUwb.Protocol.SetupAcceptance
import AliroUwb.Protocol.SetupCodec
import AliroUwb.Protocol.SetupCodecLaws
import AliroUwb.Protocol.SetupFailure
import AliroUwb.Protocol.SetupMessages
import AliroUwb.Protocol.TlvStream
import AliroUwb.Ranging.Angle
import AliroUwb.Ranging.AngleGating
import AliroUwb.Ranging.Consensus
import AliroUwb.Ranging.ConsensusLaws
import AliroUwb.Ranging.Distance
import AliroUwb.Ranging.DistanceExact
import AliroUwb.Ranging.Hopping
import AliroUwb.Session.Accuracy
import AliroUwb.Session.Announcement
import AliroUwb.Session.ArmedKeys
import AliroUwb.Session.Authenticity
import AliroUwb.Session.BlockParity
import AliroUwb.Session.CleanSlate
import AliroUwb.Session.Control
import AliroUwb.Session.Cycles
import AliroUwb.Session.Device
import AliroUwb.Session.Effects
import AliroUwb.Session.Exchange
import AliroUwb.Session.FailedControl
import AliroUwb.Session.Frames
import AliroUwb.Session.Gating
import AliroUwb.Session.GenuineFinalData
import AliroUwb.Session.Handlers
import AliroUwb.Session.InvalidPdoa
import AliroUwb.Session.Invitations
import AliroUwb.Session.KeyConsistency
import AliroUwb.Session.Labels
import AliroUwb.Session.Liveness
import AliroUwb.Session.Pausing
import AliroUwb.Session.PrePollAcceptance
import AliroUwb.Session.Provenance
import AliroUwb.Session.RadioAgreement
import AliroUwb.Session.Reanchoring
import AliroUwb.Session.Registers
import AliroUwb.Session.Replay
import AliroUwb.Session.Residue
import AliroUwb.Session.Responders
import AliroUwb.Session.Resynchronisation
import AliroUwb.Session.RoundKeys
import AliroUwb.Session.Schedule
import AliroUwb.Session.Served
import AliroUwb.Session.SlotOrder
import AliroUwb.Session.Stash
import AliroUwb.Session.State
import AliroUwb.Session.Steps
import AliroUwb.Session.StopSuspend
import AliroUwb.Session.Stride
import AliroUwb.Session.System
import AliroUwb.Session.Trust
import AliroUwb.Session.TrustedExchanges
import AliroUwb.Session.TwoWayRanging
import AliroUwb.Session.WarmPath
import AliroUwb.Transceiver.Controller
import AliroUwb.Transceiver.Radio
import AliroUwb.Transceiver.StsKeyCache
