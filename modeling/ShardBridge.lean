import ShardBridge.Checkpoint.RetryPolicy
import ShardBridge.Config.Json
import ShardBridge.Config.Load
import ShardBridge.Config.Schema
import ShardBridge.Config.Validation
import ShardBridge.Launch
import ShardBridge.Message.Decode
import ShardBridge.Processor.Script
import ShardBridge.Proofs.Message.Decoding
import ShardBridge.Proofs.Session.Request
import ShardBridge.Proofs.Session.Transcript
import ShardBridge.Record.Held
import ShardBridge.Session
import ShardBridge.Proofs.Session.Calls
import ShardBridge.Proofs.Session.PassingOn
import ShardBridge.Proofs.Session.LeaseLoss
import ShardBridge.Proofs.Session.Abreast
import ShardBridge.Proofs.Session.FailingRead
import ShardBridge.Proofs.Json.Tearing
import ShardBridge.Proofs.Text.Utf8
import ShardBridge.Proofs.Text.Numerals
import ShardBridge.Proofs.Text.Base64
import ShardBridge.Proofs.Message.Tearing
import ShardBridge.Proofs.Stream.Cutting
import ShardBridge.Proofs.Session.Torn
import ShardBridge.Proofs.Message.WireTable
import ShardBridge.Proofs.Transport.Interchange
import ShardBridge.Proofs.Session.InStep
import ShardBridge.Proofs.Session.CallOutput
import ShardBridge.Proofs.Session.LegacyNotice
import ShardBridge.Proofs.Session.LegacyProcessor
import ShardBridge.Proofs.Session.Composition
import ShardBridge.Proofs.Transport.Limited
import ShardBridge.Proofs.Session.Coupling
import ShardBridge.Proofs.Session.FailingWrite
import ShardBridge.Proofs.Session.Promptness
import ShardBridge.Proofs.Transport.Framing
import ShardBridge.Proofs.Transport.Lossless
import ShardBridge.Proofs.Json.Complaint
import ShardBridge.Proofs.Message.Rejection
import ShardBridge.Proofs.Number.Brevity
import ShardBridge.Proofs.Json.Wording
import ShardBridge.Proofs.Message.Wording
import ShardBridge.Proofs.Checkpoint.Pace
import ShardBridge.Proofs.Checkpoint.Handshake
import ShardBridge.Proofs.Checkpoint.Retrying
import ShardBridge.Proofs.Config.Validation
import ShardBridge.Proofs.Checkpoint.RetryWindow
import ShardBridge.Proofs.Config.Overriding
import ShardBridge.Proofs.Record.Held
import ShardBridge.Proofs.Checkpoint.FailureKind
import ShardBridge.Proofs.Config.Merging
import ShardBridge.Proofs.Session.Report
import ShardBridge.Proofs.Toml.Quoting
import ShardBridge.Proofs.Toml.Assignments
import ShardBridge.Proofs.Config.Toml
