import AspiManager.Bytes.Basic
import AspiManager.Bytes.Hex
import AspiManager.Bytes.Signed
import AspiManager.Config.Adapter
import AspiManager.Config.Basic
import AspiManager.Config.Document
import AspiManager.Config.Session
import AspiManager.Device.Errno
import AspiManager.Device.Host
import AspiManager.Device.IoError
import AspiManager.Device.Key
import AspiManager.Device.Registry
import AspiManager.Device.TransferError
import AspiManager.Files.Channel
import AspiManager.Files.Tree
import AspiManager.Log.Dump
import AspiManager.Log.Event
import AspiManager.Log.Filter
import AspiManager.Log.Line
import AspiManager.Log.Logger
import AspiManager.Log.Settings
import AspiManager.Main
import AspiManager.Manager.Acquire
import AspiManager.Manager.Dispatch
import AspiManager.Manager.Exchange
import AspiManager.Manager.Execute
import AspiManager.Manager.Posting
import AspiManager.Manager.State
import AspiManager.Memory.Address
import AspiManager.Memory.Arena
import AspiManager.Memory.Descriptor
import AspiManager.Memory.FarPtr
import AspiManager.Memory.Machine
import AspiManager.Memory.Range
import AspiManager.Probe.Arguments
import AspiManager.Probe.Help
import AspiManager.Probe.Inquire
import AspiManager.Probe.Options
import AspiManager.Probe.Parameter
import AspiManager.Probe.Program
import AspiManager.Probe.Replay
import AspiManager.Proofs.Addressing
import AspiManager.Proofs.Agreement
import AspiManager.Proofs.Aliases
import AspiManager.Proofs.Attempts
import AspiManager.Proofs.Block
import AspiManager.Proofs.BothModes
import AspiManager.Proofs.Builds
import AspiManager.Proofs.Call
import AspiManager.Proofs.Caller
import AspiManager.Proofs.Checked
import AspiManager.Proofs.Checks
import AspiManager.Proofs.Clipping
import AspiManager.Proofs.Completion
import AspiManager.Proofs.Conversation
import AspiManager.Proofs.Copying
import AspiManager.Proofs.Delivery
import AspiManager.Proofs.Descriptors
import AspiManager.Proofs.Diagnosis
import AspiManager.Proofs.Drafts
import AspiManager.Proofs.Execution
import AspiManager.Proofs.Failure
import AspiManager.Proofs.Handles
import AspiManager.Proofs.Histories
import AspiManager.Proofs.Identification
import AspiManager.Proofs.Independence
import AspiManager.Proofs.Interruption
import AspiManager.Proofs.Layout
import AspiManager.Proofs.Locality
import AspiManager.Proofs.Logging
import AspiManager.Proofs.Messages
import AspiManager.Proofs.Names
import AspiManager.Proofs.Narrowing
import AspiManager.Proofs.Noninterference
import AspiManager.Proofs.Octets
import AspiManager.Proofs.Overflow
import AspiManager.Proofs.Oversize
import AspiManager.Proofs.Pairs
import AspiManager.Proofs.PostRoutine
import AspiManager.Proofs.Posting
import AspiManager.Proofs.Probing
import AspiManager.Proofs.Program
import AspiManager.Proofs.Rejection
import AspiManager.Proofs.Reporting
import AspiManager.Proofs.RoundTrip
import AspiManager.Proofs.Run
import AspiManager.Proofs.Running
import AspiManager.Proofs.Selectors
import AspiManager.Proofs.SenseArea
import AspiManager.Proofs.Sensing
import AspiManager.Proofs.Spelling
import AspiManager.Proofs.Stamp
import AspiManager.Proofs.Traffic
import AspiManager.Proofs.Transfer
import AspiManager.Proofs.Turn
import AspiManager.Proofs.Validation
import AspiManager.Proofs.Verdict
import AspiManager.Proofs.Windows
import AspiManager.Proofs.Words
import AspiManager.Proofs.Writes
import AspiManager.Request.Basic
import AspiManager.Request.Delivery
import AspiManager.Request.Error
import AspiManager.Request.Flags
import AspiManager.Request.Outbound
import AspiManager.Request.Settled
import AspiManager.Request.Status
import AspiManager.Scsi.Command
import AspiManager.Scsi.Inquiry
import AspiManager.Scsi.Sense
import AspiManager.Session.Play
import AspiManager.Session.Report
import AspiManager.Session.Single
import AspiManager.Session.Stage
import AspiManager.Session.Step
import AspiManager.Sg.Header
import AspiManager.Sg.Message
import AspiManager.Srb.AdapterInquiry
import AspiManager.Srb.Command
import AspiManager.Srb.Exec
import AspiManager.Text.Blank
import AspiManager.Text.Numeral
import AspiManager.Text.Quoted
import AspiManager.Text.Record
import AspiManager.Text.Visible
import AspiManager.Yaml.BlockScalar
import AspiManager.Yaml.Cursor
import AspiManager.Yaml.FlowScalar
import AspiManager.Yaml.Lexer
import AspiManager.Yaml.Node
import AspiManager.Yaml.Parser
import AspiManager.Yaml.Plain
import AspiManager.Yaml.Property
import AspiManager.Yaml.Reading
import AspiManager.Yaml.Token
