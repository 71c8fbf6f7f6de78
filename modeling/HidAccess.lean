import HidAccess.AccessError
import HidAccess.Backend
import HidAccess.BackendKind
import HidAccess.Bytes
import HidAccess.Clocked
import HidAccess.Command
import HidAccess.CommandLine
import HidAccess.CommandLine.Given
import HidAccess.CommandLine.Grammar
import HidAccess.CommandLine.Request
import HidAccess.CommandLine.Usage
import HidAccess.Config.Basic
import HidAccess.Config.Load
import HidAccess.Config.Toml
import HidAccess.Device
import HidAccess.DeviceEntry
import HidAccess.DeviceEntry.Json
import HidAccess.DeviceId
import HidAccess.DeviceList
import HidAccess.DeviceTexts
import HidAccess.FileTree
import HidAccess.FileTree.Change
import HidAccess.FileTree.Fixture
import HidAccess.FileTree.Open
import HidAccess.Handle
import HidAccess.Handle.Read
import HidAccess.Handle.Crash
import HidAccess.Hidraw.Attributes
import HidAccess.Hidraw.Backend
import HidAccess.Hidraw.Uevent
import HidAccess.Json.Lexer
import HidAccess.Json.Printer
import HidAccess.Json.Reader
import HidAccess.Json.Value
import HidAccess.LogFilter
import HidAccess.LogFilter.Pattern
import HidAccess.Main
import HidAccess.Manager
import HidAccess.PollLoop
import HidAccess.PollLoop.Scripted
import HidAccess.Program
import HidAccess.ReportDescriptor.Item
import HidAccess.ReportDescriptor.Usage
import HidAccess.Scripted
import HidAccess.Session
import HidAccess.Session.Beside
import HidAccess.Session.State
import HidAccess.Session.Step
import HidAccess.Startup
import HidAccess.SystemError
import HidAccess.Terminal
import HidAccess.Text.Alphanumeric
import HidAccess.Text.Blank
import HidAccess.Text.CodeRanges
import HidAccess.Text.Numeral
import HidAccess.Text.Quoted
import HidAccess.Text.Split
import HidAccess.Text.Unprintable
import HidAccess.Text.Utf16
import HidAccess.Text.Utf8
import HidAccess.Text.Wide
import HidAccess.Time
import HidAccess.Toml.Document
import HidAccess.Toml.Printer
import HidAccess.Toml.Scalar
import HidAccess.Toml.Text
import HidAccess.Toml.Value
import HidAccess.Usb.Backend
import HidAccess.Usb.Bus
import HidAccess.Usb.Error
import HidAccess.Usb.InputQueue
import HidAccess.Usb.Path
import HidAccess.Usb.Release
import HidAccess.Usb.Report
import HidAccess.Usb.Texts
import HidAccess.VendorDriver.Backend
import HidAccess.VendorDriver.Library
import HidAccess.VirtualBus
import HidAccess.VirtualBus.Control
import HidAccess.Proofs.Handle.Operation
import HidAccess.Proofs.Handle.CallLog
import HidAccess.Proofs.Handle.Lifecycle
import HidAccess.Proofs.Handle.Retirement
import HidAccess.Proofs.VirtualBus.Traffic
import HidAccess.Proofs.VirtualBus.InputAccount
import HidAccess.Proofs.VirtualBus.PendingInput
import HidAccess.Proofs.Handle.Threads
import HidAccess.Proofs.Handle.Uninterrupted
import HidAccess.Proofs.Handle.Exclusion
import HidAccess.Proofs.Handle.Cancellation
import HidAccess.Proofs.Handle.Custody
import HidAccess.Proofs.VirtualBus.Seats
import HidAccess.Proofs.VirtualBus.OpenHandles
import HidAccess.Proofs.VirtualBus.Parts
import HidAccess.Proofs.VirtualBus.Identity
import HidAccess.Proofs.VirtualBus.Selection
import HidAccess.Proofs.VirtualBus.OutputLog
import HidAccess.Proofs.Usb.InputHistory
import HidAccess.Proofs.Usb.OutputReport
import HidAccess.Proofs.ReportDescriptor.Items
import HidAccess.Proofs.ReportDescriptor.FirstCollection
import HidAccess.Proofs.Text.Numeral
import HidAccess.Proofs.Usb.Path
import HidAccess.Proofs.Usb.Table
import HidAccess.Proofs.Usb.Opening
import HidAccess.Proofs.Usb.Traffic
import HidAccess.Proofs.Usb.Claims
import HidAccess.Proofs.Usb.Listing
import HidAccess.Proofs.FileTree.Walk
import HidAccess.Proofs.Usb.Reopening
import HidAccess.Proofs.Hidraw.NodeOrder
import HidAccess.Proofs.Hidraw.Uevent
import HidAccess.Proofs.Hidraw.LookUps
import HidAccess.Proofs.Hidraw.NodeListing
import HidAccess.Proofs.Text.Utf8
import HidAccess.Proofs.FileTree.Names
import HidAccess.Proofs.Hidraw.HandleTexts
import HidAccess.Proofs.Text.Utf16
import HidAccess.Proofs.Json.Lexing
import HidAccess.Proofs.Json.RoundTrip
import HidAccess.Proofs.DeviceEntry.Json
import HidAccess.Proofs.Toml.Strings
import HidAccess.Proofs.Toml.Layout
import HidAccess.Proofs.Toml.Numbers
import HidAccess.Proofs.Toml.Tables
import HidAccess.Proofs.Toml.Values
import HidAccess.Proofs.Toml.Documents
import HidAccess.Proofs.Config.Toml
import HidAccess.Proofs.Handle.Simulation
import HidAccess.Proofs.VirtualBus.Neighbours
import HidAccess.Proofs.VirtualBus.Independence
import HidAccess.Proofs.ReportDescriptor.LaterCollections
import HidAccess.Proofs.Hidraw.Ancestry
import HidAccess.Proofs.Handle.Slices
import HidAccess.Proofs.PollLoop.Endings
import HidAccess.Proofs.Usb.FeatureReport
import HidAccess.Proofs.VirtualBus.FeatureStore
import HidAccess.Proofs.Hidraw.UeventFormat
import HidAccess.Proofs.Bytes.Written
import HidAccess.Proofs.Usb.PathForm
import HidAccess.Proofs.Usb.Release
import HidAccess.Proofs.Bytes.Tokens
import HidAccess.Proofs.DeviceList.Blocks
import HidAccess.Proofs.Text.Blank
import HidAccess.Proofs.DeviceEntry.Ids
import HidAccess.Proofs.Config.Defaults
import HidAccess.Proofs.Config.Partial
import HidAccess.Proofs.VendorDriver.OpenErrors
import HidAccess.Proofs.Text.Wide
import HidAccess.Proofs.VendorDriver.HandleTexts
import HidAccess.Proofs.Handle.Crashes
import HidAccess.Proofs.CommandLine.Items
import HidAccess.Proofs.CommandLine.Targets
import HidAccess.Proofs.Command.Scene
import HidAccess.Proofs.Command.Operations
import HidAccess.Proofs.Command.Reading
import HidAccess.Proofs.Command.Polling
