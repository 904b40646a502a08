import EngineBridge.Bridge.Codec
import EngineBridge.Calls.Service
import EngineBridge.Calls.Session
import EngineBridge.Calls.Stages
import EngineBridge.Calls.World
import EngineBridge.Config.Text
import EngineBridge.Domain.AccountId
import EngineBridge.Domain.ScheduleInfo
import EngineBridge.Main
import EngineBridge.Native.Scripted
import EngineBridge.Native.Recorded
import EngineBridge.Proofs.Bridge.Detail
import EngineBridge.Proofs.Bridge.Parsing
import EngineBridge.Proofs.Calls.Accounts
import EngineBridge.Proofs.Calls.Books
import EngineBridge.Proofs.Calls.Deferral
import EngineBridge.Proofs.Calls.Delivery
import EngineBridge.Proofs.Calls.Lifetime
import EngineBridge.Proofs.Calls.Outcomes
import EngineBridge.Proofs.Calls.Runs
import EngineBridge.Proofs.Calls.Serving
import EngineBridge.Proofs.Calls.Sessions
import EngineBridge.Proofs.Calls.Stages
import EngineBridge.Proofs.Calls.Steps
import EngineBridge.Proofs.Calls.Tokens
import EngineBridge.Proofs.Calls.Traffic
import EngineBridge.Proofs.Calls.Unloading
import EngineBridge.Proofs.Command.Effects
import EngineBridge.Proofs.Command.Engines
import EngineBridge.Proofs.Command.Flags
import EngineBridge.Proofs.Command.Formatting
import EngineBridge.Proofs.Command.Shown
import EngineBridge.Proofs.Config.Merging
import EngineBridge.Proofs.Config.Nearest
import EngineBridge.Proofs.Domain.Codec
import EngineBridge.Proofs.Engine.Requests
import EngineBridge.Proofs.Frame.Stability
import EngineBridge.Proofs.Json.Strings
import EngineBridge.Proofs.Json.Text
import EngineBridge.Proofs.Native.Accounts
import EngineBridge.Proofs.Native.Fitting
import EngineBridge.Proofs.Native.Host
import EngineBridge.Proofs.Native.Loading
import EngineBridge.Proofs.Native.RawRequests
import EngineBridge.Proofs.Native.Recorded
import EngineBridge.Proofs.Native.Search
import EngineBridge.Proofs.Native.Texts
import EngineBridge.Proofs.Text.Utf8
