import MessageBus.Client.Script
import MessageBus.Client.Tasks
import MessageBus.Directory.Objects
import MessageBus.Proofs.Dictionary
import MessageBus.Proofs.Json.Number
import MessageBus.Proofs.Text
import MessageBus.Proofs.Json.Codec
import MessageBus.Proofs.Settings.Document
import MessageBus.Proofs.Directory.Reference
import MessageBus.Proofs.Directory.Member
import MessageBus.Proofs.Directory.Registry
import MessageBus.Proofs.Factory.Builder
import MessageBus.Proofs.Credential
import MessageBus.Proofs.Factory.Proxy
import MessageBus.Proofs.Directory.Factory
import MessageBus.Proofs.Context.Family
import MessageBus.Proofs.Context.Lifetime
import MessageBus.Proofs.Client.Exchange
import MessageBus.Proofs.Client.Failure
import MessageBus.Proofs.Client.Tasks
import MessageBus.Proofs.Credential.Callers
import MessageBus.Proofs.Settings.Query
import MessageBus.Proofs.RemoteUri
import MessageBus.Proofs.Text.Blank
import MessageBus.Proofs.ConnectionString
import MessageBus.Proofs.Settings.Options
import MessageBus.Proofs.Settings.ReadBack
import MessageBus.Proofs.Context.World
import MessageBus.Proofs.Context.Record
import MessageBus.Proofs.Context.Turns
import MessageBus.Proofs.Context.AutoStart
import MessageBus.Proofs.Operations
import MessageBus.Proofs.Client.Calls
import MessageBus.Proofs.Factory.Creation
import MessageBus.Proofs.Factory.Requests
import MessageBus.Proofs.Factory.Described
import MessageBus.Proofs.Factory.LeftOpen
import MessageBus.Proofs.Text.Lowercase
import MessageBus.Proofs.Trace
import MessageBus.Proofs.Credential.Accounts
import MessageBus.Proofs.Text.Hexadecimal
import MessageBus.Proofs.Text.Quoted
import MessageBus.Proofs.ConnectionString.Secret
import MessageBus.Proofs.Factory.Shown
import MessageBus.Proofs.ConnectionString.NormalForm
import MessageBus.Proofs.RemoteUri.Independence
import MessageBus.Proofs.Context.Consumers
import MessageBus.Proofs.Producer
import MessageBus.Proofs.Context.Notes
import MessageBus.Proofs.Context.Overlap
import MessageBus.Proofs.Context.StartedFlag
import MessageBus.Proofs.Text.ByteOrder
import MessageBus.Proofs.Directory.Spelling
import MessageBus.Proofs.Directory.Storing
import MessageBus.Proofs.Factory.Validation
import MessageBus.Proofs.ConnectionString.Grammar
import MessageBus.Proofs.Producer.Dispatch
import MessageBus.Proofs.MessageStream
import MessageBus.Proofs.Settings.Part
import MessageBus.Proofs.Settings.ReconnectHosts
import MessageBus.Proofs.Directory.Decoding
import MessageBus.Proofs.Json.Grammar
import MessageBus.Proofs.Json.Members
import MessageBus.Proofs.Settings.Changes
import MessageBus.Proofs.Settings.Members
