import ActionLauncher.Acquirer
import ActionLauncher.Assignment
import ActionLauncher.Body
import ActionLauncher.Bus
import ActionLauncher.CommandLine
import ActionLauncher.CommandLine.Actions
import ActionLauncher.CommandLine.Invocation
import ActionLauncher.CommandLine.Reader
import ActionLauncher.CommandLine.Snapshot
import ActionLauncher.Configuration
import ActionLauncher.Configuration.Wire
import ActionLauncher.Context
import ActionLauncher.Diagnostics
import ActionLauncher.Event
import ActionLauncher.Event.Wire
import ActionLauncher.FileTree
import ActionLauncher.Identity
import ActionLauncher.Identity.Wire
import ActionLauncher.Journal
import ActionLauncher.Json.Fields
import ActionLauncher.Json.Magnitude
import ActionLauncher.Json.Reader
import ActionLauncher.Json.Token
import ActionLauncher.Json.Value
import ActionLauncher.Json.Writer
import ActionLauncher.Main
import ActionLauncher.Names
import ActionLauncher.OutputSheet
import ActionLauncher.Path
import ActionLauncher.Program
import ActionLauncher.Program.Echo
import ActionLauncher.Program.Shell
import ActionLauncher.Program.Utility
import ActionLauncher.Propagator
import ActionLauncher.Properties
import ActionLauncher.Provider
import ActionLauncher.Provider.Kerberos
import ActionLauncher.Provider.Scripted
import ActionLauncher.Provider.Simple
import ActionLauncher.Resolver
import ActionLauncher.Resource
import ActionLauncher.Runner
import ActionLauncher.Scope
import ActionLauncher.SearchPath
import ActionLauncher.SecurityError
import ActionLauncher.Session
import ActionLauncher.SiteXml.Document
import ActionLauncher.SiteXml.Entity
import ActionLauncher.SiteXml.Pattern
import ActionLauncher.Spawn
import ActionLauncher.Stage
import ActionLauncher.Table
import ActionLauncher.Text.Blank
import ActionLauncher.Text.Digits
import ActionLauncher.Text.Quoted
import ActionLauncher.Text.Split
import ActionLauncher.Text.Utf8
import ActionLauncher.Text.Word
import ActionLauncher.Time.Calendar
import ActionLauncher.Time.LongDate
import ActionLauncher.Time.Reader
import ActionLauncher.Time.Timestamp
import ActionLauncher.Tracker
import ActionLauncher.Uuid
import ActionLauncher.World
import ActionLauncher.Proofs.Deliveries
import ActionLauncher.Proofs.LaunchOutcome
import ActionLauncher.Proofs.ProviderConduct
import ActionLauncher.Proofs.ScopeRun
import ActionLauncher.Proofs.BodyConduct
import ActionLauncher.Proofs.DirectoryEntry
import ActionLauncher.Proofs.FileChange
import ActionLauncher.Proofs.PrivateCache
import ActionLauncher.Proofs.ScopeIdentity
import ActionLauncher.Proofs.TableLaws
import ActionLauncher.Proofs.EditHistory
import ActionLauncher.Proofs.PropertyFile
import ActionLauncher.Proofs.Numerals
import ActionLauncher.Proofs.SheetRoundTrip
import ActionLauncher.Proofs.Trimming
import ActionLauncher.Proofs.SiteMarks
import ActionLauncher.Proofs.SiteRoundTrip
import ActionLauncher.Proofs.References
import ActionLauncher.Proofs.SiteDocuments
import ActionLauncher.Proofs.Precedence
import ActionLauncher.Proofs.StageHistory
import ActionLauncher.Proofs.RunPreparation
import ActionLauncher.Proofs.RunOutcome
import ActionLauncher.Proofs.SessionHistory
import ActionLauncher.Proofs.SessionReplay
import ActionLauncher.Proofs.AcquisitionOrder
import ActionLauncher.Proofs.AcquisitionRounds
import ActionLauncher.Proofs.OutputDelivery
import ActionLauncher.Proofs.Alongside
import ActionLauncher.Proofs.TwinRuns
import ActionLauncher.Proofs.StageRecord
import ActionLauncher.Proofs.LoginRequests
import ActionLauncher.Proofs.BodyConfiguration
import ActionLauncher.Proofs.AbortReport
import ActionLauncher.Proofs.SparedFiles
import ActionLauncher.Proofs.CacheDisposal
import ActionLauncher.Proofs.JsonSpelling
import ActionLauncher.Proofs.JsonTokens
import ActionLauncher.Proofs.JsonRoundTrip
import ActionLauncher.Proofs.JsonRecords
import ActionLauncher.Proofs.JsonGrammar
import ActionLauncher.Proofs.ConfigurationWire
import ActionLauncher.Proofs.Timestamps
import ActionLauncher.Proofs.EventWire
import ActionLauncher.Proofs.SiteComments
import ActionLauncher.Proofs.SiteSections
import ActionLauncher.Proofs.ToolEvidence
import ActionLauncher.Proofs.CacheRelease
import ActionLauncher.Proofs.StandInProvider
import ActionLauncher.Proofs.PathSpelling
import ActionLauncher.Proofs.AmbientVariables
import ActionLauncher.Proofs.ChildCredentials
import ActionLauncher.Proofs.SearchOrder
