import QuerySession.Action
import QuerySession.Credentials
import QuerySession.Error.Basic
import QuerySession.Error.Stamped
import QuerySession.Impersonation
import QuerySession.Json.Access
import QuerySession.Json.Basic
import QuerySession.Json.Forms
import QuerySession.Json.Reader
import QuerySession.Json.Shape
import QuerySession.Json.Token
import QuerySession.Keyed
import QuerySession.Log.Event
import QuerySession.Log.Filter
import QuerySession.Log.Install
import QuerySession.Net.Header
import QuerySession.Net.Url
import QuerySession.Number.Binary64
import QuerySession.Number.Layout
import QuerySession.Number.Shortest
import QuerySession.Options.Basic
import QuerySession.Options.Layers
import QuerySession.Proofs.Action
import QuerySession.Proofs.Bags
import QuerySession.Proofs.Candidates
import QuerySession.Proofs.ConcurrentSessions
import QuerySession.Proofs.Discretion
import QuerySession.Proofs.Establishment
import QuerySession.Proofs.Failures
import QuerySession.Proofs.Filtering
import QuerySession.Proofs.Histories
import QuerySession.Proofs.Json.Forms
import QuerySession.Proofs.Json.Pieces
import QuerySession.Proofs.Json.Shapes
import QuerySession.Proofs.Json.Tokens
import QuerySession.Proofs.Keyed
import QuerySession.Proofs.Leftovers
import QuerySession.Proofs.LocationCalls.Accounting
import QuerySession.Proofs.LocationCalls.Alone
import QuerySession.Proofs.LocationCalls.Cells
import QuerySession.Proofs.LocationCalls.Closing
import QuerySession.Proofs.LocationCalls.Gate
import QuerySession.Proofs.LocationCalls.History
import QuerySession.Proofs.LocationCalls.Ledger
import QuerySession.Proofs.LocationCalls.Progress
import QuerySession.Proofs.LocationCalls.Provisioning
import QuerySession.Proofs.LocationCalls.Step
import QuerySession.Proofs.LocationCalls.Story
import QuerySession.Proofs.Locations
import QuerySession.Proofs.Login.Decision
import QuerySession.Proofs.Login.Rejection
import QuerySession.Proofs.Login.Setups
import QuerySession.Proofs.Number.Digits
import QuerySession.Proofs.OptionHistory
import QuerySession.Proofs.Parts
import QuerySession.Proofs.Principal
import QuerySession.Proofs.Provenance
import QuerySession.Proofs.Registrations.Agreement
import QuerySession.Proofs.Registrations.Step
import QuerySession.Proofs.RegistryCalls.Alone
import QuerySession.Proofs.RegistryCalls.Closing
import QuerySession.Proofs.RegistryCalls.Shared
import QuerySession.Proofs.RegistryCalls.Single
import QuerySession.Proofs.RegistryCalls.Step
import QuerySession.Proofs.RegistryCalls.Story
import QuerySession.Proofs.Removals.Alone
import QuerySession.Proofs.Removals.Forgetting
import QuerySession.Proofs.Removals.Step
import QuerySession.Proofs.Resolution
import QuerySession.Proofs.Schedules
import QuerySession.Proofs.SchemaPaths
import QuerySession.Proofs.Session
import QuerySession.Proofs.Settings.File
import QuerySession.Proofs.Settings.Form
import QuerySession.Proofs.SideBySide
import QuerySession.Proofs.Storage.Algebra
import QuerySession.Proofs.Storage.Clearing
import QuerySession.Proofs.Storage.Creation
import QuerySession.Proofs.Storage.DrainOrder
import QuerySession.Proofs.Storage.Effect
import QuerySession.Proofs.Storage.Erasure
import QuerySession.Proofs.Storage.Exit
import QuerySession.Proofs.Storage.Files
import QuerySession.Proofs.Storage.Folders
import QuerySession.Proofs.Storage.Names
import QuerySession.Proofs.Storage.Paths
import QuerySession.Proofs.Storage.Removal
import QuerySession.Proofs.Storage.Restored
import QuerySession.Proofs.Storage.Tree
import QuerySession.Proofs.TableHistory
import QuerySession.Proofs.TableLocations
import QuerySession.Proofs.Tables
import QuerySession.Proofs.Toml.Files
import QuerySession.Proofs.Toml.Texts
import QuerySession.Proofs.Toml.Trees
import QuerySession.Proofs.Toml.Values
import QuerySession.Proofs.Turns
import QuerySession.Proofs.Visits
import QuerySession.Properties
import QuerySession.Report.Basic
import QuerySession.Report.Simulation
import QuerySession.Schema.Tree
import QuerySession.Schema.Workspace
import QuerySession.Security.HttpLogin
import QuerySession.Security.NoContext
import QuerySession.Security.Provider
import QuerySession.Security.Recorded
import QuerySession.Security.Registry
import QuerySession.Security.Wire
import QuerySession.Session.Basic
import QuerySession.Session.Calls
import QuerySession.Session.ConcurrentSessions
import QuerySession.Session.Establish
import QuerySession.Session.Handles
import QuerySession.Session.Inquiries
import QuerySession.Session.LocationCalls
import QuerySession.Session.Locations
import QuerySession.Session.Registrations
import QuerySession.Session.RegistryCalls
import QuerySession.Session.Removals
import QuerySession.Session.Service
import QuerySession.Settings.Basic
import QuerySession.Settings.File
import QuerySession.Settings.Form
import QuerySession.Settings.Text
import QuerySession.Simulation.Play
import QuerySession.Simulation.Provider
import QuerySession.Simulation.Server
import QuerySession.Simulation.Storage
import QuerySession.Simulation.Url.Host
import QuerySession.Simulation.Url.Label
import QuerySession.Simulation.Url.Parser
import QuerySession.Simulation.WorkspaceTables
import QuerySession.Simulation.World
import QuerySession.Storage.Access
import QuerySession.Storage.Disk
import QuerySession.Storage.Local
import QuerySession.Storage.Path
import QuerySession.Storage.Shared
import QuerySession.Tables
import QuerySession.Text.Alphanumeric
import QuerySession.Text.Alphanumeric.Data
import QuerySession.Text.Blank
import QuerySession.Text.LowerCase
import QuerySession.Text.LowerCase.Data
import QuerySession.Text.Quoted
import QuerySession.Text.Quoted.Data
import QuerySession.Text.Ranges
import QuerySession.Text.Split
import QuerySession.Time.Date
import QuerySession.Time.Moment
import QuerySession.Toml.Reader
import QuerySession.Toml.Scalar
import QuerySession.Toml.Token
import QuerySession.Toml.Tree
import QuerySession.Toml.Writer
