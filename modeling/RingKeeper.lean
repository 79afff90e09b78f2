import RingKeeper.Admin.Client
import RingKeeper.Admin.Tool
import RingKeeper.Bootstrap.Basic
import RingKeeper.Bootstrap.Rejoin
import RingKeeper.Bootstrap.Replace
import RingKeeper.Double.Basic
import RingKeeper.Double.Shortest
import RingKeeper.Fault
import RingKeeper.Json.Basic
import RingKeeper.Json.Fields
import RingKeeper.Json.Number
import RingKeeper.Json.Reader
import RingKeeper.Json.Shape
import RingKeeper.Json.Token
import RingKeeper.Json.Writer
import RingKeeper.Kube.Client
import RingKeeper.Kube.ConfigMap
import RingKeeper.Kube.Exchange
import RingKeeper.Kube.Metadata
import RingKeeper.Kube.Pod
import RingKeeper.Kube.Record
import RingKeeper.Kube.Schema.Container
import RingKeeper.Kube.Schema.Metadata
import RingKeeper.Kube.Schema.Pod
import RingKeeper.Kube.Schema.Storage
import RingKeeper.Kube.Volume
import RingKeeper.Main
import RingKeeper.Plan
import RingKeeper.Program.Basic
import RingKeeper.Program.Bootstrap
import RingKeeper.Program.Logging
import RingKeeper.Program.Recovery
import RingKeeper.Proofs.Admin.Warnings
import RingKeeper.Proofs.Bootstrap.CommitOrder
import RingKeeper.Proofs.Bootstrap.Decision
import RingKeeper.Proofs.Bootstrap.Exits
import RingKeeper.Proofs.Bootstrap.Jobs
import RingKeeper.Proofs.Bootstrap.LastAddress
import RingKeeper.Proofs.Bootstrap.LeftLock
import RingKeeper.Proofs.Bootstrap.Marker
import RingKeeper.Proofs.Bootstrap.OldNode
import RingKeeper.Proofs.Bootstrap.Polling
import RingKeeper.Proofs.Interleaving
import RingKeeper.Proofs.Json.Shape
import RingKeeper.Proofs.Kube.ConfigMap
import RingKeeper.Proofs.Kube.Volume
import RingKeeper.Proofs.Plan
import RingKeeper.Proofs.Recovery.Backoff
import RingKeeper.Proofs.Recovery.Bystander
import RingKeeper.Proofs.Recovery.CleanStart
import RingKeeper.Proofs.Recovery.Convergence
import RingKeeper.Proofs.Recovery.Deletions
import RingKeeper.Proofs.Recovery.FirstFlaw
import RingKeeper.Proofs.Recovery.ForeignVolumes
import RingKeeper.Proofs.Recovery.Halves
import RingKeeper.Proofs.Recovery.Interruption
import RingKeeper.Proofs.Recovery.PinnedVolumes
import RingKeeper.Proofs.Recovery.Requests
import RingKeeper.Proofs.Recovery.Retries
import RingKeeper.Proofs.Recovery.StoppingPoints
import RingKeeper.Proofs.Recovery.Stretches
import RingKeeper.Proofs.Recovery.Waning
import RingKeeper.Proofs.Registry.Api
import RingKeeper.Proofs.Registry.Contention
import RingKeeper.Proofs.Registry.Contest
import RingKeeper.Proofs.Registry.Contract
import RingKeeper.Proofs.Registry.Exclusion
import RingKeeper.Proofs.Registry.ExitStates
import RingKeeper.Proofs.Registry.Faults
import RingKeeper.Proofs.Registry.History
import RingKeeper.Proofs.Registry.OneEdit
import RingKeeper.Proofs.Registry.Outcomes
import RingKeeper.Proofs.Registry.Reentry
import RingKeeper.Proofs.Registry.Refinement
import RingKeeper.Proofs.Registry.Replies
import RingKeeper.Proofs.Registry.Shelf
import RingKeeper.Proofs.Registry.Steps
import RingKeeper.Proofs.Registry.Store
import RingKeeper.Proofs.Registry.Turns
import RingKeeper.Proofs.Retry
import RingKeeper.Proofs.Ring.Columns
import RingKeeper.Proofs.Ring.Incomplete
import RingKeeper.Proofs.Ring.Lines
import RingKeeper.Proofs.Ring.Printing
import RingKeeper.Proofs.Ring.Table
import RingKeeper.Proofs.Settings.Bootstrap
import RingKeeper.Proofs.Settings.Schema
import RingKeeper.Proofs.Span
import RingKeeper.Proofs.Table
import RingKeeper.Proofs.Text
import RingKeeper.Proofs.Timestamp
import RingKeeper.Recovery.Backoff
import RingKeeper.Recovery.Basic
import RingKeeper.Recovery.Cluster
import RingKeeper.Recovery.Controller
import RingKeeper.Recovery.Diagnosis
import RingKeeper.Recovery.Remote
import RingKeeper.Recovery.StartOver
import RingKeeper.Registry.Basic
import RingKeeper.Registry.Remote
import RingKeeper.Registry.Store
import RingKeeper.Rehearsal.Backoff
import RingKeeper.Rehearsal.Bootstrap
import RingKeeper.Rehearsal.Cluster
import RingKeeper.Rehearsal.Controller
import RingKeeper.Rehearsal.Files
import RingKeeper.Rehearsal.Machine
import RingKeeper.Rehearsal.Program
import RingKeeper.Rehearsal.Race
import RingKeeper.Rehearsal.Retry
import RingKeeper.Rehearsal.Server
import RingKeeper.Rehearsal.Store
import RingKeeper.Retry
import RingKeeper.Ring.Basic
import RingKeeper.Ring.Gossip
import RingKeeper.Ring.Grammar
import RingKeeper.Settings.Block
import RingKeeper.Settings.Bootstrap
import RingKeeper.Settings.Recovery
import RingKeeper.Settings.Schema
import RingKeeper.Span
import RingKeeper.Span.Grammar
import RingKeeper.Table
import RingKeeper.Text.Base64
import RingKeeper.Text.Blank
import RingKeeper.Text.CharSet.Basic
import RingKeeper.Text.CharSet.Table
import RingKeeper.Text.Character.Age
import RingKeeper.Text.Character.Break
import RingKeeper.Text.Character.Category
import RingKeeper.Text.Character.Folding
import RingKeeper.Text.Character.Name
import RingKeeper.Text.Character.Property
import RingKeeper.Text.Character.Script
import RingKeeper.Text.Lines
import RingKeeper.Text.Number
import RingKeeper.Text.Pattern.Basic
import RingKeeper.Text.Pattern.Bracket
import RingKeeper.Text.Pattern.Escape
import RingKeeper.Text.Pattern.Flags
import RingKeeper.Text.Pattern.Grammar
import RingKeeper.Text.Pattern.Size
import RingKeeper.Text.Utf8
import RingKeeper.Timestamp
import RingKeeper.Width
