import HubSearch.Amend.Basic
import HubSearch.Amend.ConfigMap
import HubSearch.Amend.Deployment
import HubSearch.Amend.Kind
import HubSearch.Amend.Rbac
import HubSearch.Amend.Service
import HubSearch.Amend.ServiceAccount
import HubSearch.Amend.Unstructured
import HubSearch.Cluster.Address
import HubSearch.Cluster.Client
import HubSearch.Cluster.Event
import HubSearch.Cluster.Exchange
import HubSearch.Cluster.Rehearsal
import HubSearch.Cluster.Server
import HubSearch.Component
import HubSearch.Condition
import HubSearch.Config.Arguments
import HubSearch.Config.Basic
import HubSearch.Config.Duration
import HubSearch.Controller
import HubSearch.DatabaseConfig
import HubSearch.Desired
import HubSearch.Dict
import HubSearch.Error
import HubSearch.Feature.Basic
import HubSearch.Feature.Lifecycle
import HubSearch.Feature.Resource
import HubSearch.Json.Basic
import HubSearch.Json.Canonical
import HubSearch.Json.Codec
import HubSearch.Json.Cursor
import HubSearch.Json.Document
import HubSearch.Json.Fault
import HubSearch.Json.Fraction
import HubSearch.Json.Patch
import HubSearch.Json.Pointer
import HubSearch.Json.Reader
import HubSearch.Json.Shape
import HubSearch.Json.Text
import HubSearch.Json.Written
import HubSearch.Main
import HubSearch.Object.ApiType
import HubSearch.Object.ConfigMap
import HubSearch.Object.Deployment
import HubSearch.Object.Kind
import HubSearch.Object.Meta
import HubSearch.Object.PersistentVolumeClaim
import HubSearch.Object.Pod
import HubSearch.Object.Rbac
import HubSearch.Object.Service
import HubSearch.Object.ServiceAccount
import HubSearch.Object.Unstructured
import HubSearch.Object.Volume
import HubSearch.Owner
import HubSearch.Pass
import HubSearch.Proofs.Amend.Deployment
import HubSearch.Proofs.Amend.Frame
import HubSearch.Proofs.Amend.Kind
import HubSearch.Proofs.Amend.Match
import HubSearch.Proofs.Amend.Order
import HubSearch.Proofs.Amend.SameSet
import HubSearch.Proofs.Condition
import HubSearch.Proofs.Condition.History
import HubSearch.Proofs.DatabaseConfig
import HubSearch.Proofs.DatabaseConfig.Clearing
import HubSearch.Proofs.DatabaseConfig.Effective
import HubSearch.Proofs.DatabaseConfig.History
import HubSearch.Proofs.DatabaseConfig.Lines
import HubSearch.Proofs.DatabaseConfig.Migration
import HubSearch.Proofs.DatabaseConfig.Release
import HubSearch.Proofs.Desired
import HubSearch.Proofs.Dict
import HubSearch.Proofs.Feature.Commute
import HubSearch.Proofs.Feature.FanOut
import HubSearch.Proofs.Feature.Leftover
import HubSearch.Proofs.Feature.Lifecycle
import HubSearch.Proofs.Feature.Machine
import HubSearch.Proofs.Feature.Prerequisites
import HubSearch.Proofs.Feature.Reconcile
import HubSearch.Proofs.Feature.Removal
import HubSearch.Proofs.Feature.Resource
import HubSearch.Proofs.Feature.Sweep
import HubSearch.Proofs.Feature.SwitchOff
import HubSearch.Proofs.Json.Canonical
import HubSearch.Proofs.Json.Document
import HubSearch.Proofs.Json.Patch
import HubSearch.Proofs.Json.Reread
import HubSearch.Proofs.Json.Text
import HubSearch.Proofs.Owner
import HubSearch.Proofs.Pass.Apply
import HubSearch.Proofs.Pass.Cleanup
import HubSearch.Proofs.Pass.Coexist
import HubSearch.Proofs.Pass.Converge
import HubSearch.Proofs.Pass.Edit
import HubSearch.Proofs.Pass.Footprint
import HubSearch.Proofs.Pass.Interleaving
import HubSearch.Proofs.Pass.Isolation
import HubSearch.Proofs.Pass.Lifetime
import HubSearch.Proofs.Pass.Status
import HubSearch.Proofs.Search.Faithful
import HubSearch.Proofs.Search.Reread
import HubSearch.Proofs.Store.Amid
import HubSearch.Proofs.Store.Call
import HubSearch.Proofs.Store.Faulty
import HubSearch.Proofs.Store.History
import HubSearch.Proofs.Store.Memory
import HubSearch.Proofs.Store.Plan
import HubSearch.Proofs.Store.Strict
import HubSearch.Proofs.Store.Twin
import HubSearch.Proofs.Sync
import HubSearch.Proofs.Sync.Attempt
import HubSearch.Proofs.Sync.Interleaving
import HubSearch.Proofs.Sync.Placement
import HubSearch.Proofs.Sync.Upsert
import HubSearch.Proofs.Sync.Version
import HubSearch.Proofs.Timestamp
import HubSearch.Search.Basic
import HubSearch.Search.Definition
import HubSearch.Store.Call
import HubSearch.Store.Memory
import HubSearch.Sync
import HubSearch.Text.Base64
import HubSearch.Text.Blank
import HubSearch.Text.Extending
import HubSearch.Text.Glyphless
import HubSearch.Text.Lines
import HubSearch.Text.Numeral
import HubSearch.Text.Quoted
import HubSearch.Timestamp
