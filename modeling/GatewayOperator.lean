import GatewayOperator.Assoc
import GatewayOperator.Backoff
import GatewayOperator.Bytes.Base64
import GatewayOperator.Bytes.Basic
import GatewayOperator.Bytes.Sha256
import GatewayOperator.Cluster
import GatewayOperator.ClusterApi
import GatewayOperator.CommandLine
import GatewayOperator.Decimal.Binary64
import GatewayOperator.Decimal.Shortest
import GatewayOperator.Diagnostics
import GatewayOperator.Dict
import GatewayOperator.Document
import GatewayOperator.Document.Fragment
import GatewayOperator.Document.Merge
import GatewayOperator.Document.OfJson
import GatewayOperator.Exposition
import GatewayOperator.Failure
import GatewayOperator.Gateway
import GatewayOperator.Gateway.Definition
import GatewayOperator.Gateway.Entry
import GatewayOperator.Gateway.EntryJson
import GatewayOperator.Gateway.Schema
import GatewayOperator.Gateway.Spec
import GatewayOperator.Gateway.Status
import GatewayOperator.Health
import GatewayOperator.Http.Address
import GatewayOperator.Http.Form
import GatewayOperator.Http.MediaType
import GatewayOperator.Http.Request
import GatewayOperator.Identity.Client
import GatewayOperator.Identity.Credential
import GatewayOperator.Identity.Provider
import GatewayOperator.Injection.Admission
import GatewayOperator.Injection.Annotations
import GatewayOperator.Injection.Changes
import GatewayOperator.Injection.Endpoint
import GatewayOperator.Injection.Patch
import GatewayOperator.Injection.Sidecar
import GatewayOperator.Json.Basic
import GatewayOperator.Json.Decode
import GatewayOperator.Json.Edit
import GatewayOperator.Json.Pointer
import GatewayOperator.Json.Reader
import GatewayOperator.Json.Token
import GatewayOperator.Kubeconfig
import GatewayOperator.Launch
import GatewayOperator.Main
import GatewayOperator.Measurement
import GatewayOperator.Number
import GatewayOperator.Powers
import GatewayOperator.Program
import GatewayOperator.Proofs.Attempts
import GatewayOperator.Proofs.Documents.IdentitySection
import GatewayOperator.Proofs.Documents.Layering
import GatewayOperator.Proofs.Documents.Ordering
import GatewayOperator.Proofs.Documents.Paths
import GatewayOperator.Proofs.Documents.RoundTrip
import GatewayOperator.Proofs.Documents.RuleByRule
import GatewayOperator.Proofs.Entries
import GatewayOperator.Proofs.Gateway.RoundTrip
import GatewayOperator.Proofs.Identity.Persistence
import GatewayOperator.Proofs.Identity.Protocol
import GatewayOperator.Proofs.Identity.Scopes
import GatewayOperator.Proofs.Identity.Sharing
import GatewayOperator.Proofs.Identity.StoredCredentials
import GatewayOperator.Proofs.Identity.Submissions
import GatewayOperator.Proofs.Injection.Atomicity
import GatewayOperator.Proofs.Injection.Bystanders
import GatewayOperator.Proofs.Injection.Classification
import GatewayOperator.Proofs.Injection.Coherence
import GatewayOperator.Proofs.Injection.Decoding
import GatewayOperator.Proofs.Injection.Environments
import GatewayOperator.Proofs.Injection.Flows
import GatewayOperator.Proofs.Injection.Footprints
import GatewayOperator.Proofs.Injection.Grammar
import GatewayOperator.Proofs.Injection.Groups
import GatewayOperator.Proofs.Injection.ObjectEdits
import GatewayOperator.Proofs.Injection.Owners
import GatewayOperator.Proofs.Injection.Ownership
import GatewayOperator.Proofs.Injection.PatchedWorkloads
import GatewayOperator.Proofs.Injection.Provenance
import GatewayOperator.Proofs.Injection.Readability
import GatewayOperator.Proofs.Injection.RecordedNames
import GatewayOperator.Proofs.Injection.Removals
import GatewayOperator.Proofs.Injection.Renewal
import GatewayOperator.Proofs.Injection.Replacements
import GatewayOperator.Proofs.Injection.Reviews
import GatewayOperator.Proofs.Injection.Skipping
import GatewayOperator.Proofs.Injection.Steps
import GatewayOperator.Proofs.Json.Carrying
import GatewayOperator.Proofs.Json.Edits
import GatewayOperator.Proofs.Json.MergePatch
import GatewayOperator.Proofs.Json.Objects
import GatewayOperator.Proofs.Json.Places
import GatewayOperator.Proofs.Json.Reading
import GatewayOperator.Proofs.Json.RoundTrip
import GatewayOperator.Proofs.Json.Tokens
import GatewayOperator.Proofs.Keeping
import GatewayOperator.Proofs.Layers
import GatewayOperator.Proofs.Platform
import GatewayOperator.Proofs.Provisioning
import GatewayOperator.Proofs.Refusals
import GatewayOperator.Proofs.Registering
import GatewayOperator.Proofs.Resolution
import GatewayOperator.Proofs.Rollout.Converging
import GatewayOperator.Proofs.Rollout.DelayBounds
import GatewayOperator.Proofs.Rollout.Delays
import GatewayOperator.Proofs.Rollout.Dependents
import GatewayOperator.Proofs.Rollout.Effects
import GatewayOperator.Proofs.Rollout.FailedPasses
import GatewayOperator.Proofs.Rollout.Histories
import GatewayOperator.Proofs.Rollout.Outcomes
import GatewayOperator.Proofs.Rollout.Passes
import GatewayOperator.Proofs.Rollout.Planning
import GatewayOperator.Proofs.Rollout.Retries
import GatewayOperator.Proofs.Rollout.Serving
import GatewayOperator.Proofs.Rollout.Settling
import GatewayOperator.Proofs.Rollout.Statuses
import GatewayOperator.Proofs.Rollout.Transitions
import GatewayOperator.Proofs.Rollout.UpdateFrame
import GatewayOperator.Proofs.Rollout.Workloads
import GatewayOperator.Proofs.Runs
import GatewayOperator.Proofs.Secrecy.Operator
import GatewayOperator.Proofs.Secrecy.Outlines
import GatewayOperator.Proofs.Secrecy.Programs
import GatewayOperator.Proofs.Secrecy.Resolving
import GatewayOperator.Proofs.Secrecy.Worlds
import GatewayOperator.Proofs.Sorting
import GatewayOperator.Proofs.Text.Integers
import GatewayOperator.Proofs.Text.Keys
import GatewayOperator.Proofs.Text.Trimming
import GatewayOperator.Proofs.Turns
import GatewayOperator.Proofs.Worlds
import GatewayOperator.Registration
import GatewayOperator.Resolution
import GatewayOperator.Resource.Data
import GatewayOperator.Resource.Deployment
import GatewayOperator.Resource.Metadata
import GatewayOperator.Resource.Pod
import GatewayOperator.Resource.Service
import GatewayOperator.Rollout.Desired
import GatewayOperator.Rollout.GeneratedConfigMap
import GatewayOperator.Rollout.HealthCheck
import GatewayOperator.Rollout.Plan
import GatewayOperator.Rollout.Reconcile
import GatewayOperator.Rollout.Report
import GatewayOperator.Rollout.Trigger
import GatewayOperator.Rollout.Watch
import GatewayOperator.Rollout.Workload
import GatewayOperator.Scalar
import GatewayOperator.Settings
import GatewayOperator.Source
import GatewayOperator.Startup
import GatewayOperator.Text.Blank
import GatewayOperator.Text.Case
import GatewayOperator.Text.Integer
import GatewayOperator.Text.Property
import GatewayOperator.Text.Property.CaseIgnorable
import GatewayOperator.Text.Property.Cased
import GatewayOperator.Text.Property.Extending
import GatewayOperator.Text.Property.LowerCase
import GatewayOperator.Text.Property.Unprintable
import GatewayOperator.Text.Quoted
import GatewayOperator.Tls.Certificate
import GatewayOperator.Tls.Der
import GatewayOperator.Tls.Listener
import GatewayOperator.Tls.Pem
import GatewayOperator.Tls.PrivateKey
import GatewayOperator.WellKnown
import GatewayOperator.World
import GatewayOperator.Yaml.Cursor
import GatewayOperator.Yaml.Event
import GatewayOperator.Yaml.Fault
import GatewayOperator.Yaml.Printer
import GatewayOperator.Yaml.Resolution
import GatewayOperator.Yaml.Style
import GatewayOperator.Yaml.ToJson
import GatewayOperator.Yaml.Token
import GatewayOperator.Yaml.Token.Lexer
import GatewayOperator.Yaml.Token.Property
import GatewayOperator.Yaml.Token.Scalar
import GatewayOperator.Yaml.Value
