import AccessHarness.Cli
import AccessHarness.Main
import AccessHarness.Proofs.Access.Plans
import AccessHarness.Proofs.Access.Refinement
import AccessHarness.Proofs.Access.Refreshes
import AccessHarness.Proofs.Access.Snapshot
import AccessHarness.Proofs.Access.Wire
import AccessHarness.Proofs.Cli
import AccessHarness.Proofs.Identity.Hierarchy
import AccessHarness.Proofs.Json.Records
import AccessHarness.Proofs.Pipeline.Documents
import AccessHarness.Proofs.Pipeline.Forwarding
import AccessHarness.Proofs.Pipeline.Graphs
import AccessHarness.Proofs.Pipeline.Rounds
import AccessHarness.Proofs.Rest.Addresses
import AccessHarness.Proofs.Rest.Tokens
import AccessHarness.Proofs.Scenario.Deletion
import AccessHarness.Proofs.Scenario.Identities
import AccessHarness.Proofs.Scenario.KilledRuns
import AccessHarness.Proofs.Scenario.Order
import AccessHarness.Proofs.Scenario.Passes
import AccessHarness.Proofs.Scenario.Registered
import AccessHarness.Proofs.Scenario.Registrations
import AccessHarness.Proofs.Scenario.Remembering
import AccessHarness.Proofs.Scenario.Restraint
import AccessHarness.Proofs.Scenario.RoundTrip
import AccessHarness.Proofs.Scenario.Series
import AccessHarness.Proofs.Scenario.Teardown
import AccessHarness.Proofs.Url.Confinement
import AccessHarness.Proofs.Wait.Scaling
import AccessHarness.Session.Scripted
import AccessHarness.Proofs.Selection
import AccessHarness.Proofs.Settings
import AccessHarness.Proofs.Rest.Paths
import AccessHarness.Proofs.Rest.Runs
import AccessHarness.Proofs.Wait.Bounds
