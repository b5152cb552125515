import CardDuel.Config.Text
import CardDuel.Duel.Cache
import CardDuel.Duel.Snapshot
import CardDuel.Wire.State
import CardDuel.Proofs.Table.Edit
import CardDuel.Proofs.Table.Zones
import CardDuel.Proofs.Table.Agreement
import CardDuel.Proofs.Table.Shift
import CardDuel.Proofs.Table.Play
import CardDuel.Proofs.Run
import CardDuel.Proofs.Table.Setup
import CardDuel.Proofs.Table.Custody
import CardDuel.Proofs.Flow.Frame
import CardDuel.Proofs.Flow.Order
import CardDuel.Proofs.Flow.Shape
import CardDuel.Proofs.Flow.Loss
import CardDuel.Proofs.Flow.Verdict
import CardDuel.Proofs.Legal.Combination
import CardDuel.Proofs.Legal.Targets
import CardDuel.Proofs.Legal.Costs
import CardDuel.Proofs.Legal.Changes
import CardDuel.Proofs.Legal.Summons
import CardDuel.Proofs.Legal.Activations
import CardDuel.Proofs.Legal.Turns
import CardDuel.Proofs.Legal.Distinct
import CardDuel.Proofs.Flow.Turn
import CardDuel.Proofs.Legal.Coverage
import CardDuel.Proofs.Effect.Plan
import CardDuel.Proofs.Effect.Tree
import CardDuel.Proofs.Table.Deed
import CardDuel.Proofs.Limit.Records
import CardDuel.Proofs.Move.Basic
import CardDuel.Proofs.Move.Play
import CardDuel.Proofs.Limit.Bound
import CardDuel.Proofs.Chain.Account
import CardDuel.Proofs.Chain.Resolution
import CardDuel.Proofs.Catalog.Checked
import CardDuel.Proofs.Catalog.Load
import CardDuel.Proofs.Chain.Fitting
import CardDuel.Proofs.Continuous.Fresh
import CardDuel.Proofs.Continuous.Source
import CardDuel.Proofs.Chain.Operation
import CardDuel.Proofs.Move.Waiting
import CardDuel.Proofs.Chain.Pace
import CardDuel.Proofs.Attack.Story
import CardDuel.Proofs.Attack.Conclusion
import CardDuel.Proofs.Window.Batch
import CardDuel.Proofs.Move.Handling
import CardDuel.Proofs.Move.Stroke
import CardDuel.Proofs.Log.Account
import CardDuel.Proofs.Flow.Marks
import CardDuel.Proofs.Table.Posture
import CardDuel.Proofs.Chain.Spent
import CardDuel.Proofs.Log.Replay
import CardDuel.Proofs.Log.Omission
import CardDuel.Proofs.View.Secrecy
import CardDuel.Proofs.Window.Patience
import CardDuel.Proofs.Snapshot.State
import CardDuel.Proofs.Allowance.Turn
import CardDuel.Proofs.Continuous.Purity
import CardDuel.Proofs.Continuous.ClosedForm
import CardDuel.Proofs.Trigger.Payment
import CardDuel.Proofs.Trigger.Order
import CardDuel.Proofs.Catalog.Faultless
import CardDuel.Proofs.Trigger.Price
import CardDuel.Proofs.Flow.Sweep
import CardDuel.Proofs.Effect.Feasible
import CardDuel.Proofs.Effect.Confined
import CardDuel.Proofs.Chain.Failure
import CardDuel.Proofs.Flow.Handover
import CardDuel.Proofs.Legal.Timeout
import CardDuel.Proofs.Flow.Opening
import CardDuel.Proofs.Attack.Battle
import CardDuel.Proofs.Duel.Session
import CardDuel.Proofs.Flow.Settling
import CardDuel.Proofs.Catalog.Valid
import CardDuel.Proofs.Catalog.Written
import CardDuel.Proofs.Catalog.Blame
import CardDuel.Proofs.Catalog.Visit
import CardDuel.Proofs.Catalog.Report
import CardDuel.Proofs.Catalog.Place
import CardDuel.Proofs.Catalog.Independence
import CardDuel.Proofs.Catalog.Moved
import CardDuel.Proofs.Catalog.Reference
import CardDuel.Proofs.Catalog.Partition
import CardDuel.Proofs.Random.Shuffle
import CardDuel.Proofs.Legal.Selection
