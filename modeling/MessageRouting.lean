import MessageRouting.Config.Document
import MessageRouting.Main
import MessageRouting.Observability.Filter
import MessageRouting.Proofs.Config.Acceptance
import MessageRouting.Proofs.DeadLetter.Balance
import MessageRouting.Proofs.DeadLetter.Contents
import MessageRouting.Proofs.Engine.Bridging
import MessageRouting.Proofs.Header.LastWrite
import MessageRouting.Proofs.Header.Spelling
import MessageRouting.Proofs.Idempotent.Outcomes
import MessageRouting.Proofs.Idempotent.Success
import MessageRouting.Proofs.Polling.Lifecycle
import MessageRouting.Proofs.Redelivery.Accounting
import MessageRouting.Proofs.Redelivery.BackOff
import MessageRouting.Proofs.Redelivery.Frame
import MessageRouting.Proofs.Redelivery.Limits
import MessageRouting.Proofs.Redelivery.PatternLookup
import MessageRouting.Proofs.Redelivery.Recovery
import MessageRouting.Proofs.Redelivery.Renewal
import MessageRouting.Proofs.Redelivery.Resolution
import MessageRouting.Proofs.Redelivery.RunLaw
import MessageRouting.Proofs.Redelivery.Truthfulness
import MessageRouting.Proofs.Route.Arrival
import MessageRouting.Proofs.Route.Flattening
import MessageRouting.Proofs.Route.NoSilentLoss
import MessageRouting.Proofs.Route.Transparency
import MessageRouting.Proofs.Simulation.Summary
import MessageRouting.Proofs.UnitOfWork.Loss
import MessageRouting.Proofs.Value.Codec
import MessageRouting.Proofs.Value.Integral
import MessageRouting.Scenario.Basic
