import AudioPolicy.Main
import AudioPolicy.Proofs.Candidates
import AudioPolicy.Proofs.Rules
import AudioPolicy.Proofs.Lifecycle
import AudioPolicy.Proofs.Replay
import AudioPolicy.Proofs.Reports
import AudioPolicy.Proofs.Deregistration
import AudioPolicy.Proofs.Registration
import AudioPolicy.Proofs.Convergence
import AudioPolicy.Proofs.RegistrationLists
import AudioPolicy.Proofs.Connecting
import AudioPolicy.Proofs.Naming
import AudioPolicy.Proofs.Numerals
import AudioPolicy.Proofs.Outcomes
import AudioPolicy.Proofs.Placeholders
import AudioPolicy.Proofs.Selection
import AudioPolicy.Proofs.Grammar
import AudioPolicy.Proofs.RoundTrip
import AudioPolicy.Proofs.Counting
import AudioPolicy.Proofs.NumericValues
import AudioPolicy.Proofs.NumericConditions
import AudioPolicy.Proofs.Denotation
import AudioPolicy.Proofs.Membership
import AudioPolicy.Proofs.Complements
import AudioPolicy.Proofs.ConditionSets
import AudioPolicy.Proofs.Namesakes
import AudioPolicy.Proofs.Classes
import AudioPolicy.Proofs.Volume
import AudioPolicy.Proofs.Reordering
import AudioPolicy.Proofs.Readings
import AudioPolicy.Proofs.SteadyQueries
import AudioPolicy.Proofs.DeclarationOrder
import AudioPolicy.Proofs.Limits
import AudioPolicy.Proofs.WholeWords
import AudioPolicy.Proofs.Payloads
import AudioPolicy.Proofs.TypedQueries
import AudioPolicy.Proofs.WrittenGrammar
import AudioPolicy.Proofs.Targets
import AudioPolicy.Proofs.Nesting
import AudioPolicy.Proofs.TriggerValues
import AudioPolicy.Proofs.ImpliedOrder
import AudioPolicy.Proofs.Tables
import AudioPolicy.Proofs.Restoring
import AudioPolicy.Proofs.Listings
import AudioPolicy.Proofs.ConnectionQueries
import AudioPolicy.Proofs.TargetLists
import AudioPolicy.Proofs.ClassFilling
import AudioPolicy.Proofs.Defaults
import AudioPolicy.Proofs.Queues
import AudioPolicy.Proofs.Frames
import AudioPolicy.Proofs.Redelivery
import AudioPolicy.Proofs.PropertyLists
import AudioPolicy.Proofs.Support
import AudioPolicy.Proofs.Recognition
import AudioPolicy.Proofs.BytePositions
import AudioPolicy.Proofs.Offsets
