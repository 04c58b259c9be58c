import ChatFlow.Main
import ChatFlow.Proofs.Activity
import ChatFlow.Proofs.Addresses
import ChatFlow.Proofs.Assignment
import ChatFlow.Proofs.Blocks
import ChatFlow.Proofs.Breakdown
import ChatFlow.Proofs.Calendar
import ChatFlow.Proofs.Channel
import ChatFlow.Proofs.Collisions
import ChatFlow.Proofs.Components
import ChatFlow.Proofs.Confinement
import ChatFlow.Proofs.ConversationAgreement
import ChatFlow.Proofs.Conversations
import ChatFlow.Proofs.Crossing
import ChatFlow.Proofs.Delays
import ChatFlow.Proofs.Digits
import ChatFlow.Proofs.Discretion
import ChatFlow.Proofs.Durability
import ChatFlow.Proofs.Exclusion
import ChatFlow.Proofs.Fates
import ChatFlow.Proofs.FlowCodec
import ChatFlow.Proofs.FlowText
import ChatFlow.Proofs.FormText
import ChatFlow.Proofs.Frame
import ChatFlow.Proofs.Handler
import ChatFlow.Proofs.History
import ChatFlow.Proofs.Identifier
import ChatFlow.Proofs.InPlace
import ChatFlow.Proofs.Index
import ChatFlow.Proofs.Interleaving
import ChatFlow.Proofs.Invariant
import ChatFlow.Proofs.Isolation
import ChatFlow.Proofs.Journey
import ChatFlow.Proofs.JsonText
import ChatFlow.Proofs.Keywords
import ChatFlow.Proofs.Leftovers
import ChatFlow.Proofs.Leniency
import ChatFlow.Proofs.Lines
import ChatFlow.Proofs.Literals
import ChatFlow.Proofs.Loading
import ChatFlow.Proofs.LockTable
import ChatFlow.Proofs.Logs
import ChatFlow.Proofs.Loops
import ChatFlow.Proofs.LowerCase
import ChatFlow.Proofs.Members
import ChatFlow.Proofs.Merging
import ChatFlow.Proofs.Minting
import ChatFlow.Proofs.Namespaces
import ChatFlow.Proofs.Numeral
import ChatFlow.Proofs.NumericText
import ChatFlow.Proofs.Origins
import ChatFlow.Proofs.Outages
import ChatFlow.Proofs.Parsing
import ChatFlow.Proofs.Passage
import ChatFlow.Proofs.PathReading
import ChatFlow.Proofs.Pausing
import ChatFlow.Proofs.Placeholders
import ChatFlow.Proofs.Queries
import ChatFlow.Proofs.Queueing
import ChatFlow.Proofs.ReadBack
import ChatFlow.Proofs.Reclaiming
import ChatFlow.Proofs.Rejection
import ChatFlow.Proofs.Renewal
import ChatFlow.Proofs.Resolution
import ChatFlow.Proofs.Restart
import ChatFlow.Proofs.Rounding
import ChatFlow.Proofs.RunningText
import ChatFlow.Proofs.Scaling
import ChatFlow.Proofs.Seeding
import ChatFlow.Proofs.Sending
import ChatFlow.Proofs.Setbacks
import ChatFlow.Proofs.Shortest
import ChatFlow.Proofs.Silence
import ChatFlow.Proofs.Stamp
import ChatFlow.Proofs.Starvation
import ChatFlow.Proofs.StepLimit
import ChatFlow.Proofs.Strictness
import ChatFlow.Proofs.SuspensionAgreement
import ChatFlow.Proofs.SuspensionCodec
import ChatFlow.Proofs.Suspensions
import ChatFlow.Proofs.Sweep
import ChatFlow.Proofs.Takeover
import ChatFlow.Proofs.Traversal
import ChatFlow.Proofs.Turn
import ChatFlow.Proofs.Validation
import ChatFlow.Proofs.Values
import ChatFlow.Proofs.Variables
import ChatFlow.Proofs.Visits
import ChatFlow.Proofs.Walks
import ChatFlow.Proofs.WholeDoubles
import ChatFlow.Proofs.Workers
