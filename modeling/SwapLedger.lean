import SwapLedger.Candidate.Json
import SwapLedger.Log.Json
import SwapLedger.Main
import SwapLedger.Payload.Json
import SwapLedger.Proofs.AttemptScripts
import SwapLedger.Proofs.BackfillAccounts
import SwapLedger.Proofs.BalanceTables
import SwapLedger.Proofs.CheckedInstructions
import SwapLedger.Proofs.Claiming
import SwapLedger.Proofs.EventReports
import SwapLedger.Proofs.ForeignReports
import SwapLedger.Proofs.GapRecovery
import SwapLedger.Proofs.Grouping
import SwapLedger.Proofs.HeldCredits
import SwapLedger.Proofs.IdleInstructions
import SwapLedger.Proofs.Independence
import SwapLedger.Proofs.InvocationSubtrees
import SwapLedger.Proofs.KeyNumbering
import SwapLedger.Proofs.LookupWriting
import SwapLedger.Proofs.LostSwaps
import SwapLedger.Proofs.MonitorTicks
import SwapLedger.Proofs.NodeBlocks
import SwapLedger.Proofs.OwnerResolution
import SwapLedger.Proofs.PoolMembership
import SwapLedger.Proofs.Publication
import SwapLedger.Proofs.QueueHistory
import SwapLedger.Proofs.RedactedKeys
import SwapLedger.Proofs.Repairs
import SwapLedger.Proofs.Replacement
import SwapLedger.Proofs.Reprocessing
import SwapLedger.Proofs.RowDelivery
import SwapLedger.Proofs.ScalingSteps
import SwapLedger.Proofs.Settlement
import SwapLedger.Proofs.SharedEvents
import SwapLedger.Proofs.SoleHolder
import SwapLedger.Proofs.Soundness
import SwapLedger.Proofs.StackHeights
import SwapLedger.Proofs.StartupRecovery
import SwapLedger.Proofs.SwapInsertion
import SwapLedger.Proofs.Truncation
import SwapLedger.Proofs.UntouchedTransactions
import SwapLedger.Proofs.UsedTransfers
import SwapLedger.Proofs.WorkItemPayloads
import SwapLedger.Proofs.WorkerEnds
import SwapLedger.Rehearsal.Call
import SwapLedger.Rehearsal.Instance
import SwapLedger.Rehearsal.Outside.Consumer
import SwapLedger.TradeEvent.Json
