import BatchExec.Main
import BatchExec.Proofs.Accounts
import BatchExec.Proofs.Agreement
import BatchExec.Proofs.Concurrency
import BatchExec.Proofs.Journal
import BatchExec.Proofs.WindDown
import BatchExec.Schedule.Work
import BatchExec.Single
import BatchExec.Proofs.Pool.Journal
import BatchExec.Proofs.Stream.Journal
import BatchExec.Proofs.Faults
import BatchExec.Proofs.Departure
import BatchExec.Proofs.Loop
import BatchExec.Proofs.Commands
import BatchExec.Proofs.Ledger
import BatchExec.Proofs.Delivery
import BatchExec.Proofs.Slots
import BatchExec.Proofs.Greed
import BatchExec.Proofs.Rounding
import BatchExec.Proofs.Demand
import BatchExec.Proofs.Pool.Demand
import BatchExec.Proofs.Runners
import BatchExec.Proofs.Vigil
import BatchExec.Proofs.Stream.Demand
import BatchExec.Proofs.SourceFailure
import BatchExec.Proofs.Parting
import BatchExec.Proofs.BackPressure
import BatchExec.Proofs.CommandWords
import BatchExec.Proofs.Utf8
import BatchExec.Proofs.Words
import BatchExec.Proofs.Literal
import BatchExec.Proofs.Signals
import BatchExec.Proofs.Division
import BatchExec.Proofs.LineByLine
import BatchExec.Proofs.Grouping
import BatchExec.Proofs.LateNotice
import BatchExec.Proofs.ShellWords
import BatchExec.Proofs.ChunkByChunk
import BatchExec.Proofs.Overdraft
import BatchExec.Proofs.Pool.CallOff
import BatchExec.Proofs.Stream.CallOff
import BatchExec.Proofs.Stream.SingleFile
import BatchExec.Proofs.CallOff
import BatchExec.Proofs.Escape
import BatchExec.Proofs.Validation
import BatchExec.Proofs.Readiness
import BatchExec.Proofs.ProgressBar
import BatchExec.Proofs.Collection
