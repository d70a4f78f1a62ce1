import SwapLedger.Json.Writer
import SwapLedger.Redaction
import SwapLedger.Text.Quoted

/-!
# The log

An entry says what happened, how much it matters and which part of the program reports it. Its
fields come in a fixed order. Entries of a few kinds may be silenced; failures never are.
-/

namespace SwapLedger

/-- How much an entry matters. -/
inductive LogLevel where
  | error
  | warn
  | info
  | debug
  | trace
  deriving DecidableEq

namespace LogLevel

/-- All levels, the gravest first. -/
def all : List LogLevel := [.error, .warn, .info, .debug, .trace]

/-- The name of the level. -/
def label : LogLevel → String
  | .error => "ERROR"
  | .warn => "WARN"
  | .info => "INFO"
  | .debug => "DEBUG"
  | .trace => "TRACE"

/-- How chatty a log is that shows this level: the gravest level has the least number. -/
def verbosity : LogLevel → Nat
  | .error => 1
  | .warn => 2
  | .info => 3
  | .debug => 4
  | .trace => 5

end LogLevel

/-- A part of the program that writes to the log. -/
inductive LogSource where
  | commandLine
  | notices
  | backfill
  | indexer
  | listener
  | matchers
  | pool
  | retry
  | swaps
  | tableQueue
  | metadata
  | transfers
  | worker
  | workItems
  deriving DecidableEq

namespace LogSource

/-- The path under which the part writes to the log. -/
def path : LogSource → String
  | .commandLine => "swap_indexer"
  | .notices => "solana_swap_indexer::utils::logging"
  | .backfill => "solana_swap_indexer::core::backfill"
  | .indexer => "solana_swap_indexer::core::indexer"
  | .listener => "solana_swap_indexer::streams::block_listener"
  | .matchers => "solana_swap_indexer::core::matchers"
  | .pool => "solana_swap_indexer::core::execution::pool"
  | .retry => "solana_swap_indexer::utils::retry"
  | .swaps => "solana_swap_indexer::core::swaps"
  | .tableQueue => "solana_swap_indexer::queue::postgres"
  | .metadata => "solana_swap_indexer::storage::metadata"
  | .transfers => "solana_swap_indexer::core::transfers"
  | .worker => "solana_swap_indexer::core::execution::worker"
  | .workItems => "solana_swap_indexer::types::work"

end LogSource

/-- The value of a field. -/
inductive LogValue where
  /-- A text that is written in quotes. -/
  | quoted (text : String)
  /-- A text that is written as it stands. -/
  | shown (text : String)
  deriving DecidableEq

namespace LogValue

/-- A number in decimal. -/
def number (value : Nat) : LogValue := .shown (toString value)

/-- The text itself. -/
def text : LogValue → String
  | .quoted text => text
  | .shown text => text

end LogValue

namespace LogValue

/-- The value as it is written into a line. -/
def written : LogValue → String
  | .quoted text => Text.quote text
  | .shown text => text

end LogValue

/-- Something that happened. -/
structure LogEntry where
  level : LogLevel
  source : LogSource
  message : String
  fields : List (String × LogValue)
  /-- Whether the entry is left out when the log is silenced. -/
  silenceable : Bool
  deriving DecidableEq

namespace LogEntry

variable (entry : LogEntry)

/-- The line of an entry: level, source, message and fields. -/
def line : String :=
  let fields := entry.fields.map fun (name, value) => " " ++ name ++ "=" ++ value.written
  entry.level.label ++ " " ++ entry.source.path ++ ": " ++ entry.message ++ String.join fields

/-- An entry that is never silenced. -/
def plain (level : LogLevel) (source : LogSource) (message : String)
    (fields : List (String × LogValue)) : LogEntry :=
  ⟨level, source, message, fields, false⟩

/-- An entry that is left out when the log is silenced. -/
def notice (level : LogLevel) (message : String) (fields : List (String × LogValue)) : LogEntry :=
  ⟨level, .notices, message, fields, true⟩

/-- The indexer starts. -/
def startup (rpcUrls : List String) (wsUrl : String) (workers : Nat) : LogEntry :=
  let urls := rpcUrls.map fun url => Text.quote (Redaction.redacted url)
  .notice .info "Swap indexer startup"
    [("rpc_urls", .shown ("[" ++ ", ".intercalate urls ++ "]")),
      ("ws_url", .shown (Redaction.redacted wsUrl)), ("baseline_workers", .number workers)]

/-- A work item has been dealt with. One without swaps matters less. -/
def batch (slot transactions swaps durationMs : Nat) : LogEntry :=
  if 0 < swaps then
    .notice .info "Work item processed"
      [("slot", .number slot), ("transactions", .number transactions), ("swaps", .number swaps),
        ("duration_ms", .number durationMs)]
  else
    .notice .debug "Work item processed"
      [("slot", .number slot), ("transactions", .number transactions),
        ("duration_ms", .number durationMs)]

/-- The pool changes its size; nothing is said where it does not. -/
def poolResize? (depth before after prefetch : Nat) : Option LogEntry :=
  if before = after then none
  else
    some (.notice .info "Resizing worker pool"
      [("depth", .number depth), ("from", .number before), ("to", .number after),
        ("prefetch", .number prefetch)])

/-- Something went wrong. -/
def failure (context reason : String) : LogEntry :=
  .plain .error .notices "Swap indexer error"
    [("context", .quoted context), ("error", .quoted reason)]

end LogEntry

end SwapLedger
