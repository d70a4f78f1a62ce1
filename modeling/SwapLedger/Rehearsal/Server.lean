import SwapLedger.Schedule
import SwapLedger.Tables
import SwapLedger.SwapStore

/-!
# A scripted database

A database that keeps its tables and fails as scripted, and the pool of connections to it. A
connection that is idle may have been broken in the meantime; it is then replaced. Making a
connection is tried again, after longer and longer waits, as long as the database is starting up.
Whoever has to wait too long for a connection gets none.
-/

namespace SwapLedger

namespace Rehearsal

/-- What becomes of something that is said to the database. -/
inductive Fault where
  | refused (code reason : String)
  /-- The connection breaks. -/
  | drop
  /-- There is no answer. -/
  | hang

namespace Fault

/-- Whether the database is only starting up. -/
def isTransient : Fault → Bool
  | .refused code _ => code == "53300" || code == "57P03"
  | _ => false

/-- The failure that a fault leads to. -/
def failure : Fault → DatabaseFailure
  | .refused _ reason => .refused reason
  | .drop => .lost
  | .hang => .timedOut

end Fault

/-- A connection that a task is making. -/
structure Attempt where
  task : Nat
  /-- When the next try is made. -/
  next : Nat
  /-- How long to wait after that try. -/
  delay : Nat

/-- A pool of connections. -/
structure ConnectionPool where
  limit : Nat
  /-- The connections that nobody uses, the longest idle first, and whether they are sound. -/
  idle : List Bool
  /-- How many connections are used or being made. -/
  busy : Nat
  closed : Bool
  attempts : List Attempt

/-- What is found where a connection leads. -/
inductive Route where
  /-- The database. -/
  | database
  /-- A machine on which no database listens. -/
  | deaf
  /-- No machine, or none that will do. -/
  | failing (failure : DatabaseFailure)

namespace Route

/-- The names of this machine, on which the database listens. -/
def ownNames : List String := ["127.0.0.1", "localhost", "0.0.0.0"]

/-- What is found at a target. Nothing beyond this machine can be reached, and no name is known but
its own. -/
def of (target : DatabaseTarget) : Route :=
  let host := target.bareHost
  if target.socket.isSome then .failing (.unreachable "No such file or directory (os error 2)")
  else if ownNames.contains (Text.lowercase host) then
    if target.port ≠ DatabaseTarget.standardPort then .deaf
    else if target.encrypted then .failing .unencrypted
    else .database
  else if host.startsWith "127." ∨ host = "::1" then .deaf
  else if UrlHost.isAddress host.toList then
    .failing (.unreachable "Network is unreachable (os error 101)")
  else
    .failing (.unreachable
      "failed to lookup address information: Temporary failure in name resolution")

end Route

/-- A database with the pool of connections to it. -/
structure Server where
  tables : Tables
  /-- The faults of statements, by their short names. -/
  faults : List (String × List (Option Fault))
  /-- The faults of connections. -/
  connections : List (Option Fault)
  /-- Whether the database is running. -/
  up : Bool
  pool : ConnectionPool
  /-- Where the connections of the pool lead. -/
  route : Route
  /-- The rows that tasks have inserted and not committed. -/
  uncommitted : List (Nat × List SwapRecord)

namespace ConnectionPool

/-- A pool without connections. -/
def opened (limit : Nat) : ConnectionPool := ⟨limit, [], 0, false, []⟩

/-- How long to wait for a connection. -/
def patienceMs : Nat := 3000

/-- How long to wait after the first try to connect. -/
def firstDelayMs : Nat := 10

/-- How long to wait at most before the next try. -/
def greatestDelayMs : Nat := patienceMs / 5

variable (pool : ConnectionPool)

/-- The pool without the connection that a task is making. -/
def withoutAttempt (task : Nat) : ConnectionPool :=
  { pool with attempts := pool.attempts.filter (·.task != task) }

/-- The pool after the connection that a task was making has been given up. -/
def giveUp (task : Nat) : ConnectionPool :=
  if pool.attempts.any (·.task == task) then
    { pool.withoutAttempt task with busy := pool.busy - 1 }
  else pool

/-- The pool after a task has begun to make a connection. -/
def begin (moment : Moment) : ConnectionPool :=
  let attempt : Attempt := ⟨moment.task, moment.now, firstDelayMs⟩
  { pool with busy := pool.busy + 1, attempts := attempt :: pool.attempts }

/-- The pool after a connection has come back. -/
def giveBack (broken : Bool) : ConnectionPool :=
  { pool with
    busy := pool.busy - 1,
    idle := if broken || pool.closed then pool.idle else pool.idle ++ [true] }

/-- The pool after it has been closed. -/
def close : ConnectionPool := { pool with closed := true, idle := [] }

/-- The pool after all connections that nobody uses have broken. -/
def allBroken : ConnectionPool := { pool with idle := pool.idle.map fun _ => false }

end ConnectionPool

namespace Server

/-- A database with some tables and a pool that has not been opened. -/
def start (tables : Tables) : Server := ⟨tables, [], [], true, .opened 0, .database, []⟩

variable (server : Server)

/-- The database after its pool has changed. -/
def withPool (pool : ConnectionPool) : Server := { server with pool }

/-- Whether anybody accepts a connection, if only to break it off. -/
def accepts : Bool :=
  match server.route with
  | .database => server.up
  | .deaf => false
  | .failing .unencrypted => server.up
  | .failing _ => true

/-- Tries to make a connection, when it is time. -/
def attempt (moment : Moment) (attempt : Attempt) :
    Served Server (Except DatabaseFailure Unit) :=
  let deadline := moment.since + ConnectionPool.patienceMs
  let given := server.withPool (server.pool.giveUp moment.task)
  let wait (next : Nat) (server : Server) : Served Server (Except DatabaseFailure Unit) :=
    let later : Attempt :=
      ⟨moment.task, next, min (2 * attempt.delay) ConnectionPool.greatestDelayMs⟩
    let pool := server.pool.withoutAttempt moment.task
    .pending (some (min next deadline))
      (server.withPool { pool with attempts := later :: pool.attempts })
  if deadline ≤ moment.now then .answered (.error .timedOut) given
  else if moment.now < attempt.next then .pending (some (min attempt.next deadline)) server
  else if server.accepts = false then wait (moment.now + attempt.delay) server
  else if let .failing failure := server.route then .answered (.error failure) given
  else
    let rest := { server with connections := server.connections.tail }
    match server.connections.head? with
    | some (some .hang) => wait deadline rest
    | some (some fault) =>
      if fault.isTransient then wait (moment.now + attempt.delay) rest
      else
        .answered (.error fault.failure) { given with connections := server.connections.tail }
    | some none | none =>
      .answered (.ok ()) (rest.withPool (server.pool.withoutAttempt moment.task))

/-- Begins to make a connection. -/
def beginAttempt (moment : Moment) (pool : ConnectionPool) :
    Served Server (Except DatabaseFailure Unit) :=
  let begun := pool.begin moment
  match begun.attempts.head? with
  | some first => (server.withPool begun).attempt moment first
  | none => .pending none server

/-- Waits for a connection. -/
def acquire (moment : Moment) : Served Server (Except DatabaseFailure Unit) :=
  let pool := server.pool
  if pool.closed then .answered (.error .closed) server
  else
    match pool.attempts.find? (·.task == moment.task) with
    | some attempt => server.attempt moment attempt
    | none =>
      match pool.idle with
      | true :: rest =>
        .answered (.ok ()) (server.withPool { pool with idle := rest, busy := pool.busy + 1 })
      | false :: rest => server.beginAttempt moment { pool with idle := rest }
      | [] =>
        if pool.busy < pool.limit then server.beginAttempt moment pool
        else
          let deadline := moment.since + ConnectionPool.patienceMs
          if deadline ≤ moment.now then .answered (.error .timedOut) server
          else .pending (some deadline) server

/-- The rows that a task has inserted and not committed. -/
def rowsOf (task : Nat) : List SwapRecord :=
  ((server.uncommitted.find? (·.1 == task)).map (·.2)).getD []

/-- Remembers the rows that a task has inserted and not committed. -/
def withRows (task : Nat) (rows : List SwapRecord) : Server :=
  let others := server.uncommitted.filter (·.1 != task)
  { server with uncommitted := if rows.isEmpty then others else (task, rows) :: others }

/-- The next fault of a statement, and the database without it. -/
def takeFault (name : String) : Option Fault × Server :=
  match server.faults.find? (·.1 == name) with
  | none => (none, server)
  | some (_, script) =>
    let faults := server.faults.map fun (other, script) =>
      (other, if other == name then script.tail else script)
    (script.head?.join, { server with faults })

/-- Executes a statement of a task. -/
def execute (moment : Moment) (statement : Statement) :
    Except DatabaseFailure statement.Answer × Server :=
  match server.takeFault statement.name with
  | (some fault, server) =>
    (.error fault.failure, if fault.failure.breaks then server.withRows moment.task [] else server)
  | (none, server) =>
    let (answer, tables, rows) :=
      server.tables.apply moment.now (server.rowsOf moment.task) statement
    (.ok answer, { server with tables }.withRows moment.task rows)

/-- Answers the calls of the database. -/
def serve (moment : Moment) : (call : DatabaseCall) → Served Server call.Answer
  | .openPool target connections =>
    .answered () { server.withPool (.opened connections) with route := .of target }
  | .acquire => server.acquire moment
  | .execute statement =>
    let (answer, server) := server.execute moment statement
    .answered answer server
  | .giveBack broken => .answered () (server.withPool (server.pool.giveBack broken))
  | .close => .answered () (server.withPool server.pool.close)

/-- The database after a task has given up what it was waiting for. -/
def abandon (task : Nat) : Server :=
  (server.withPool (server.pool.giveUp task)).withRows task []

/-- The database after all its connections have been broken. -/
def kill : Server := server.withPool server.pool.allBroken

end Server

end Rehearsal

end SwapLedger
