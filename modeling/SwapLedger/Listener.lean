import SwapLedger.BlockStream
import SwapLedger.Services
import SwapLedger.SlotRange

/-!
# The listener

The listener receives blocks from the block stream, enters each into the ledger of processed blocks
and publishes its work items. Whenever the connection is lost it waits and connects again; the first
block that comes in afterwards shows whether blocks have been missed, and a backfill is started for
those.
-/

namespace SwapLedger

namespace BlockStream

/-- The node's answer to a subscription: the number of the subscription, or what is wrong. A message
that is no answer to it is passed over. -/
def consent? (text : String) : Option (Except String Slot) := do
  let fields ← (← Json.parse? text).fields? ["result", "error"]
  let number ← fields.optional "result" Json.u64?
  match ← fields.optional "error" Json.whole? with
  | some error => return .error ("blockSubscribe rejected: " ++ error.compact)
  | none => return .ok (← number)

end BlockStream

namespace Listener

/-- Publishes items up to the first that cannot be published. -/
def publishAll : List WorkItem → Program Services (Except Failure Unit)
  | [] => return .ok ()
  | item :: rest => do
    match ← Services.queue (.publish item) with
    | .ok () => publishAll rest
    | .error failure => return .error failure

/-- Deals with a block; answers how many items were published. -/
def handleBlock (slot : Slot) (block : EncodedBlock) : Program Services (Except Failure Nat) := do
  .reportAll (block.log slot)
  match ← Services.store (.markProcessed slot) with
  | .error failure => return .error failure
  | .ok () =>
    let items := block.items slot
    match ← publishAll items with
    | .error failure => return .error failure
    | .ok () =>
      Services.shared (.noteProcessed slot)
      return .ok items.length

/-- Starts a backfill for the blocks between the last one that was dealt with and the first one seen
afterwards, if there are any. -/
def recoverGap (clients : Nat) (firstSeen : Slot) : Program Services Unit := do
  match SlotRange.gap? (← Services.shared .lastProcessed) firstSeen with
  | none => return ()
  | some gap =>
    .report (.plain .warn .listener "Gap after reconnect, launching backfill"
      [("from", .number gap.first.toNat), ("to", .number gap.last.toNat)])
    if clients ≠ 0 then Services.shared (.launch (.backfill gap.first gap.last))

variable (configuration : Configuration)

/-- A listener that has not connected yet. -/
def initial : Listener := ⟨.apart configuration.listener.initialDelayMs.toNat, false⟩

/-- The connection is lost, for a reason. -/
def lose (reason : String) : Program Services (Option Listener) := do
  .report (.failure "Block listener" (Failure.connection reason).message)
  return some ⟨.apart configuration.listener.reconnectDelayMs.toNat, true⟩

/-- Deals with a text from the stream; answers whether a lost connection is still to be made up
for. -/
def receiveText (recovering : Bool) (text : String) : Program Services Bool := do
  match BlockNotification.parse? text with
  | none => return recovering
  | some notification =>
    if recovering then recoverGap configuration.rpcUrls.length notification.slot
    if let .error failure ← handleBlock notification.slot notification.block then
      .report (.failure ("Block listener slot " ++ toString notification.slot) failure.message)
    return false

/-- Connects and asks for blocks. -/
def connect (recovering : Bool) : Program Services (Option Listener) := do
  .report (.plain .info .listener "Connecting block subscription"
    [("ws_url", .shown (Redaction.redacted configuration.wsUrl))])
  match ← Services.stream .connect with
  | .error reason => lose configuration ("WebSocket connection failed: " ++ reason)
  | .ok () =>
    let request := BlockStream.subscription configuration.listener.commitment
    match ← Services.stream (.subscribe request) with
    | .error reason => lose configuration ("Failed to send subscription: " ++ reason)
    | .ok () => return some ⟨.subscribing, recovering⟩

/-- Deals with one message before the subscription is agreed to. -/
def awaitConsent (recovering : Bool) : Program Services (Option Listener) := do
  match ← Services.stream .receive with
  | .text text =>
    match BlockStream.consent? text with
    | none => return some ⟨.subscribing, recovering⟩
    | some (.error reason) => lose configuration reason
    | some (.ok number) =>
      .report (.plain .info .listener "Block subscription active"
        [("subscription_id", .number number.toNat)])
      return some ⟨.streaming, recovering⟩
  | .failed reason => lose configuration reason
  | .ended => lose configuration "stream closed before subscription"
  | .ping _ | .other | .closing => return some ⟨.subscribing, recovering⟩

/-- Deals with one message of the subscription. -/
def receive (recovering : Bool) : Program Services (Option Listener) := do
  match ← (Services.stream .receive).unlessStopped with
  | none => return none
  | some (.text text) => return some ⟨.streaming, ← receiveText configuration recovering text⟩
  | some (.ping payload) =>
    match ← Services.stream (.pong payload) with
    | .ok () => return some ⟨.streaming, recovering⟩
    | .error reason => lose configuration reason
  | some .other => return some ⟨.streaming, recovering⟩
  | some .closing | some .ended => lose configuration "block subscription closed"
  | some (.failed reason) => lose configuration reason

/-- The next step of a listener, who ends when it should come to an end. -/
def step (listener : Listener) : Program Services (Option Listener) :=
  match listener.phase with
  | .apart delayMs => do
    match ← (Program.pause delayMs).unlessStopped with
    | none => return none
    | some () => connect configuration listener.recovering
  | .subscribing => awaitConsent configuration listener.recovering
  | .streaming => receive configuration listener.recovering

/-- One turn of a listener. -/
def turn (listener : Listener) : Program Services (Option Job) := do
  match ← step configuration listener with
  | some next => return some (.listener next)
  | none =>
    .report (.plain .info .listener "Block listener stopped" [])
    return none

end Listener

end SwapLedger
