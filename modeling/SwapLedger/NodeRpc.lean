import SwapLedger.Settings
import SwapLedger.Url
import SwapLedger.Wire

/-!
# Talking to nodes

A node is asked by a method and parameters, and answers with a result or a refusal. A node that is
asked too often says so; the request is then repeated a few times before it counts as failed.
-/

namespace SwapLedger

namespace Json

/-- Why a value is not of the expected kind. An integer where one is expected is of the right type,
but out of range. -/
def mismatch (expected : String) (json : Json) : String :=
  let found := match json with
    | .null | .unreadable => "null"
    | .bool value => "boolean `" ++ toString value ++ "`"
    | .integer value => "integer `" ++ toString value ++ "`"
    | .real _ => "floating point `" ++ json.compact ++ "`"
    | .string text => "string " ++ Text.quote text
    | .array _ => "sequence"
    | .object _ => "map"
  let fault := match json with
    | .integer _ => if expected = "u64" then "value" else "type"
    | _ => "type"
  "invalid " ++ fault ++ ": " ++ found ++ ", expected " ++ expected

end Json

/-- What a node says to a request. -/
inductive NodeAnswer where
  | result (json : Json)
  | refused (refusal : NodeRefusal)
  | failed (reason : String)

namespace NodeAnswer

/-- The answer in a text. What is no object in the place of an error is passed over. -/
def parse (body : String) : NodeAnswer :=
  match Json.parseWhole? body with
  | none => .failed "error decoding response body"
  | some json =>
    match json.member? "error" with
    | some (.object members) =>
      let error := Json.object members
      match error.field "code" Json.i64?, error.field "message" Json.string? with
      | some code, some message => .refused ⟨code.toInt, message⟩
      | _, _ => .failed ("RPC request error: " ++ error.compact)
    | _ => .result ((json.member? "result").getD .null)

/-- Reads a result of a kind, given what a refusal means. -/
def read {Value : Type} (expected : String) (decode : Json → Option Value)
    (refused : NodeRefusal → Failure) : NodeAnswer → Except Failure Value
  | .failed reason => .error (.rpcClient reason)
  | .refused refusal => .error (refused refusal)
  | .result json =>
    match decode json with
    | some value => .ok value
    | none => .error (.rpcClient (json.mismatch expected))

end NodeAnswer

namespace NodeRpc

/-- The URL to which requests are sent, in its normal form. It has to lead to a host of the web. -/
def endpoint (url : String) : Except String String :=
  match Url.parse url with
  | .error _ => .error "builder error"
  | .ok url =>
    if url.host.isSome ∧ ["http", "https"].contains url.scheme then .ok url.toText
    else .error ("builder error for url (" ++ url.toText ++ ")")

/-- What an HTTP status says. -/
def reason : Nat → String
  | 404 => "Not Found"
  | 429 => "Too Many Requests"
  | 500 => "Internal Server Error"
  | 503 => "Service Unavailable"
  | _ => "Other"

/-- The failure of a request that was answered with a status. -/
def statusFailure (url : String) (status : Nat) : String :=
  let side := if status < 500 then "client" else "server"
  let said := toString status ++ " " ++ reason status
  "HTTP status " ++ side ++ " error (" ++ said ++ ") for url (" ++ url ++ ")"

/-- How often a request is repeated when a node is asked too often. -/
def patience : Nat := 5

/-- How long to wait when a node is asked too often: for the seconds that it wishes, if these are
less than two minutes, and for half a second otherwise. -/
def waitMs (retryAfter : Option String) : Nat :=
  let wished := retryAfter.bind fun text =>
    let digits := if text.toList.head? = some '+' then text.toList.drop 1 else text.toList
    if digits ≠ [] ∧ digits.all Char.isDigit then (String.ofList digits).toNat? else none
  match wished with
  | some seconds => if seconds < 120 then seconds * 1000 else 500
  | none => 500

/-- How long to wait before the request is repeated, if the node is asked too often. -/
def wait? : NodeReply → Option Nat
  | .answered 429 retryAfter _ => some (waitMs retryAfter)
  | _ => none

/-- What a reply of the node at a URL says. -/
def answerOf (url : String) : NodeReply → NodeAnswer
  | .unreachable | .dropped => .failed ("error sending request for url (" ++ url ++ ")")
  | .answered status _ body =>
    if 200 ≤ status ∧ status < 300 then .parse body else .failed (statusFailure url status)

/-- Sends a request, repeating it as often as it may be. -/
def exchange (request : NodeRequest) : (repeats : Nat) → Program Wire NodeAnswer
  | 0 => do return answerOf request.url (← Wire.node request)
  | repeats + 1 => do
    let reply ← Wire.node request
    match wait? reply with
    | none => return answerOf request.url reply
    | some wait =>
      .pause wait
      exchange request repeats

/-- Asks the node at a URL. -/
def ask (url method : String) (params : List Json) : Program Wire NodeAnswer :=
  match endpoint url with
  | .error reason => return .failed reason
  | .ok url => exchange ⟨url, method, params⟩ patience

/-- What is asked about a block. -/
def blockOptions (commitment : Commitment) : Json :=
  .object [("encoding", .string "json"), ("transactionDetails", .string "full"),
    ("rewards", .bool false), ("commitment", .string commitment.label),
    ("maxSupportedTransactionVersion", .ofNat 0)]

/-- What is asked about a transaction. -/
def transactionOptions (commitment : Commitment) : Json :=
  .object [("encoding", .string "json"), ("commitment", .string commitment.label),
    ("maxSupportedTransactionVersion", .ofNat 0)]

/-- Makes a call of the node at a URL, once. -/
def call (url : String) (commitment : Commitment) :
    (call : NodeCall) → Program Wire call.Answer
  | .block slot => do
    let answer ← ask url "getBlock" [.ofNat slot.toNat, blockOptions commitment]
    return answer.read "struct UiConfirmedBlock" (EncodedBlock.ofJson? .value)
      (NodeRefusal.ofBlockCall slot.toNat)
  | .tip => do
    let answer ← ask url "getSlot" [.object [("commitment", .string commitment.label)]]
    return answer.read "u64" Json.u64? fun refusal => .rpcClient refusal.message
  | .transaction signature => do
    let answer ← ask url "getTransaction" [.string signature, transactionOptions commitment]
    return answer.read "struct EncodedConfirmedTransactionWithStatusMeta"
      ConfirmedTransaction.ofJson? fun refusal => .rpcClient refusal.message

end NodeRpc

end SwapLedger
