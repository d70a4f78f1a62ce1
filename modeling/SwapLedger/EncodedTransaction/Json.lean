import SwapLedger.EncodedTransaction
import SwapLedger.EncodedTransaction.ExecutionError
import SwapLedger.Json.Whole

/-!
# Encoded transactions as JSON

The form in which the node answers. Where a value may have several forms, the first one that fits is
taken, so a message without account keys counts as interpreted; to try one form after the other,
such a value has to be whole. Everything is checked, also what is not kept.
-/

namespace SwapLedger

namespace EncodedTransaction

/-- What is read only to be checked. -/
def checked {α : Type} (read : Json → Option α) (json : Json) : Option Unit :=
  (read json).map fun _ => ()

/-- Any value. -/
def anything (_ : Json) : Option Unit := some ()

/-- The instruction forms that are given as sent. -/
def compiled? (json : Json) : Option Instruction := do
  let fields ← json.fields? ["programIdIndex", "accounts", "data", "stackHeight"]
  return ⟨← fields.required "programIdIndex" Json.u8?,
    ← fields.required "accounts" (Json.list? Json.u8?), ← fields.required "data" Json.string?,
    ← fields.optional "stackHeight" Json.u32?⟩

/-- An instruction whose meaning is told. -/
def explained? (json : Json) : Option Unit := do
  let fields ← json.fields? ["program", "programId", "parsed", "stackHeight"]
  let _ ← fields.required "program" Json.string?
  let _ ← fields.required "programId" Json.string?
  fields.required "parsed" anything
  let _ ← fields.optional "stackHeight" Json.u32?

/-- An instruction whose accounts are told by address. -/
def resolved? (json : Json) : Option Unit := do
  let fields ← json.fields? ["programId", "accounts", "data", "stackHeight"]
  let _ ← fields.required "programId" Json.string?
  let _ ← fields.required "accounts" (Json.list? Json.string?)
  let _ ← fields.required "data" Json.string?
  let _ ← fields.optional "stackHeight" Json.u32?

/-- An instruction in any form. -/
def instruction? (json : Json) : Option EncodedInstruction := do
  let json ← json.whole?
  ((compiled? json).map .compiled).or
    (((explained? json).or (resolved? json)).map fun _ => .interpreted)

/-- An account with what may be done with it. -/
def accountUse? (json : Json) : Option Unit := do
  let fields ← json.fields? ["pubkey", "writable", "signer", "source"]
  let _ ← fields.required "pubkey" Json.string?
  let _ ← fields.required "writable" Json.bool?
  let _ ← fields.required "signer" Json.bool?
  let _ ← fields.optional "source" (Json.choice? [("transaction", ()), ("lookupTable", ())])

/-- A use of a look-up table. -/
def tableUse? (json : Json) : Option Unit := do
  let fields ← json.fields? ["accountKey", "writableIndexes", "readonlyIndexes"]
  let _ ← fields.required "accountKey" Json.string?
  let _ ← fields.required "writableIndexes" (Json.list? Json.u8?)
  let _ ← fields.required "readonlyIndexes" (Json.list? Json.u8?)

/-- A message that the node has interpreted. -/
def interpretedMessage? (json : Json) : Option Unit := do
  let fields ← json.fields?
    ["accountKeys", "recentBlockhash", "instructions", "addressTableLookups"]
  let _ ← fields.required "accountKeys" (Json.list? accountUse?)
  let _ ← fields.required "recentBlockhash" Json.string?
  let _ ← fields.required "instructions" (Json.list? instruction?)
  let _ ← fields.optional "addressTableLookups" (Json.list? tableUse?)

/-- The counts at the head of a message. -/
def header? (json : Json) : Option Unit := do
  let fields ← json.fields?
    ["numRequiredSignatures", "numReadonlySignedAccounts", "numReadonlyUnsignedAccounts"]
  let _ ← fields.required "numRequiredSignatures" Json.u8?
  let _ ← fields.required "numReadonlySignedAccounts" Json.u8?
  let _ ← fields.required "numReadonlyUnsignedAccounts" Json.u8?

/-- A message as it was sent. -/
def rawMessage? (json : Json) : Option EncodedMessage := do
  let fields ← json.fields?
    ["header", "accountKeys", "recentBlockhash", "instructions", "addressTableLookups"]
  fields.required "header" header?
  let accountKeys ← fields.required "accountKeys" (Json.list? Json.string?)
  let _ ← fields.required "recentBlockhash" Json.string?
  let instructions ← fields.required "instructions" (Json.list? compiled?)
  let _ ← fields.optionalWithDefault "addressTableLookups" (Json.list? tableUse?)
  return .raw accountKeys instructions

/-- A message. -/
def message? (json : Json) : Option EncodedMessage :=
  ((interpretedMessage? json).map fun _ => .interpreted).or (rawMessage? json)

/-- A transaction that is spelled out. -/
def spelledOut? (json : Json) : Option EncodedBody := do
  let fields ← json.fields? ["signatures", "message"]
  return .spelledOut (← fields.required "signatures" (Json.list? Json.string?))
    (← fields.required "message" message?)

/-- A list of the accounts that take part. -/
def accountList? (json : Json) : Option EncodedBody := do
  let fields ← json.fields? ["signatures", "accountKeys"]
  let _ ← fields.required "signatures" (Json.list? Json.string?)
  let _ ← fields.required "accountKeys" (Json.list? accountUse?)
  return .accounts

/-- A transaction in any encoding. -/
def body? (json : Json) : Option EncodedBody := do
  let json ← json.whole?
  (binary? json).or ((spelledOut? json).or (accountList? json))
where
  /-- The bytes of a transaction, alone or with the name of their encoding. -/
  binary? : Json → Option EncodedBody
    | .string _ => some .binary
    | .array [.string _, encoding] =>
      (Json.choice? [("base58", ()), ("base64", ())] encoding).map fun _ => .binary
    | _ => none

/-- A group of invoked instructions. -/
def group? (json : Json) : Option EncodedGroup := do
  let fields ← json.fields? ["index", "instructions"]
  return ⟨← fields.required "index" Json.u8?,
    ← fields.required "instructions" (Json.list? instruction?)⟩

/-- An amount of tokens: its text and its decimal places. -/
def tokenAmount? (json : Json) : Option (String × UInt8) := do
  let fields ← json.fields? ["uiAmount", "decimals", "amount", "uiAmountString"]
  let _ ← fields.optional "uiAmount" Json.binary64?
  let decimals ← fields.required "decimals" Json.u8?
  let amount ← fields.required "amount" Json.string?
  let _ ← fields.required "uiAmountString" Json.string?
  return (amount, decimals)

/-- What a token account held. -/
def tokenBalance? (json : Json) : Option TokenBalance := do
  let fields ← json.fields? ["accountIndex", "mint", "uiTokenAmount", "owner", "programId"]
  let account ← fields.required "accountIndex" Json.u8?
  let mint ← fields.required "mint" Json.string?
  let (amount, decimals) ← fields.required "uiTokenAmount" tokenAmount?
  let owner ← fields.optionalWithDefault "owner" Json.string?
  let _ ← fields.optionalWithDefault "programId" Json.string?
  return ⟨account, mint, owner.getD "", amount, decimals⟩

/-- A reward paid out with a block. -/
def reward? (source : Json.Source) (json : Json) : Option Unit := do
  let fields ← json.fields? ["pubkey", "lamports", "postBalance", "rewardType", "commission"]
  let _ ← fields.required "pubkey" Json.string?
  let _ ← fields.required "lamports" Json.i64?
  let _ ← fields.required "postBalance" Json.u64?
  let _ ← fields.optional "rewardType"
    (Json.choiceFrom? source [("Fee", ()), ("Rent", ()), ("Staking", ()), ("Voting", ())])
  let _ ← fields.optional "commission" Json.u8?

/-- The accounts loaded from look-up tables: the writable ones and the others. -/
def loadedAddresses? (json : Json) : Option (List Address × List Address) := do
  let fields ← json.fields? ["writable", "readonly"]
  return (← fields.required "writable" (Json.list? Json.string?),
    ← fields.required "readonly" (Json.list? Json.string?))

/-- What the last program returned. -/
def returnData? (source : Json.Source) (json : Json) : Option Unit := do
  let fields ← json.fields? ["programId", "data"]
  let _ ← fields.required "programId" Json.string?
  fields.required "data" fun
    | .array [.string _, encoding] => Json.choiceFrom? source [("base64", ())] encoding
    | _ => none

/-- The record of what a transaction did. -/
def record? (source : Json.Source) (json : Json) : Option ExecutionRecord := do
  let fields ← json.fields? ["err", "status", "fee", "preBalances", "postBalances",
    "innerInstructions", "logMessages", "preTokenBalances", "postTokenBalances", "rewards",
    "loadedAddresses", "returnData", "computeUnitsConsumed", "costUnits"]
  let error ← fields.optional "err" (ExecutionError.ofJson? source)
  fields.required "status" (ExecutionError.outcome? source)
  let _ ← fields.required "fee" Json.u64?
  let preBalances ← fields.required "preBalances" (Json.list? Json.u64?)
  let postBalances ← fields.required "postBalances" (Json.list? Json.u64?)
  let groups ← fields.optionalWithDefault "innerInstructions" (Json.list? group?)
  let _ ← fields.optionalWithDefault "logMessages" (Json.list? Json.string?)
  let preTokens ← fields.optionalWithDefault "preTokenBalances" (Json.list? tokenBalance?)
  let postTokens ← fields.optionalWithDefault "postTokenBalances" (Json.list? tokenBalance?)
  let _ ← fields.optionalWithDefault "rewards" (Json.list? (reward? source))
  let loaded ← fields.optionalWithDefault "loadedAddresses" loadedAddresses?
  let _ ← fields.optionalWithDefault "returnData" (returnData? source)
  let _ ← fields.optionalWithDefault "computeUnitsConsumed" Json.u64?
  let _ ← fields.optionalWithDefault "costUnits" Json.u64?
  let (loadedWritable, loadedReadonly) := loaded.getD ([], [])
  return ⟨error.isSome, preBalances, postBalances, groups.getD [], preTokens.getD [],
    postTokens.getD [], loadedWritable, loadedReadonly⟩

/-- The version of a transaction. -/
def version? (json : Json) : Option Unit :=
  (Json.choice? [("legacy", ())] json).or (checked Json.u8? json)

/-- Reads the fields of an encoded transaction. -/
def ofFields? (source : Json.Source) (fields : Json.Fields) : Option EncodedTransaction := do
  let body ← fields.required "transaction" body?
  let record ← fields.optional "meta" (record? source)
  let _ ← fields.optionalWithDefault "version" version?
  return ⟨body, record⟩

/-- The fields of an encoded transaction, in order. -/
def fieldNames : List String := ["transaction", "meta", "version"]

/-- Reads an encoded transaction. -/
def ofJson? (source : Json.Source) (json : Json) : Option EncodedTransaction := do
  ofFields? source (← json.fields? fieldNames)

end EncodedTransaction

end SwapLedger
