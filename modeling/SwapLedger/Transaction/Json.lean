import SwapLedger.Json.Shape
import SwapLedger.Transaction

/-!
# Transactions as JSON

The form in which transactions stand in work items. Each record is written with all its fields, in
the order of `fieldNames`; on reading, the loaded accounts, the invoked instructions and the
balances may be left out.
-/

namespace SwapLedger

namespace Instruction

/-- The fields of an instruction, in order. -/
def fieldNames : List String := ["program_id_index", "accounts", "data", "stack_height"]

/-- Reads an instruction. -/
def ofJson? (json : Json) : Option Instruction := do
  let fields ← json.fields? fieldNames
  return ⟨← fields.required "program_id_index" Json.u8?,
    ← fields.required "accounts" (Json.list? Json.u8?),
    ← fields.required "data" Json.string?,
    ← fields.optionalWithDefault "stack_height" Json.u32?⟩

/-- Writes an instruction. -/
def toJson (instruction : Instruction) : Json :=
  .object [
    ("program_id_index", .ofNat instruction.program.toNat),
    ("accounts", .ofList (fun number => .ofNat number.toNat) instruction.accounts),
    ("data", .string instruction.data),
    ("stack_height", .ofOption (fun height => .ofNat height.toNat) instruction.stackHeight)]

end Instruction

namespace InnerGroup

/-- The fields of a group, in order. -/
def fieldNames : List String := ["index", "instructions"]

/-- Reads a group. -/
def ofJson? (json : Json) : Option InnerGroup := do
  let fields ← json.fields? fieldNames
  return ⟨← fields.required "index" Json.u8?,
    ← fields.required "instructions" (Json.list? Instruction.ofJson?)⟩

/-- Writes a group. -/
def toJson (group : InnerGroup) : Json :=
  .object [("index", .ofNat group.index.toNat),
    ("instructions", .ofList Instruction.toJson group.instructions)]

end InnerGroup

namespace TokenBalance

/-- The fields of a balance, in order. -/
def fieldNames : List String := ["account_index", "mint", "owner", "amount", "decimals"]

/-- Reads a balance. -/
def ofJson? (json : Json) : Option TokenBalance := do
  let fields ← json.fields? fieldNames
  return ⟨← fields.required "account_index" Json.u8?, ← fields.required "mint" Json.string?,
    ← fields.required "owner" Json.string?, ← fields.required "amount" Json.string?,
    ← fields.required "decimals" Json.u8?⟩

/-- Writes a balance. -/
def toJson (balance : TokenBalance) : Json :=
  .object [
    ("account_index", .ofNat balance.account.toNat), ("mint", .string balance.mint),
    ("owner", .string balance.owner), ("amount", .string balance.amount),
    ("decimals", .ofNat balance.decimals.toNat)]

end TokenBalance

namespace Transaction

/-- The fields of a transaction, in order. -/
def fieldNames : List String :=
  ["signature", "account_keys", "loaded_writable", "loaded_readonly", "instructions",
    "inner_instructions", "pre_balances", "post_balances", "pre_token_balances",
    "post_token_balances"]

/-- Reads a transaction. -/
def ofJson? (json : Json) : Option Transaction := do
  let fields ← json.fields? fieldNames
  return ⟨← fields.required "signature" Json.string?,
    ← fields.required "account_keys" (Json.list? Json.string?),
    ← fields.withDefault "loaded_writable" [] (Json.list? Json.string?),
    ← fields.withDefault "loaded_readonly" [] (Json.list? Json.string?),
    ← fields.required "instructions" (Json.list? Instruction.ofJson?),
    ← fields.withDefault "inner_instructions" [] (Json.list? InnerGroup.ofJson?),
    ← fields.withDefault "pre_balances" [] (Json.list? Json.u64?),
    ← fields.withDefault "post_balances" [] (Json.list? Json.u64?),
    ← fields.withDefault "pre_token_balances" [] (Json.list? TokenBalance.ofJson?),
    ← fields.withDefault "post_token_balances" [] (Json.list? TokenBalance.ofJson?)⟩

/-- Writes a transaction. -/
def toJson (transaction : Transaction) : Json :=
  let amounts := Json.ofList fun (amount : UInt64) => Json.ofNat amount.toNat
  .object [
    ("signature", .string transaction.signature),
    ("account_keys", .ofList .string transaction.accountKeys),
    ("loaded_writable", .ofList .string transaction.loadedWritable),
    ("loaded_readonly", .ofList .string transaction.loadedReadonly),
    ("instructions", .ofList Instruction.toJson transaction.instructions),
    ("inner_instructions", .ofList InnerGroup.toJson transaction.innerGroups),
    ("pre_balances", amounts transaction.preBalances),
    ("post_balances", amounts transaction.postBalances),
    ("pre_token_balances", .ofList TokenBalance.toJson transaction.preTokenBalances),
    ("post_token_balances", .ofList TokenBalance.toJson transaction.postTokenBalances)]

end Transaction

end SwapLedger
