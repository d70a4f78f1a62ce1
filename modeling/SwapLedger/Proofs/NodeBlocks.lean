import SwapLedger.EncodedBlock
import SwapLedger.Proofs.WorkItemPayloads

/-!
# Blocks between the node and the queue

A node that spells out a block, transaction by transaction, is understood: every transaction that
succeeded becomes one work item that holds it unchanged, and a transaction that failed becomes none.
The one exception is a transaction without account keys of its own, which is taken for one that the
node has interpreted.
-/

namespace SwapLedger

namespace Json

/-- An object nests one level deeper than its members. -/
theorem ordinary_object_iff {depth : Nat} {members : List (String × Json)} :
    Ordinary (depth + 1) (.object members) ↔ ∀ member ∈ members, Ordinary depth member.2 := by
  constructor
  · rintro ⟨⟩
    assumption
  · exact .object

/-- An array nests one level deeper than its items. -/
theorem ordinary_array_iff {depth : Nat} {items : List Json} :
    Ordinary (depth + 1) (.array items) ↔ ∀ item ∈ items, Ordinary depth item := by
  constructor
  · rintro ⟨⟩
    assumption
  · exact .array

/-- What can be written and read back can be read in all its parts. -/
theorem Ordinary.isWhole {depth : Nat} {json : Json} (ordinary : Ordinary depth json) :
    json.isWhole = true := by
  induction ordinary with
  | null | bool | integer | string => simp [Json.isWhole]
  | @array _ items _ wholeItems =>
      simp only [Json.isWhole]
      induction items with
      | nil => simp [areWhole]
      | cons item items ih =>
          simp only [List.forall_mem_cons] at *
          simp_all [areWhole]
  | @object _ members _ wholeMembers =>
      simp only [Json.isWhole]
      induction members with
      | nil => simp [areMembersWhole]
      | cons member members ih =>
          simp only [List.forall_mem_cons] at *
          simp_all [areMembersWhole]

theorem Ordinary.whole? {depth : Nat} {json : Json} (ordinary : Ordinary depth json) :
    json.whole? = some json := by
  rw [Json.whole?, if_pos ordinary.isWhole]

theorem Fields.optional_eq_optionalWithDefault {Item : Type} (fields : Fields) (name : String)
    (read : Json → Option Item) {json : Json} (found : fields.get? name = some json) :
    fields.optional name read = fields.optionalWithDefault name read := by
  simp only [optional, optionalWithDefault, found]
  cases json <;> rfl

/-- A field that is there and is not null is read, and its reading has to succeed. -/
theorem Fields.optionalWithDefault_of_ne_null {Item : Type} (fields : Fields) (name : String)
    {read : Json → Option Item} {json : Json} (found : fields.get? name = some json)
    (json_ne : json ≠ .null) : fields.optionalWithDefault name read = (read json).map some := by
  cases json
  case null => exact absurd rfl json_ne
  all_goals simp only [optionalWithDefault, found]

theorem Fields.optionalWithDefault_ofList {Item Kept : Type} (fields : Fields) (name : String)
    {read : Json → Option Kept} {write : Item → Json} {kept : Item → Kept} {items : List Item}
    (found : fields.get? name = some (ofList write items))
    (reads : ∀ item, read (write item) = some (kept item)) :
    fields.optionalWithDefault name (list? read) = some (some (items.map kept)) := by
  rw [fields.optionalWithDefault_of_ne_null name found nofun, list?_ofList_map reads,
    Option.map_some]

end Json

/-- A transaction of a block, and how it ended. -/
structure BlockEntry where
  transaction : Transaction
  failed : Bool
  deriving DecidableEq

/-- A block as the node knows it. -/
structure NodeBlock where
  slot : Slot
  time : Option Timestamp
  entries : List BlockEntry
  deriving DecidableEq

/-! ### What the node writes -/

namespace NodeBlock

def someHash : String := "11111111111111111111111111111111"

def someHeader : Json :=
  .object [("numRequiredSignatures", .ofNat 1), ("numReadonlySignedAccounts", .ofNat 0),
    ("numReadonlyUnsignedAccounts", .ofNat 1)]

end NodeBlock

namespace Instruction

def spellOut (instruction : Instruction) : Json :=
  .object [
    ("programIdIndex", .ofNat instruction.program.toNat),
    ("accounts", .ofList (fun number => .ofNat number.toNat) instruction.accounts),
    ("data", .string instruction.data),
    ("stackHeight", .ofOption (fun height => .ofNat height.toNat) instruction.stackHeight)]

end Instruction

namespace InnerGroup

def spellOut (group : InnerGroup) : Json :=
  .object [("index", .ofNat group.index.toNat),
    ("instructions", .ofList Instruction.spellOut group.instructions)]

end InnerGroup

namespace TokenBalance

def spellOut (balance : TokenBalance) : Json :=
  .object [
    ("accountIndex", .ofNat balance.account.toNat), ("mint", .string balance.mint),
    ("owner", .string balance.owner),
    ("uiTokenAmount", .object [
      ("uiAmount", .null), ("decimals", .ofNat balance.decimals.toNat),
      ("amount", .string balance.amount), ("uiAmountString", .string balance.amount)])]

end TokenBalance

namespace Transaction

variable (transaction : Transaction)

/-- What a transaction asks for, as it was sent. -/
def message : Json :=
  .object [
    ("header", NodeBlock.someHeader),
    ("accountKeys", .ofList .string transaction.accountKeys),
    ("recentBlockhash", .string NodeBlock.someHash),
    ("instructions", .ofList Instruction.spellOut transaction.instructions)]

/-- What a transaction did; one that failed did so in its first instruction. -/
def record (failed : Bool) : Json :=
  let amounts := Json.ofList fun (amount : UInt64) => Json.ofNat amount.toNat
  .object [
    ("err", if failed then
      .object [("InstructionError", .array [.ofNat 0, .string "InvalidAccountData"])] else .null),
    ("status", .object [("Ok", .null)]), ("fee", .ofNat 5000),
    ("preBalances", amounts transaction.preBalances),
    ("postBalances", amounts transaction.postBalances),
    ("innerInstructions", .ofList InnerGroup.spellOut transaction.innerGroups),
    ("preTokenBalances", .ofList TokenBalance.spellOut transaction.preTokenBalances),
    ("postTokenBalances", .ofList TokenBalance.spellOut transaction.postTokenBalances),
    ("loadedAddresses", .object [
      ("writable", .ofList .string transaction.loadedWritable),
      ("readonly", .ofList .string transaction.loadedReadonly)])]

end Transaction

namespace BlockEntry

def body (entry : BlockEntry) : Json :=
  .object [("signatures", .array [.string entry.transaction.signature]),
    ("message", entry.transaction.message)]

def spellOut (entry : BlockEntry) : Json :=
  .object [("transaction", entry.body), ("meta", entry.transaction.record entry.failed),
    ("version", .ofNat 0)]

end BlockEntry

namespace NodeBlock

def parentSlot (block : NodeBlock) : Slot := .ofNat (block.slot.toNat - 1)

def spellOut (block : NodeBlock) : Json :=
  .object [
    ("previousBlockhash", .string someHash), ("blockhash", .string someHash),
    ("parentSlot", .ofNat block.parentSlot.toNat),
    ("transactions", .ofList BlockEntry.spellOut block.entries),
    ("blockTime", .ofOption (fun time => .integer time.toInt) block.time),
    ("blockHeight", .ofNat block.slot.toNat)]

end NodeBlock

/-! ### What is read of it -/

namespace Instruction

variable (instruction : Instruction)

theorem compiled?_spellOut :
    EncodedTransaction.compiled? instruction.spellOut = some instruction := by
  rw [EncodedTransaction.compiled?, spellOut, Json.fields?_object]
  · simp only [Option.bind_eq_bind, Option.bind_some]
    rw [Json.Fields.optional_eq_optionalWithDefault _ "stackHeight" _ rfl,
      Json.Fields.optionalWithDefault_ofOption _ "stackHeight" rfl Json.u32?_ofNat nofun]
    simp [Json.Fields.required, Json.Fields.get?, Json.list?_ofList]
  · rfl
  · decide

theorem ordinary_spellOut (depth : Nat) : Json.Ordinary (depth + 2) instruction.spellOut := by
  apply Json.Ordinary.object
  simp only [List.forall_mem_cons, List.not_mem_nil, false_imp_iff, implies_true, and_true]
  exact ⟨Json.ordinary_u8 _ _, Json.ordinary_ofList (Json.ordinary_u8 depth) _, .string _ _,
    Json.ordinary_ofOption (Json.ordinary_u32 _) _⟩

theorem instruction?_spellOut :
    EncodedTransaction.instruction? instruction.spellOut = some (.compiled instruction) := by
  rw [EncodedTransaction.instruction?, (instruction.ordinary_spellOut 0).whole?]
  simp [compiled?_spellOut]

end Instruction

namespace InnerGroup

variable (group : InnerGroup)

def encoded : EncodedGroup := ⟨group.index, group.instructions.map .compiled⟩

theorem toGroup_encoded : group.encoded.toGroup = group := by
  have kept : group.instructions.filterMap (EncodedInstruction.compiled? ∘ .compiled) =
      group.instructions := List.filterMap_some
  rw [EncodedGroup.toGroup, encoded, List.filterMap_map]
  exact congrArg (InnerGroup.mk group.index) kept

theorem group?_spellOut : EncodedTransaction.group? group.spellOut = some group.encoded := by
  rw [EncodedTransaction.group?, spellOut, Json.fields?_object]
  · simp [Json.Fields.required, Json.Fields.get?, encoded,
      Json.list?_ofList_map Instruction.instruction?_spellOut]
  · rfl
  · decide

theorem ordinary_spellOut (depth : Nat) : Json.Ordinary (depth + 4) group.spellOut := by
  apply Json.Ordinary.object
  simp only [List.forall_mem_cons, List.not_mem_nil, false_imp_iff, implies_true, and_true]
  exact ⟨Json.ordinary_u8 _ _,
    Json.ordinary_ofList (fun instruction => instruction.ordinary_spellOut depth) _⟩

end InnerGroup

namespace TokenBalance

variable (balance : TokenBalance)

/-- The amount is told in several forms, of which the text of the smallest units counts. -/
theorem tokenAmount?_spellOut :
    EncodedTransaction.tokenAmount? (.object [
      ("uiAmount", .null), ("decimals", .ofNat balance.decimals.toNat),
      ("amount", .string balance.amount), ("uiAmountString", .string balance.amount)]) =
      some (balance.amount, balance.decimals) := by
  rw [EncodedTransaction.tokenAmount?, Json.fields?_object]
  · simp [Json.Fields.required, Json.Fields.optional, Json.Fields.get?]
  · rfl
  · decide

theorem tokenBalance?_spellOut :
    EncodedTransaction.tokenBalance? balance.spellOut = some balance := by
  rw [EncodedTransaction.tokenBalance?, spellOut, Json.fields?_of_subset]
  · simp [Json.Fields.required, Json.Fields.optionalWithDefault, Json.Fields.get?,
      tokenAmount?_spellOut]
  · simp
  · simp

theorem ordinary_spellOut (depth : Nat) : Json.Ordinary (depth + 2) balance.spellOut := by
  apply Json.Ordinary.object
  simp only [List.forall_mem_cons, List.not_mem_nil, false_imp_iff, implies_true, and_true]
  refine ⟨Json.ordinary_u8 _ _, .string _ _, .string _ _, ?_⟩
  apply Json.Ordinary.object
  simp only [List.forall_mem_cons, List.not_mem_nil, false_imp_iff, implies_true, and_true]
  exact ⟨.null _, Json.ordinary_u8 _ _, .string _ _, .string _ _⟩

end TokenBalance

namespace Transaction

variable (transaction : Transaction)

/-- The message as it is read. Without account keys it fits the form that the node gives to messages
that it has interpreted, which is tried first. -/
def encodedMessage : EncodedMessage :=
  if transaction.accountKeys = [] then .interpreted
  else .raw transaction.accountKeys transaction.instructions

/-- The keys of a message that was sent do not tell what may be done with the accounts. -/
theorem accountUses?_accountKeys :
    (Json.ofList .string transaction.accountKeys).list? EncodedTransaction.accountUse? =
      if transaction.accountKeys = [] then some [] else none := by
  rw [Json.ofList, Json.list?]
  cases transaction.accountKeys with
  | nil => rfl
  | cons key keys => simp [EncodedTransaction.accountUse?, Json.fields?]

/-- A message is taken for an interpreted one only when it has no accounts, as its plain account
texts are no interpreted ones. -/
theorem interpretedMessage?_message :
    EncodedTransaction.interpretedMessage? transaction.message =
      if transaction.accountKeys = [] then some () else none := by
  simp only [EncodedTransaction.interpretedMessage?, message]
  simp [Json.fields?, Json.Fields.required, Json.Fields.optional, Json.Fields.get?,
    accountUses?_accountKeys, Json.list?_ofList_map Instruction.instruction?_spellOut]
  split <;> rfl

theorem header?_someHeader :
    EncodedTransaction.header? NodeBlock.someHeader = some () := by
  decide

/-- A spelled out message is read as the raw one that it is. -/
theorem rawMessage?_message :
    EncodedTransaction.rawMessage? transaction.message =
      some (.raw transaction.accountKeys transaction.instructions) := by
  rw [EncodedTransaction.rawMessage?, message, Json.fields?_of_subset]
  · simp [Json.Fields.required, Json.Fields.optionalWithDefault, Json.Fields.get?,
      Json.list?_ofList Json.string?_string, Json.list?_ofList Instruction.compiled?_spellOut,
      header?_someHeader]
  · simp
  · simp

theorem message?_message :
    EncodedTransaction.message? transaction.message = some transaction.encodedMessage := by
  rw [EncodedTransaction.message?, interpretedMessage?_message, rawMessage?_message, encodedMessage]
  split <;> rfl

theorem ordinary_message (depth : Nat) : Json.Ordinary (depth + 4) transaction.message := by
  apply Json.Ordinary.object
  simp only [List.forall_mem_cons, List.not_mem_nil, false_imp_iff, implies_true, and_true]
  refine ⟨?_, Json.ordinary_ofList (.string (depth + 2)) _, .string _ _,
    Json.ordinary_ofList (fun instruction => instruction.ordinary_spellOut depth) _⟩
  apply Json.Ordinary.object
  simp only [List.forall_mem_cons, List.not_mem_nil, false_imp_iff, implies_true, and_true]
  exact ⟨Json.ordinary_u8 _ 1, Json.ordinary_u8 _ 0, Json.ordinary_u8 _ 1⟩

/-- What is read of the record. -/
def encodedRecord (failed : Bool) : ExecutionRecord :=
  ⟨failed, transaction.preBalances, transaction.postBalances,
    transaction.innerGroups.map (·.encoded), transaction.preTokenBalances,
    transaction.postTokenBalances, transaction.loadedWritable, transaction.loadedReadonly⟩

theorem loadedAddresses?_spelledOut :
    EncodedTransaction.loadedAddresses? (.object [
      ("writable", .ofList .string transaction.loadedWritable),
      ("readonly", .ofList .string transaction.loadedReadonly)]) =
      some (transaction.loadedWritable, transaction.loadedReadonly) := by
  rw [EncodedTransaction.loadedAddresses?, Json.fields?_object]
  · simp [Json.Fields.required, Json.Fields.get?, Json.list?_ofList Json.string?_string]
  · rfl
  · decide

/-- The error of a transaction that failed is one that the ledger knows. -/
theorem error?_spelledOut (source : Json.Source) :
    ExecutionError.ofJson? source
      (.object [("InstructionError", .array [.ofNat 0, .string "InvalidAccountData"])]) =
      some () := by
  cases source <;> decide

/-- The record of a transaction is read back, with its error or without. -/
theorem record?_record (source : Json.Source) (failed : Bool) :
    EncodedTransaction.record? source (transaction.record failed) =
      some (transaction.encodedRecord failed) := by
  have status : ExecutionError.outcome? source (.object [("Ok", .null)]) = some () := by
    cases source <;> rfl
  have fee : (Json.ofNat 5000).u64? = some 5000 := by decide
  rw [EncodedTransaction.record?, record, Json.fields?_of_subset]
  · simp only [Option.bind_eq_bind, Option.bind_some]
    rw [Json.Fields.optionalWithDefault_ofList _ "innerInstructions" rfl InnerGroup.group?_spellOut,
      Json.Fields.optionalWithDefault_ofList _ "preTokenBalances" rfl
        TokenBalance.tokenBalance?_spellOut,
      Json.Fields.optionalWithDefault_ofList _ "postTokenBalances" rfl
        TokenBalance.tokenBalance?_spellOut]
    cases failed <;>
      simp [Json.Fields.required, Json.Fields.optional, Json.Fields.optionalWithDefault,
        Json.Fields.get?, encodedRecord, status, fee, Json.list?_ofList Json.u64?_ofNat,
        loadedAddresses?_spelledOut, error?_spelledOut]
  · simp
  · simp

theorem ordinary_record (depth : Nat) (failed : Bool) :
    Json.Ordinary (depth + 6) (transaction.record failed) := by
  have addresses := Json.ordinary_ofList (.string (depth + 3))
  have amounts := Json.ordinary_ofList (Json.ordinary_u64 (depth + 4))
  have balances := Json.ordinary_ofList fun balance : TokenBalance =>
    balance.ordinary_spellOut (depth + 2)
  have groups := Json.ordinary_ofList fun group : InnerGroup => group.ordinary_spellOut depth
  have fee : Json.Ordinary (depth + 5) (.ofNat 5000) := Json.ordinary_u64 _ 5000
  have index : Json.Ordinary (depth + 3) (.ofNat 0) := Json.ordinary_u8 _ 0
  cases failed <;>
    simp [record, Json.ordinary_object_iff, Json.ordinary_array_iff, addresses, amounts, balances,
      groups, fee, index, Json.Ordinary.string, Json.Ordinary.null]

end Transaction

namespace BlockEntry

variable (entry : BlockEntry)

def encoded : EncodedTransaction :=
  ⟨.spelledOut [entry.transaction.signature] entry.transaction.encodedMessage,
    some (entry.transaction.encodedRecord entry.failed)⟩

theorem ordinary_body (depth : Nat) : Json.Ordinary (depth + 5) entry.body := by
  simp [body, Json.ordinary_object_iff, Json.ordinary_array_iff, Json.Ordinary.string,
    entry.transaction.ordinary_message depth]

theorem ordinary_spellOut (depth : Nat) : Json.Ordinary (depth + 7) entry.spellOut := by
  have version : Json.Ordinary (depth + 6) (.ofNat 0) := Json.ordinary_u8 _ 0
  simp [spellOut, Json.ordinary_object_iff, version, entry.ordinary_body (depth + 1),
    entry.transaction.ordinary_record depth]

theorem spelledOut?_body : EncodedTransaction.spelledOut? entry.body =
    some (.spelledOut [entry.transaction.signature] entry.transaction.encodedMessage) := by
  rw [EncodedTransaction.spelledOut?, body, Json.fields?_object]
  · simp [Json.Fields.required, Json.Fields.get?, Json.list?, Transaction.message?_message]
  · rfl
  · decide

theorem body?_body : EncodedTransaction.body? entry.body =
    some (.spelledOut [entry.transaction.signature] entry.transaction.encodedMessage) := by
  rw [EncodedTransaction.body?, (entry.ordinary_body 0).whole?, Option.bind_eq_bind,
    Option.bind_some, spelledOut?_body]
  rfl

/-- An entry of the block is read as the transaction that it encodes. -/
theorem ofJson?_spellOut (source : Json.Source) :
    EncodedTransaction.ofJson? source entry.spellOut = some entry.encoded := by
  have version : EncodedTransaction.version? (.ofNat 0) = some () := by decide
  rw [EncodedTransaction.ofJson?, spellOut, Json.fields?_object]
  · simp only [EncodedTransaction.ofFields?, Option.bind_eq_bind, Option.bind_some]
    rw [Json.Fields.optional_eq_optionalWithDefault _ "meta" _ rfl,
      Json.Fields.optionalWithDefault_of_ne_null _ "meta" rfl (by nofun),
      Json.Fields.optionalWithDefault_of_ne_null _ "version" rfl (by nofun),
      entry.transaction.record?_record, version]
    simp [Json.Fields.required, Json.Fields.get?, body?_body, encoded]
  · rfl
  · decide

theorem succeeded_encoded : entry.encoded.succeeded = !entry.failed := rfl

/-- A transaction with accounts is decoded to what was encoded. -/
theorem decode_encoded (keys_ne : entry.transaction.accountKeys ≠ []) :
    entry.encoded.decode = .ok entry.transaction := by
  have groups : entry.transaction.innerGroups.map (EncodedGroup.toGroup ∘ InnerGroup.encoded) =
      entry.transaction.innerGroups := by
    have same : EncodedGroup.toGroup ∘ InnerGroup.encoded = id := funext InnerGroup.toGroup_encoded
    rw [same, List.map_id]
  simp [EncodedTransaction.decode, encoded, Transaction.encodedMessage, keys_ne,
    Transaction.encodedRecord, groups]

/-- A transaction without account keys is taken for one that the node has interpreted. -/
theorem decode_encoded_of_keys_eq_nil (keys_eq : entry.transaction.accountKeys = []) :
    entry.encoded.decode = .error (.decoding "parsed messages are not supported") := by
  simp [EncodedTransaction.decode, encoded, Transaction.encodedMessage, keys_eq]

end BlockEntry

namespace NodeBlock

variable (block : NodeBlock)

def encoded : EncodedBlock := ⟨block.time, some (block.entries.map (·.encoded))⟩

theorem ordinary_spellOut (depth : Nat) : Json.Ordinary (depth + 9) block.spellOut := by
  have time (time : Timestamp) : Json.Ordinary (depth + 8) (.integer time.toInt) := by
    have := time.toInt_lt
    exact .integer _ time.le_toInt (by omega)
  have entries := Json.ordinary_ofList fun entry : BlockEntry => entry.ordinary_spellOut depth
  simp [spellOut, Json.ordinary_object_iff, Json.Ordinary.string, Json.ordinary_u64, entries,
    Json.ordinary_ofOption time]

theorem ofJson?_spellOut (source : Json.Source) :
    EncodedBlock.ofJson? source block.spellOut = some block.encoded := by
  rw [EncodedBlock.ofJson?, spellOut, Json.fields?_of_subset]
  · simp only [Option.bind_eq_bind, Option.bind_some]
    rw [Json.Fields.optionalWithDefault_ofList _ "transactions" rfl
        fun entry : BlockEntry => entry.ofJson?_spellOut source,
      Json.Fields.optional_eq_optionalWithDefault _ "blockTime" _ rfl,
      Json.Fields.optionalWithDefault_ofOption _ "blockTime" rfl Json.i64?_integer nofun,
      Json.Fields.optional_eq_optionalWithDefault _ "blockHeight" _ rfl,
      Json.Fields.optionalWithDefault_of_ne_null _ "blockHeight" rfl (by nofun)]
    simp [Json.Fields.required, Json.Fields.optionalWithDefault, Json.Fields.get?, encoded]
  · simp
  · simp

def successes : List Transaction :=
  (block.entries.filter fun entry => !entry.failed).map (·.transaction)

def item (transaction : Transaction) : WorkItem :=
  ⟨block.slot, block.time.getD 0, [transaction]⟩

/-- Every success with account keys becomes a work item, and nothing else does. -/
theorem items_encoded : block.encoded.items block.slot =
    (block.successes.filter fun transaction => transaction.accountKeys ≠ []).map block.item := by
  have item_eq : block.item = fun transaction => ⟨block.slot, block.time.getD 0, [transaction]⟩ :=
    rfl
  simp only [EncodedBlock.items, EncodedBlock.successes, encoded, successes, Option.getD_some,
    item_eq]
  induction block.entries with
  | nil => rfl
  | cons entry entries ih =>
      cases failed : entry.failed with
      | true => simpa [entry.succeeded_encoded, failed] using ih
      | false =>
          by_cases keys : entry.transaction.accountKeys = []
          · simpa [entry.succeeded_encoded, failed, keys, entry.decode_encoded_of_keys_eq_nil keys]
              using ih
          · simpa [entry.succeeded_encoded, failed, keys, entry.decode_encoded keys] using ih

/-- Where every transaction has account keys, none is passed over. -/
theorem log_encoded (keyed : ∀ entry ∈ block.entries, entry.transaction.accountKeys ≠ []) :
    block.encoded.log block.slot = [] := by
  apply List.filterMap_eq_nil_iff.mpr
  intro encoded success
  have told := (List.mem_filter.mp success).1
  rcases List.mem_map.mp told with ⟨entry, member, rfl⟩
  simp [entry.decode_encoded (keyed entry member)]

/-- Nothing of a success is lost between the answer of the node and the queue: in the order of the
block, every transaction that succeeded becomes one work item that holds the transaction as it was,
the number of the block and its time. -/
theorem items_of_answer (source : Json.Source)
    (keyed : ∀ entry ∈ block.entries, entry.transaction.accountKeys ≠ []) :
    Json.parse? block.spellOut.compact = some block.spellOut ∧
      ∃ told, EncodedBlock.ofJson? source block.spellOut = some told ∧
        told.items block.slot = block.successes.map block.item ∧ told.log block.slot = [] := by
  refine ⟨Json.parse?_compact (block.ordinary_spellOut 118), block.encoded,
    block.ofJson?_spellOut source, ?_, block.log_encoded keyed⟩
  rw [block.items_encoded, List.filter_eq_self.mpr]
  intro transaction success
  rcases List.mem_map.mp success with ⟨entry, kept, rfl⟩
  simpa using keyed entry (List.mem_filter.mp kept).1

/-- A block with a transaction that failed and one that succeeded. -/
def halfFailed : NodeBlock :=
  ⟨7, none, [
    ⟨⟨"first", ["payer", "pool"], [], [], [⟨1, [0], "", none⟩], [], [5], [4], [], []⟩, true⟩,
    ⟨⟨"second", ["payer", "pool"], ["table"], [], [⟨1, [0, 2], "3Bxs", none⟩],
      [⟨0, [⟨1, [2], "", some 2⟩]⟩], [5], [4], [⟨2, "mint", "payer", "12", 6⟩], []⟩, false⟩]⟩

/-- The one that succeeded is queued, at the epoch as the block does not tell its time. -/
theorem items_of_halfFailed :
    (∀ entry ∈ halfFailed.entries, entry.transaction.accountKeys ≠ []) ∧
      ∃ told, EncodedBlock.ofJson? .text halfFailed.spellOut = some told ∧
        (told.items 7).map (fun item => (item.blockTime, item.signatures)) = [(0, ["second"])] := by
  have keyed : ∀ entry ∈ halfFailed.entries, entry.transaction.accountKeys ≠ [] := by decide
  rcases halfFailed.items_of_answer .text keyed with ⟨-, told, read, items, -⟩
  refine ⟨keyed, told, read, ?_⟩
  rw [show (7 : Slot) = halfFailed.slot from rfl, items]
  rfl

end NodeBlock

end SwapLedger
