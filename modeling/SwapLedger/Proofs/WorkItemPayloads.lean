import SwapLedger.Proofs.JsonTexts
import SwapLedger.WorkItem

/-!
# Payloads of work items

A work item comes out of the queue as it went in. The readers of its records find every field under
the name and in the form in which it was written, and the JSON value of an item is one that is read
as it was written.
-/

namespace SwapLedger

namespace Json

/-- An integer within the bounds of a word type is read as itself. -/
theorem intBetween?_integer {least greatest value : Int} (above : least ≤ value)
    (below : value ≤ greatest) : (integer value).intBetween? least greatest = some value := by
  rw [intBetween?, if_pos ⟨above, below⟩]

@[simp]
theorem u8?_ofNat (word : UInt8) : (ofNat word.toNat).u8? = some word := by
  have fits := word.toNat_lt
  rw [u8?, ofNat, intBetween?_integer (by omega) (by omega)]
  simp

@[simp]
theorem u32?_ofNat (word : UInt32) : (ofNat word.toNat).u32? = some word := by
  have fits := word.toNat_lt
  rw [u32?, ofNat, intBetween?_integer (by omega) (by omega)]
  simp

@[simp]
theorem u64?_ofNat (word : UInt64) : (ofNat word.toNat).u64? = some word := by
  have fits := word.toNat_lt
  rw [u64?, ofNat, intBetween?_integer (by omega) (by omega)]
  simp

@[simp]
theorem i64?_integer (word : Int64) : (integer word.toInt).i64? = some word := by
  have least := word.le_toInt
  have greatest := word.toInt_lt
  rw [i64?, intBetween?_integer (by omega) (by omega)]
  simp

@[simp]
theorem string?_string (text : String) : (string text).string? = some text := rfl

/-- A list is read item by item. -/
theorem list?_ofList_map {Item Kept : Type} {read : Json → Option Kept} {write : Item → Json}
    {kept : Item → Kept} (reads : ∀ item, read (write item) = some (kept item))
    (items : List Item) : (ofList write items).list? read = some (items.map kept) := by
  rw [ofList, list?]
  induction items with
  | nil => rfl
  | cons item items ih =>
      rw [List.map_cons, List.mapM_cons, reads item, ih]
      rfl

/-- A list is read as it was written if its items are. -/
theorem list?_ofList {Item : Type} {read : Json → Option Item} {write : Item → Json}
    (inverse : ∀ item, read (write item) = some item) (items : List Item) :
    (ofList write items).list? read = some items := by
  simpa using list?_ofList_map inverse items

/-- Members that all have names of fields, no two the same name, are the fields of a record. -/
theorem fields?_of_subset {names : List String} {members : List (String × Json)}
    (named : members.map (·.1) ⊆ names) (distinct : (members.map (·.1)).Nodup) :
    (object members).fields? names = some ⟨false, members⟩ := by
  have known : members.filter (fun member => names.contains member.1) = members := by
    apply List.filter_eq_self.mpr
    intro member found
    simpa using named (List.mem_map_of_mem found)
  simp only [fields?, known, if_pos distinct]

/-- A record that is written with its fields in order has all of them. -/
theorem fields?_object {names : List String} {members : List (String × Json)}
    (named : members.map (·.1) = names) (distinct : names.Nodup) :
    (object members).fields? names = some ⟨false, members⟩ := by
  subst named
  exact fields?_of_subset (List.Subset.refl _) distinct

/-- A value that may be absent is read as it was written if it is never written `null` otherwise. -/
theorem Fields.optionalWithDefault_ofOption {Item : Type} (fields : Fields) (name : String)
    {read : Json → Option Item} {write : Item → Json} {value : Option Item}
    (found : fields.get? name = some (ofOption write value))
    (inverse : ∀ item, read (write item) = some item) (write_ne : ∀ item, write item ≠ .null) :
    fields.optionalWithDefault name read = some value := by
  rw [optionalWithDefault, found]
  cases value with
  | none => rfl
  | some item =>
      rw [ofOption]
      split
      · rename_i absent
        cases absent
      · rename_i same
        exact absurd (Option.some.inj same) (write_ne item)
      · rename_i same
        cases same
        rw [inverse item]
        rfl

theorem ordinary_u8 (depth : Nat) (word : UInt8) : Ordinary depth (ofNat word.toNat) := by
  have fits := word.toNat_lt
  exact .integer depth (by omega) (by omega)

theorem ordinary_u32 (depth : Nat) (word : UInt32) : Ordinary depth (ofNat word.toNat) := by
  have fits := word.toNat_lt
  exact .integer depth (by omega) (by omega)

theorem ordinary_u64 (depth : Nat) (word : UInt64) : Ordinary depth (ofNat word.toNat) := by
  have fits := word.toNat_lt
  exact .integer depth (by omega) (by omega)

/-- A list nests one level deeper than its items. -/
theorem ordinary_ofList {Item : Type} {write : Item → Json} {depth : Nat}
    (ordinary : ∀ item, Ordinary depth (write item)) (items : List Item) :
    Ordinary (depth + 1) (ofList write items) := by
  refine .array fun json member => ?_
  rcases List.mem_map.mp member with ⟨item, _, rfl⟩
  exact ordinary item

/-- An optional value nests no deeper than the value would. -/
theorem ordinary_ofOption {Item : Type} {write : Item → Json} {depth : Nat}
    (ordinary : ∀ item, Ordinary depth (write item)) (value : Option Item) :
    Ordinary depth (ofOption write value) := by
  cases value with
  | none => exact .null depth
  | some item => exact ordinary item

end Json

namespace Instruction

variable (instruction : Instruction)

theorem ofJson?_toJson : ofJson? instruction.toJson = some instruction := by
  rw [ofJson?, toJson, Json.fields?_object]
  · simp only [Option.bind_eq_bind, Option.bind_some]
    rw [Json.Fields.optionalWithDefault_ofOption _ "stack_height" rfl Json.u32?_ofNat]
    · simp [Json.Fields.required, Json.Fields.get?, Json.list?_ofList]
    · exact nofun
  · rfl
  · decide

theorem ordinary_toJson (depth : Nat) : Json.Ordinary (depth + 2) instruction.toJson := by
  refine .object ?_
  simp only [List.forall_mem_cons, List.not_mem_nil, false_imp_iff, implies_true, and_true]
  exact ⟨Json.ordinary_u8 _ _, Json.ordinary_ofList (Json.ordinary_u8 depth) _, .string _ _,
    Json.ordinary_ofOption (Json.ordinary_u32 _) _⟩

end Instruction

namespace InnerGroup

variable (group : InnerGroup)

theorem ofJson?_toJson : ofJson? group.toJson = some group := by
  rw [ofJson?, toJson, Json.fields?_object]
  · simp [Json.Fields.required, Json.Fields.get?, Json.list?_ofList Instruction.ofJson?_toJson]
  · rfl
  · decide

theorem ordinary_toJson (depth : Nat) : Json.Ordinary (depth + 4) group.toJson := by
  refine .object ?_
  simp only [List.forall_mem_cons, List.not_mem_nil, false_imp_iff, implies_true, and_true]
  exact ⟨Json.ordinary_u8 _ _,
    Json.ordinary_ofList (fun instruction => instruction.ordinary_toJson depth) _⟩

end InnerGroup

namespace TokenBalance

variable (balance : TokenBalance)

theorem ofJson?_toJson : ofJson? balance.toJson = some balance := by
  rw [ofJson?, toJson, Json.fields?_object]
  · simp [Json.Fields.required, Json.Fields.get?]
  · rfl
  · decide

theorem ordinary_toJson (depth : Nat) : Json.Ordinary (depth + 1) balance.toJson := by
  refine .object ?_
  simp only [List.forall_mem_cons, List.not_mem_nil, false_imp_iff, implies_true, and_true]
  exact ⟨Json.ordinary_u8 _ _, .string _ _, .string _ _, .string _ _, Json.ordinary_u8 _ _⟩

end TokenBalance

namespace Transaction

variable (transaction : Transaction)

theorem ofJson?_toJson : ofJson? transaction.toJson = some transaction := by
  rw [ofJson?, toJson, Json.fields?_object]
  · simp [Json.Fields.required, Json.Fields.withDefault, Json.Fields.get?,
      Json.list?_ofList Json.string?_string, Json.list?_ofList Json.u64?_ofNat,
      Json.list?_ofList Instruction.ofJson?_toJson, Json.list?_ofList InnerGroup.ofJson?_toJson,
      Json.list?_ofList TokenBalance.ofJson?_toJson]
  · rfl
  · decide

theorem ordinary_toJson (depth : Nat) : Json.Ordinary (depth + 6) transaction.toJson := by
  refine .object ?_
  simp only [List.forall_mem_cons, List.not_mem_nil, false_imp_iff, implies_true, and_true]
  have addresses := Json.ordinary_ofList (.string (depth + 4))
  have amounts := Json.ordinary_ofList (Json.ordinary_u64 (depth + 4))
  have balances := Json.ordinary_ofList fun balance : TokenBalance =>
    balance.ordinary_toJson (depth + 3)
  exact ⟨.string _ _, addresses _, addresses _, addresses _,
    Json.ordinary_ofList (fun instruction => instruction.ordinary_toJson (depth + 2)) _,
    Json.ordinary_ofList (fun group => group.ordinary_toJson depth) _, amounts _, amounts _,
    balances _, balances _⟩

end Transaction

namespace WorkItem

variable (item : WorkItem)

theorem ofJson?_toJson : ofJson? item.toJson = some item := by
  rw [ofJson?, toJson, Json.fields?_object]
  · simp [Json.Fields.required, Json.Fields.get?, Json.list?_ofList Transaction.ofJson?_toJson]
  · rfl
  · decide

theorem ordinary_toJson (depth : Nat) : Json.Ordinary (depth + 8) item.toJson := by
  refine .object ?_
  simp only [List.forall_mem_cons, List.not_mem_nil, false_imp_iff, implies_true, and_true]
  refine ⟨Json.ordinary_u64 _ _, .integer _ ?_ ?_,
    Json.ordinary_ofList (fun transaction => transaction.ordinary_toJson depth) _⟩
  · exact item.blockTime.le_toInt
  · have := item.blockTime.toInt_lt
    omega

/-- What the payload of a work item is read as: the item, as the text and the structure both come
back whole. -/
theorem ofPayload?_toPayload : ofPayload? item.toPayload = some item := by
  rw [ofPayload?, toPayload, Json.parse?_compact (item.ordinary_toJson 119), Option.bind_some,
    ofJson?_toJson]

/-- The bytes of a payload give back the item that they were written for. -/
theorem ofPayload?_of_bytes :
    (String.fromUTF8? item.toPayload.toUTF8).bind ofPayload? = some item := by
  have text : String.fromUTF8? item.toPayload.toUTF8 = some item.toPayload :=
    dif_pos item.toPayload.isValidUTF8
  rw [text, Option.bind_some, ofPayload?_toPayload]

end WorkItem

end SwapLedger
