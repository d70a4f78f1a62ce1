import Mathlib.Data.List.Sort
import SwapLedger.Proofs.Mirroring

/-!
# Checked instructions

The token programs move, make and destroy tokens by two instructions each. The checked one carries
the decimals of the mint, and if it moves tokens it names the mint as well. For the unchecked one
they are looked up in the balances and in the other instructions. Where a checked instruction states
what would be found, it can take the place of the unchecked one, and the transfers are the same.
-/

namespace SwapLedger

/-! ## Replaced instructions -/

/-- The groups, with the instruction at a place of the first one that names the top-level
instruction `outer` replaced. -/
def InnerGroup.replaceIn (outer place : Nat) (replacement : Instruction) :
    List InnerGroup → List InnerGroup
  | [] => []
  | group :: rest =>
    if group.index.toNat == outer then
      ⟨group.index, group.instructions.set place replacement⟩ :: rest
    else group :: replaceIn outer place replacement rest

/-- The transaction with the instruction at a position replaced. -/
def Transaction.replaceAt (transaction : Transaction) (position : Position)
    (replacement : Instruction) : Transaction :=
  match position.inner with
  | none =>
    { transaction with
      instructions := transaction.instructions.set position.outer replacement }
  | some place =>
    { transaction with
      innerGroups :=
        InnerGroup.replaceIn position.outer place replacement transaction.innerGroups }

namespace Transaction

variable {transaction : Transaction} {position other : Position}
  {replacement first second : Instruction}

@[simp]
theorem accounts_replaceAt :
    (transaction.replaceAt position replacement).accounts = transaction.accounts := by
  rcases position with ⟨outer, _ | place⟩ <;> rfl

@[simp]
theorem preTokenBalances_replaceAt :
    (transaction.replaceAt position replacement).preTokenBalances =
      transaction.preTokenBalances := by
  rcases position with ⟨outer, _ | place⟩ <;> rfl

@[simp]
theorem postTokenBalances_replaceAt :
    (transaction.replaceAt position replacement).postTokenBalances =
      transaction.postTokenBalances := by
  rcases position with ⟨outer, _ | place⟩ <;> rfl

/-- A replacement in a group changes what the instruction of that group invoked and nothing else.
Where several groups name one instruction, the first one counts, both for the lookup and for the
replacement. -/
theorem invokedBy_replaceAt_invoked {outer place group : Nat} :
    (transaction.replaceAt (.invoked outer place) replacement).invokedBy group =
      if group = outer then (transaction.invokedBy group).set place replacement
      else transaction.invokedBy group := by
  simp only [invokedBy, replaceAt, Position.inner_invoked, Position.outer_invoked]
  induction transaction.innerGroups with
  | nil => simp [InnerGroup.replaceIn]
  | cons head rest ih =>
      rw [InnerGroup.replaceIn]
      by_cases named : head.index.toNat = outer
      · by_cases same : group = outer
        · simp [named, same]
        · have different : outer ≠ group := Ne.symm same
          simp [named, same, different]
      · by_cases found : head.index.toNat = group
        · have different : group ≠ outer := found ▸ named
          simp [found, different]
        · simpa [named, found] using ih

theorem instructionAt?_replaceAt_self :
    (transaction.replaceAt position replacement).instructionAt? position =
      (transaction.instructionAt? position).map fun _ => replacement := by
  rcases position with ⟨outer, _ | place⟩
  · exact List.getElem?_set_self'
  · change (if outer < transaction.instructions.length then
      ((transaction.replaceAt (.invoked outer place) replacement).invokedBy outer)[place]?
        else none) =
      (if outer < transaction.instructions.length then (transaction.invokedBy outer)[place]?
        else none).map fun _ => replacement
    rw [invokedBy_replaceAt_invoked, if_pos rfl]
    split_ifs
    · exact List.getElem?_set_self'
    · rfl

theorem instructionAt?_replaceAt_of_ne (different : other ≠ position) :
    (transaction.replaceAt position replacement).instructionAt? other =
      transaction.instructionAt? other := by
  rcases position with ⟨outer, _ | place⟩
  · rcases other with ⟨group, _ | index⟩
    · have apart : outer ≠ group := by
        rintro rfl
        exact different rfl
      exact List.getElem?_set_ne apart
    · simp [instructionAt?, replaceAt, invokedBy]
  · rcases other with ⟨group, _ | index⟩
    · rfl
    · change (if group < transaction.instructions.length then
        ((transaction.replaceAt (.invoked outer place) replacement).invokedBy group)[index]?
          else none) =
        if group < transaction.instructions.length then (transaction.invokedBy group)[index]?
          else none
      rw [invokedBy_replaceAt_invoked]
      by_cases same : group = outer
      · have apart : place ≠ index := by
          rintro rfl
          exact different (by rw [same])
        rw [if_pos same, List.getElem?_set_ne apart]
      · rw [if_neg same]

/-- What is read off the instructions is the same after two replacements that read the same. -/
theorem filterMap_allInstructions_replaceAt {β : Type*} {read : Instruction → Option β}
    (same : read first = read second) :
    (transaction.replaceAt position first).allInstructions.filterMap read =
      (transaction.replaceAt position second).allInstructions.filterMap read := by
  have sameSet (list : List Instruction) (place : Nat) :
      (list.set place first).filterMap read = (list.set place second).filterMap read := by
    have sameMap : (list.set place first).map read = (list.set place second).map read := by
      rw [List.map_set, List.map_set, same]
    simpa [List.filterMap_map] using congrArg (List.filterMap id) sameMap
  rcases position with ⟨outer, _ | place⟩
  · simp only [allInstructions, replaceAt, List.filterMap_append, sameSet]
  · simp only [allInstructions, replaceAt, List.filterMap_append, List.filterMap_flatMap]
    congr 1
    induction transaction.innerGroups with
    | nil => rfl
    | cons head rest ih =>
        rw [InnerGroup.replaceIn, InnerGroup.replaceIn]
        split_ifs
        · rw [List.flatMap_cons, List.flatMap_cons, sameSet]
        · rw [List.flatMap_cons, List.flatMap_cons, ih]

/-- Two instructions can stand at one position with the same transfers, if they make the same
transfer there, and if all others find the same evidence. -/
theorem transfers_replaceAt_eq
    (mirrors : (Evidence.ofTransaction (transaction.replaceAt position first)).Mirrors
      (Evidence.ofTransaction (transaction.replaceAt position second)) id)
    (sameMade :
      (Evidence.ofTransaction (transaction.replaceAt position first)).transfer? first position =
        (Evidence.ofTransaction (transaction.replaceAt position second)).transfer? second
          position) :
    (transaction.replaceAt position first).transfers =
      (transaction.replaceAt position second).transfers := by
  have antisymmetric :
      Std.Antisymm fun earlier later : Transfer => earlier.position < later.position :=
    ⟨fun _ _ before after => absurd before (lt_asymm after)⟩
  have irreflexive :
      Std.Irrefl fun earlier later : Transfer => earlier.position < later.position :=
    ⟨fun transfer => lt_irrefl transfer.position⟩
  apply List.Pairwise.eq_of_mem_iff (pairwise_transfers _) (pairwise_transfers _)
  intro transfer
  rw [mem_transfers_iff, mem_transfers_iff]
  by_cases same : transfer.position = position
  · subst same
    rw [instructionAt?_replaceAt_self, instructionAt?_replaceAt_self]
    cases transaction.instructionAt? transfer.position with
    | none => simp
    | some _ => simp [sameMade]
  · rw [instructionAt?_replaceAt_of_ne same, instructionAt?_replaceAt_of_ne same]
    simp only [Evidence.transfer?_eq_of_mirrors_id mirrors]

end Transaction

/-! ## Counterparts -/

/-- A checked instruction states what is found for an unchecked one that moves, makes or destroys
the same tokens. The mint of moved tokens is that of the source or, if it has none, that of the
destination. -/
inductive Evidence.Counterpart (evidence : Evidence) (unchecked checked : Instruction) : Prop where
  | transfer {source mintPlace destination : UInt8} {others : List UInt8} {mint : Address}
      {amount : UInt64} {decimals : UInt8}
      (asks : unchecked.meaning? evidence.table = some (.token (.transfer amount)))
      (checkedAsks :
        checked.meaning? evidence.table = some (.token (.transferChecked amount decimals)))
      (accounts_eq : unchecked.accounts = source :: destination :: others)
      (checkedAccounts_eq : checked.accounts = source :: mintPlace :: destination :: others)
      (mintNamed : evidence.table.address? mintPlace = some mint)
      (resolved : evidence.mint? source = some (mint, decimals) ∨
        evidence.mint? source = none ∧ evidence.mint? destination = some (mint, decimals))
  | mintTo {mint : Address} {amount : UInt64} {decimals : UInt8}
      (asks : unchecked.meaning? evidence.table = some (.token (.mintTo amount)))
      (checkedAsks :
        checked.meaning? evidence.table = some (.token (.mintToChecked amount decimals)))
      (accounts_eq : unchecked.accounts = checked.accounts)
      (mintNamed : checked.account? evidence.table 0 = some mint)
      (resolved : evidence.decimals? mint = some decimals)
  | burn {mint : Address} {amount : UInt64} {decimals : UInt8}
      (asks : unchecked.meaning? evidence.table = some (.token (.burn amount)))
      (checkedAsks :
        checked.meaning? evidence.table = some (.token (.burnChecked amount decimals)))
      (accounts_eq : unchecked.accounts = checked.accounts)
      (mintNamed : checked.account? evidence.table 1 = some mint)
      (resolved : evidence.decimals? mint = some decimals)

theorem Instruction.account?_congr {first second : Instruction}
    (same : first.accounts = second.accounts) (table : AccountTable) (place : Nat) :
    first.account? table place = second.account? table place := by
  rw [account?, account?, same]

namespace Evidence.Counterpart

variable {evidence : Evidence} {unchecked checked : Instruction}
  (counterpart : evidence.Counterpart unchecked checked)

include counterpart

theorem opening?_eq : checked.opening? evidence.table = unchecked.opening? evidence.table := by
  cases counterpart with
  | transfer asks checkedAsks => simp [Instruction.opening?, asks, checkedAsks]
  | mintTo asks checkedAsks => simp [Instruction.opening?, asks, checkedAsks]
  | burn asks checkedAsks => simp [Instruction.opening?, asks, checkedAsks]

theorem mintDecimals?_eq (mint : Address) :
    checked.mintDecimals? evidence.table mint = unchecked.mintDecimals? evidence.table mint := by
  cases counterpart with
  | transfer asks checkedAsks => simp [Instruction.mintDecimals?, asks, checkedAsks]
  | mintTo asks checkedAsks => simp [Instruction.mintDecimals?, asks, checkedAsks]
  | burn asks checkedAsks => simp [Instruction.mintDecimals?, asks, checkedAsks]

/-- On the same evidence, both instructions ask for the same. -/
theorem requestedTransfer?_eq (position : Position) :
    evidence.requestedTransfer? checked position =
      evidence.requestedTransfer? unchecked position := by
  cases counterpart with
  | transfer asks checkedAsks accounts_eq checkedAccounts_eq mintNamed resolved =>
      have shared := Option.or_eq_some_iff.mpr resolved
      simp [requestedTransfer?, asks, checkedAsks, tokenTransfer?, Instruction.account?,
        accounts_eq, checkedAccounts_eq, mintNamed, sharedMint?, shared]
  | mintTo asks checkedAsks accounts_eq mintNamed resolved =>
      simp [requestedTransfer?, asks, checkedAsks, mintTransfer?, mintNamed, resolved,
        Instruction.account?_congr accounts_eq, accounts_eq]
  | burn asks checkedAsks accounts_eq mintNamed resolved =>
      simp [requestedTransfer?, asks, checkedAsks, burnTransfer?, mintNamed, resolved,
        Instruction.account?_congr accounts_eq, accounts_eq]

end Evidence.Counterpart

namespace Transaction

variable {transaction : Transaction} {position : Position} {unchecked checked : Instruction}

/-- A checked instruction that states what is found for an unchecked one can take its place. -/
theorem checked_replaces_unchecked
    (counterpart : (Evidence.ofTransaction
      (transaction.replaceAt position unchecked)).Counterpart unchecked checked) :
    (transaction.replaceAt position checked).transfers =
      (transaction.replaceAt position unchecked).transfers := by
  have mirrors : (Evidence.ofTransaction (transaction.replaceAt position checked)).Mirrors
      (Evidence.ofTransaction (transaction.replaceAt position unchecked)) id := by
    apply Evidence.mirrors_of_sameBalances
    · simp
    · simp
    · simp
    · exact filterMap_allInstructions_replaceAt counterpart.opening?_eq
    · intro mint
      exact filterMap_allInstructions_replaceAt (counterpart.mintDecimals?_eq mint)
  apply transfers_replaceAt_eq mirrors
  rw [Evidence.transfer?_eq_of_mirrors_id mirrors, Evidence.transfer?, Evidence.transfer?,
    counterpart.requestedTransfer?_eq]

/-- A sender opens an account, and a program that it calls pays out of it. -/
def coinPayment : Transaction where
  signature := "payment"
  accountKeys := ["Payer", "SenderCoin", "Coin", "ReceiverCoin", "Sender", Address.tokenProgram,
    Address.associatedTokenProgram]
  loadedWritable := []
  loadedReadonly := []
  instructions := [⟨6, [0, 1, 4, 2], "", none⟩, ⟨0, [], "", none⟩]
  innerGroups := [⟨1, [⟨0, [], "", none⟩]⟩]
  preBalances := []
  postBalances := []
  preTokenBalances := []
  postTokenBalances := [⟨3, "Coin", "Receiver", "5", 6⟩]

theorem checked_replaces_unchecked_coinPayment :
    let unchecked : Instruction := ⟨5, [1, 3, 4], Base58.encode (3 :: Bytes.ofUInt64 5), none⟩
    let checked : Instruction :=
      ⟨5, [1, 2, 3, 4], Base58.encode (12 :: (Bytes.ofUInt64 5 ++ [6])), none⟩
    (Evidence.ofTransaction (coinPayment.replaceAt (.invoked 1 0) unchecked)).Counterpart
        unchecked checked ∧
      (coinPayment.replaceAt (.invoked 1 0) checked).transfers =
        (coinPayment.replaceAt (.invoked 1 0) unchecked).transfers ∧
      (coinPayment.replaceAt (.invoked 1 0) unchecked).transfers =
        [⟨.invoked 1 0, "Sender", "Receiver", "Sender", "Coin", ⟨5, 6⟩, .token⟩] := by
  intro unchecked checked
  have asks : unchecked.meaning? coinPayment.accounts = some (.token (.transfer 5)) := by
    decide +kernel
  have checkedAsks : checked.meaning? coinPayment.accounts =
      some (.token (.transferChecked 5 6)) := by
    decide +kernel
  have resolved : (Evidence.ofTransaction
      (coinPayment.replaceAt (.invoked 1 0) unchecked)).mint? 1 = some ("Coin", 6) := by
    decide +kernel
  have counterpart : (Evidence.ofTransaction
      (coinPayment.replaceAt (.invoked 1 0) unchecked)).Counterpart unchecked checked :=
    .transfer asks checkedAsks rfl rfl rfl (Or.inl resolved)
  exact ⟨counterpart, checked_replaces_unchecked counterpart, by decide +kernel⟩

end Transaction

end SwapLedger
