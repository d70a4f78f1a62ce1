import Mathlib.Algebra.Order.Field.Power
import Mathlib.Algebra.Order.Field.Rat
import SwapLedger.Proofs.ExecutionOrder
import SwapLedger.Protocol
import SwapLedger.Transfer.Reconstruction

/-!
# Reconstruction of transfers

What the reconstruction of the transfers of a transaction guarantees, whatever the transaction looks
like: the transfers are in strict execution order, each was made by the instruction at its position,
and its amount is the one that this instruction's payload states, read at the decimal places that
belong to it.
-/

namespace SwapLedger

namespace Decimal

/-- The number that an amount stands for. -/
def value (amount : Decimal) : ℚ := amount.unscaled * (10 : ℚ) ^ (-amount.scale)

/-- Units of a token with `places` decimal places stand for `raw * 10 ^ -places`. -/
theorem value_ofUnits (raw : UInt64) (places : UInt8) :
    (ofUnits raw places).value = raw.toNat * (10 : ℚ) ^ (-(places.toNat : ℤ)) := by
  simp [value, ofUnits]

theorem isPositive_ofUnits {raw : UInt64} {places : UInt8} :
    (ofUnits raw places).IsPositive ↔ 0 < raw.toNat := by
  simp [IsPositive, ofUnits]

/-- An amount is positive just when the number that it stands for is. -/
theorem isPositive_iff_value_pos (amount : Decimal) : amount.IsPositive ↔ 0 < amount.value := by
  have power_pos : (0 : ℚ) < 10 ^ (-amount.scale) := zpow_pos (by simp) _
  rw [IsPositive, value, mul_pos_iff_of_pos_right power_pos, Int.cast_pos]

end Decimal

/-- At how many decimal places, and for which kind of transfer, the units stated in the payload of
an instruction count, when the transfer is one of `mint`. -/
inductive Evidence.Counts (evidence : Evidence) (instruction : Instruction) (mint : Address) :
    Payload → TransferKind → UInt64 → UInt8 → Prop where
  | native (lamports : UInt64) :
      Counts evidence instruction mint (.system (.transfer lamports)) .native lamports 9
  | transfer {source destination places : UInt8} (amount : UInt64)
      (sourceNamed : instruction.accounts[0]? = some source)
      (destinationNamed : instruction.accounts[1]? = some destination)
      (resolved : evidence.sharedMint? source destination = some (mint, places)) :
      Counts evidence instruction mint (.token (.transfer amount)) .token amount places
  | transferChecked (amount : UInt64) (places : UInt8) :
      Counts evidence instruction mint (.token (.transferChecked amount places)) .token amount
        places
  | mintTo {places : UInt8} (amount : UInt64) (resolved : evidence.decimals? mint = some places) :
      Counts evidence instruction mint (.token (.mintTo amount)) .mint amount places
  | mintToChecked (amount : UInt64) (places : UInt8) :
      Counts evidence instruction mint (.token (.mintToChecked amount places)) .mint amount places
  | burn {places : UInt8} (amount : UInt64) (resolved : evidence.decimals? mint = some places) :
      Counts evidence instruction mint (.token (.burn amount)) .burn amount places
  | burnChecked (amount : UInt64) (places : UInt8) :
      Counts evidence instruction mint (.token (.burnChecked amount places)) .burn amount places

namespace Evidence

variable {evidence : Evidence} {instruction : Instruction} {position : Position}
  {transfer : Transfer}

@[simp]
theorem table_ofTransaction (transaction : Transaction) :
    (ofTransaction transaction).table = transaction.accounts := rfl

@[simp]
theorem transaction_ofTransaction (transaction : Transaction) :
    (ofTransaction transaction).transaction = transaction := rfl

theorem nativeTransfer?_eq_some {lamports : UInt64}
    (made : evidence.nativeTransfer? instruction position lamports = some transfer) :
    transfer.position = position ∧ transfer.kind = .native ∧
      transfer.amount = .ofUnits lamports 9 := by
  simp only [nativeTransfer?, Option.bind_eq_bind, Option.bind_eq_some_iff, Option.pure_def,
    Option.some.injEq] at made
  rcases made with ⟨source, _, destination, _, rfl⟩
  exact ⟨rfl, rfl, rfl⟩

theorem tokenTransfer?_eq_some {sourcePlace destinationPlace authorityPlace : Nat}
    {resolve : UInt8 → UInt8 → Option (Address × UInt8)} {amount : UInt64}
    (made : evidence.tokenTransfer? instruction position sourcePlace destinationPlace
      authorityPlace resolve amount = some transfer) :
    ∃ source destination places,
      instruction.accounts[sourcePlace]? = some source ∧
      instruction.accounts[destinationPlace]? = some destination ∧
      resolve source destination = some (transfer.mint, places) ∧
      transfer.position = position ∧ transfer.kind = .token ∧
      transfer.amount = .ofUnits amount places := by
  simp only [tokenTransfer?, Option.bind_eq_bind, Option.bind_eq_some_iff, Option.pure_def,
    Option.some.injEq] at made
  rcases made with ⟨source, sourceNamed, destination, destinationNamed, ⟨mint, places⟩, resolved,
    _, _, _, _, _, _, rfl⟩
  exact ⟨source, destination, places, sourceNamed, destinationNamed, resolved, rfl, rfl, rfl⟩

theorem mintTransfer?_eq_some {decimals : Option UInt8} {amount : UInt64}
    (made : evidence.mintTransfer? instruction position decimals amount = some transfer) :
    ∃ places, decimals.or (evidence.decimals? transfer.mint) = some places ∧
      transfer.position = position ∧ transfer.kind = .mint ∧
      transfer.amount = .ofUnits amount places := by
  simp only [mintTransfer?, Option.bind_eq_bind, Option.bind_eq_some_iff, Option.pure_def,
    Option.some.injEq] at made
  rcases made with ⟨mint, _, _, _, places, resolved, _, _, rfl⟩
  exact ⟨places, resolved, rfl, rfl, rfl⟩

theorem burnTransfer?_eq_some {decimals : Option UInt8} {amount : UInt64}
    (made : evidence.burnTransfer? instruction position decimals amount = some transfer) :
    ∃ places, decimals.or (evidence.decimals? transfer.mint) = some places ∧
      transfer.position = position ∧ transfer.kind = .burn ∧
      transfer.amount = .ofUnits amount places := by
  simp only [burnTransfer?, Option.bind_eq_bind, Option.bind_eq_some_iff, Option.pure_def,
    Option.some.injEq] at made
  rcases made with ⟨_, _, mint, _, places, resolved, rfl⟩
  exact ⟨places, resolved, rfl, rfl, rfl⟩

/-- A requested transfer stands where its instruction stands, and its amount is the one stated in
the payload at the decimal places that belong to it. -/
theorem requestedTransfer?_counts
    (made : evidence.requestedTransfer? instruction position = some transfer) :
    transfer.position = position ∧
      ∃ payload units places, instruction.meaning? evidence.table = some payload ∧
        evidence.Counts instruction transfer.mint payload transfer.kind units places ∧
        transfer.amount = .ofUnits units places := by
  simp only [requestedTransfer?, Option.bind_eq_bind, Option.bind_eq_some_iff] at made
  rcases made with ⟨payload, meaning, made⟩
  split at made
  · rcases nativeTransfer?_eq_some made with ⟨stands, kind, amount⟩
    exact ⟨stands, _, _, _, meaning, kind ▸ .native _, amount⟩
  · rcases tokenTransfer?_eq_some made with
      ⟨source, destination, places, sourceNamed, destinationNamed, resolved, stands, kind, amount⟩
    exact ⟨stands, _, _, _, meaning,
      kind ▸ .transfer _ sourceNamed destinationNamed resolved, amount⟩
  · rcases tokenTransfer?_eq_some made with ⟨_, _, places, _, _, resolved, stands, kind, amount⟩
    simp only [Option.map_eq_some_iff, Prod.mk.injEq] at resolved
    rcases resolved with ⟨_, _, _, rfl⟩
    exact ⟨stands, _, _, _, meaning, kind ▸ .transferChecked _ _, amount⟩
  · rcases mintTransfer?_eq_some made with ⟨places, resolved, stands, kind, amount⟩
    exact ⟨stands, _, _, _, meaning, kind ▸ .mintTo _ resolved, amount⟩
  · rcases mintTransfer?_eq_some made with ⟨places, resolved, stands, kind, amount⟩
    cases resolved
    exact ⟨stands, _, _, _, meaning, kind ▸ .mintToChecked _ _, amount⟩
  · rcases burnTransfer?_eq_some made with ⟨places, resolved, stands, kind, amount⟩
    exact ⟨stands, _, _, _, meaning, kind ▸ .burn _ resolved, amount⟩
  · rcases burnTransfer?_eq_some made with ⟨places, resolved, stands, kind, amount⟩
    cases resolved
    exact ⟨stands, _, _, _, meaning, kind ▸ .burnChecked _ _, amount⟩
  · simp at made

theorem transfer?_eq_some : evidence.transfer? instruction position = some transfer ↔
    evidence.requestedTransfer? instruction position = some transfer ∧
      transfer.amount.unscaled ≠ 0 := by
  simp [transfer?, Option.filter_eq_some_iff]

theorem position_of_transfer? (made : evidence.transfer? instruction position = some transfer) :
    transfer.position = position :=
  (requestedTransfer?_counts (transfer?_eq_some.mp made).1).1

theorem mem_transfersAt {outer : Nat} :
    transfer ∈ evidence.transfersAt instruction outer ↔
      evidence.transfer? instruction (.topLevel outer) = some transfer ∨
        ∃ inner invoked, (evidence.transaction.invokedBy outer)[inner]? = some invoked ∧
          evidence.transfer? invoked (.invoked outer inner) = some transfer := by
  simp only [transfersAt, List.mem_append, Option.mem_toList, List.mem_filterMap, Prod.exists,
    List.mk_mem_zipIdx_iff_getElem?]
  constructor
  · rintro (own | ⟨invoked, inner, stands, made⟩)
    · exact Or.inl own
    · exact Or.inr ⟨inner, invoked, stands, made⟩
  · rintro (own | ⟨inner, invoked, stands, made⟩)
    · exact Or.inl own
    · exact Or.inr ⟨invoked, inner, stands, made⟩

theorem outer_of_mem_transfersAt {outer : Nat}
    (member : transfer ∈ evidence.transfersAt instruction outer) :
    transfer.position.outer = outer := by
  rcases mem_transfersAt.mp member with own | ⟨inner, invoked, _, made⟩
  · simp [position_of_transfer? own]
  · simp [position_of_transfer? made]

/-- Below one top-level instruction the transfers are in execution order. -/
theorem pairwise_transfersAt (evidence : Evidence) (instruction : Instruction) (outer : Nat) :
    (evidence.transfersAt instruction outer).Pairwise fun earlier later =>
      earlier.position < later.position := by
  rw [transfersAt, List.pairwise_append]
  refine ⟨?_, ?_, ?_⟩
  · cases evidence.transfer? instruction (.topLevel outer) <;> simp
  · rw [List.pairwise_filterMap]
    apply (pairwise_snd_zipIdx _ 0).imp
    rintro ⟨first, place⟩ ⟨second, later⟩ before
      transfer made next nextMade
    simpa [position_of_transfer? made, position_of_transfer? nextMade] using before
  · intro own ownMade transfer member
    simp only [List.mem_filterMap, Prod.exists, Option.mem_toList] at member ownMade
    rcases member with ⟨invoked, inner, _, made⟩
    rw [position_of_transfer? ownMade, position_of_transfer? made]
    exact Position.topLevel_lt_invoked outer inner

end Evidence

namespace Payload

variable {program : Address} {bytes : Bytes}

theorem program_of_decode_system {instruction : SystemInstruction}
    (decoded : decode program bytes = .system instruction) : program = Address.systemProgram := by
  unfold decode at decoded
  split at decoded
  · assumption
  · split_ifs at decoded

theorem program_of_decode_token {instruction : TokenInstruction}
    (decoded : decode program bytes = .token instruction) : Address.isTokenProgram program := by
  unfold decode at decoded
  split_ifs at decoded
  assumption

end Payload

theorem Evidence.Counts.moves_value {evidence : Evidence} {instruction : Instruction}
    {mint program : Address} {bytes : Bytes} {kind : TransferKind} {units : UInt64} {places : UInt8}
    (counts : evidence.Counts instruction mint (Payload.decode program bytes) kind units places) :
    program = Address.systemProgram ∨ Address.isTokenProgram program := by
  generalize meaning : Payload.decode program bytes = payload at counts
  cases counts with
  | native => exact Or.inl (Payload.program_of_decode_system meaning)
  | _ => exact Or.inr (Payload.program_of_decode_token meaning)

namespace Transaction

variable (transaction : Transaction)

/-- The transfers are those made by the instructions, each by the one at its position. -/
theorem mem_transfers_iff {transfer : Transfer} :
    transfer ∈ transaction.transfers ↔
      ∃ instruction, transaction.instructionAt? transfer.position = some instruction ∧
        (Evidence.ofTransaction transaction).transfer? instruction transfer.position =
          some transfer := by
  simp only [transfers, List.mem_flatMap, Prod.exists, List.mk_mem_zipIdx_iff_getElem?,
    Evidence.mem_transfersAt, instructionAt?_eq_some]
  constructor
  · rintro ⟨top, outer, stands, own | ⟨inner, invoked, invokedStands, made⟩⟩
    · have position := Evidence.position_of_transfer? own
      exact ⟨top, Or.inl ⟨outer, position, stands⟩, position ▸ own⟩
    · have position := Evidence.position_of_transfer? made
      have outer_lt := (List.getElem?_eq_some_iff.mp stands).1
      exact ⟨invoked, Or.inr ⟨outer, inner, position, outer_lt, invokedStands⟩, position ▸ made⟩
  · rintro ⟨instruction, ⟨outer, position, stands⟩ | ⟨outer, index, position, outer_lt, stands⟩,
      made⟩
    · rw [position] at made
      exact ⟨instruction, outer, stands, Or.inl made⟩
    · rw [position] at made
      exact ⟨transaction.instructions[outer], outer, List.getElem?_eq_getElem outer_lt,
        Or.inr ⟨index, instruction, stands, made⟩⟩

/-- The transfers of a transaction are in strict execution order. -/
theorem pairwise_transfers :
    transaction.transfers.Pairwise fun earlier later => earlier.position < later.position := by
  rw [transfers, List.pairwise_flatMap]
  constructor
  · rintro ⟨instruction, outer⟩ _
    exact Evidence.pairwise_transfersAt _ instruction outer
  · apply (pairwise_snd_zipIdx _ 0).imp
    rintro ⟨first, outer⟩ ⟨second, laterOuter⟩ before
      transfer member later laterMember
    apply Position.lt_of_outer_lt
    rw [Evidence.outer_of_mem_transfersAt member, Evidence.outer_of_mem_transfersAt laterMember]
    exact before

/-- An instruction of a program that moves value makes a transfer: it stands at the position of the
transfer, and the amount is the positive number of units that its payload states, read at the
decimal places that belong to them. -/
structure Makes (instruction : Instruction) (program : Address) (units : UInt64) (places : UInt8)
    (transfer : Transfer) : Prop where
  stands : transaction.instructionAt? transfer.position = some instruction
  program_eq : instruction.programAddress? transaction.accounts = some program
  moves_value : program = Address.systemProgram ∨ Address.isTokenProgram program
  counts : (Evidence.ofTransaction transaction).Counts instruction transfer.mint
    (Payload.decode program instruction.payload) transfer.kind units places
  amount_eq : transfer.amount = .ofUnits units places
  value_eq : transfer.amount.value = units.toNat * (10 : ℚ) ^ (-(places.toNat : ℤ))
  value_pos : 0 < transfer.amount.value

theorem exists_makes {transfer : Transfer} (member : transfer ∈ transaction.transfers) :
    ∃ instruction program units places,
      transaction.Makes instruction program units places transfer := by
  rcases transaction.mem_transfers_iff.mp member with ⟨instruction, stands, made⟩
  rcases Evidence.transfer?_eq_some.mp made with ⟨requested, moved⟩
  rcases Evidence.requestedTransfer?_counts requested with
    ⟨_, payload, units, places, meaning, counts, amount⟩
  rcases Option.map_eq_some_iff.mp meaning with ⟨program, named, rfl⟩
  have positive : transfer.amount.IsPositive := by
    rw [amount, Decimal.isPositive_ofUnits]
    simp only [amount, Decimal.ofUnits] at moved
    omega
  refine ⟨instruction, program, units, places, stands, named, counts.moves_value, counts, amount,
    ?_, (Decimal.isPositive_iff_value_pos _).mp positive⟩
  rw [amount, Decimal.value_ofUnits]

/-- No instruction makes two transfers. -/
theorem eq_of_position_eq {first second : Transfer} (firstMem : first ∈ transaction.transfers)
    (secondMem : second ∈ transaction.transfers) (same : first.position = second.position) :
    first = second := by
  rcases transaction.mem_transfers_iff.mp firstMem with ⟨maker, makerStands, made⟩
  rcases transaction.mem_transfers_iff.mp secondMem with ⟨other, otherStands, otherMade⟩
  rw [same] at makerStands made
  rw [makerStands, Option.some.injEq] at otherStands
  rw [otherStands, otherMade, Option.some.injEq] at made
  exact made.symm

/-- Reconstruction is ordered, single-valued and exact, whatever the transaction looks like: the
positions of the transfers ascend strictly, no two transfers share one, and every transfer is made
by the instruction at its position. -/
theorem transfers_ordered_and_exact :
    (transaction.transfers.Pairwise fun earlier later => earlier.position < later.position) ∧
      (∀ first ∈ transaction.transfers, ∀ second ∈ transaction.transfers,
        first.position = second.position → first = second) ∧
      ∀ transfer ∈ transaction.transfers, ∃ instruction program units places,
        transaction.Makes instruction program units places transfer := by
  refine ⟨transaction.pairwise_transfers, ?_, ?_⟩
  · intro first firstMem second secondMem same
    exact transaction.eq_of_position_eq firstMem secondMem same
  · intro transfer member
    exact transaction.exists_makes member

/-- A trader sends one coin through a router into a pool and back: the router invokes an exchange
twice, and the exchange moves the two sides of each trade. -/
def routedTrades : Transaction where
  signature := "routed"
  accountKeys := ["Trader", "TraderNative", "TraderCoin", "PoolNative", "PoolCoin", "Pool",
    "Router", Protocol.orca.program, Address.tokenProgram]
  loadedWritable := []
  loadedReadonly := []
  instructions := [⟨6, [0], "", none⟩]
  innerGroups := [⟨0, [
    ⟨7, [8, 0, 5], "", some 2⟩,
    ⟨8, [1, 3, 0], "3DbEuZHcyqBD", some 3⟩,
    ⟨8, [4, 2, 5], "3gFAscqFEt1m", some 3⟩,
    ⟨7, [8, 0, 5], "", some 2⟩,
    ⟨8, [2, 4, 0], "3gFAscqFEt1m", some 3⟩,
    ⟨8, [3, 1, 5], "3DatbrdhpabH", some 3⟩]⟩]
  preBalances := []
  postBalances := []
  preTokenBalances := []
  postTokenBalances := [
    ⟨1, Address.wrappedNative, "Trader", "996000000", 9⟩,
    ⟨2, "Coin", "Trader", "0", 6⟩,
    ⟨3, Address.wrappedNative, "Pool", "4000000", 9⟩,
    ⟨4, "Coin", "Pool", "2500000", 6⟩]

example : routedTrades.transfers.map (fun transfer => (transfer.position, transfer.amount)) =
    [(.invoked 0 1, ⟨1000000000, 9⟩), (.invoked 0 2, ⟨2500000, 6⟩),
      (.invoked 0 4, ⟨2500000, 6⟩), (.invoked 0 5, ⟨996000000, 9⟩)] := by
  decide +kernel

/-- One of these transfers, and what made it. -/
theorem exists_makes_routedTrades :
    let transfer : Transfer := ⟨.invoked 0 5, "Pool", "Trader", "Pool", Address.wrappedNative,
      ⟨996000000, 9⟩, .token⟩
    transfer ∈ routedTrades.transfers ∧
      ∃ instruction program units places,
        routedTrades.Makes instruction program units places transfer :=
  ⟨by decide +kernel,
    (transfers_ordered_and_exact routedTrades).2.2 _ (by decide +kernel)⟩

end Transaction

end SwapLedger
