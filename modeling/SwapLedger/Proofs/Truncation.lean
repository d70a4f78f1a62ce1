import SwapLedger.Proofs.Layouts
import SwapLedger.Proofs.Reconstruction

/-!
# Truncated payloads

An instruction that moves value states the amount in its payload. If the payload ends before the
amount does, the amount is read as zero, and nothing is moved. Only the checked instructions of the
token programs have a field behind the amount, the decimals of the mint. A payload that lacks just
this byte states an amount all the same: it is then counted in whole tokens.
-/

namespace SwapLedger

/-- Where the amount stands in the payload of an instruction that moves value, and how long the
payload is if nothing is missing. A tag of fewer than four bytes counts as completed by zeros. -/
inductive Payload.StatesAmount (program : Address) (payload : Bytes) :
    (offset length : Nat) → Prop where
  | native (addressed : program = Address.systemProgram)
      (tagged : SystemInstruction.tag payload = 2) : StatesAmount program payload 4 12
  | unchecked {tag : UInt8} (addressed : Address.isTokenProgram program)
      (tagged : payload.head? = some tag) (moves : tag = 3 ∨ tag = 7 ∨ tag = 8) :
      StatesAmount program payload 1 9
  | checked {tag : UInt8} (addressed : Address.isTokenProgram program)
      (tagged : payload.head? = some tag) (moves : tag = 12 ∨ tag = 14 ∨ tag = 15) :
      StatesAmount program payload 1 10

namespace Payload

variable {program : Address} {payload : Bytes} {offset length : Nat}

/-- What an instruction moves is the amount that stands in its payload. Behind it stand the decimals
at which a checked instruction counts it. -/
theorem StatesAmount.units_eq {evidence : Evidence} {instruction : Instruction} {mint : Address}
    {kind : TransferKind} {units : UInt64} {places : UInt8}
    (states : StatesAmount program payload offset length)
    (counts : evidence.Counts instruction mint (decode program payload) kind units places) :
    units = SystemInstruction.amountAt payload offset ∧
      (length = 10 → places = TokenInstruction.byteAt payload 9) := by
  cases states with
  | native addressed tagged =>
      have filled : payload ≠ [] := by
        rintro rfl
        revert tagged
        decide
      rw [decode, if_pos addressed, SystemInstruction.decode, if_neg filled, tagged] at counts
      cases counts
      exact ⟨rfl, by simp⟩
  | unchecked addressed tagged moves =>
      rcases List.head?_eq_some_iff.mp tagged with ⟨rest, rfl⟩
      rw [decode_token addressed] at counts
      rcases moves with rfl | rfl | rfl <;> cases counts <;> exact ⟨rfl, by simp⟩
  | checked addressed tagged moves =>
      rcases List.head?_eq_some_iff.mp tagged with ⟨rest, rfl⟩
      rw [decode_token addressed] at counts
      rcases moves with rfl | rfl | rfl <;> cases counts <;> exact ⟨rfl, fun _ => rfl⟩

/-- A payload that is too short and still states its amount is that of a checked instruction that
lacks just the decimals. -/
theorem StatesAmount.lacks (states : StatesAmount program payload offset length)
    (truncated : payload.length < length) (stated : offset + 8 ≤ payload.length) :
    length = 10 ∧ payload.length = 9 := by
  cases states <;> omega

end Payload

namespace Transaction

variable {transaction : Transaction} {position : Position} {instruction : Instruction}
  {program : Address} {offset length : Nat} {transfer : Transfer}

theorem Makes.units_ne_zero {units : UInt64} {places : UInt8}
    (makes : transaction.Makes instruction program units places transfer) : units ≠ 0 := by
  rintro rfl
  have positive := makes.value_pos
  rw [makes.value_eq] at positive
  simp at positive

/-- The one instruction at a position makes the transfer at that position. -/
theorem exists_makes_of_stands (stands : transaction.instructionAt? position = some instruction)
    (addressed : instruction.programAddress? transaction.accounts = some program)
    (member : transfer ∈ transaction.transfers) (same : transfer.position = position) :
    ∃ units places, transaction.Makes instruction program units places transfer := by
  rcases transaction.exists_makes member with ⟨maker, named, units, places, makes⟩
  have sameMaker : maker = instruction := by
    have made := makes.stands
    rw [same, stands, Option.some.injEq] at made
    exact made.symm
  subst sameMaker
  have sameProgram : named = program := by
    have resolved := makes.program_eq
    rw [addressed, Option.some.injEq] at resolved
    exact resolved.symm
  subst sameProgram
  exact ⟨units, places, makes⟩

/-- A truncated payload moves nothing, unless it is that of a checked instruction and lacks just the
byte with the decimals; what is then moved counts as if the mint had none. -/
theorem unmoved_unless_decimals_missing
    (stands : transaction.instructionAt? position = some instruction)
    (addressed : instruction.programAddress? transaction.accounts = some program)
    (states : Payload.StatesAmount program instruction.payload offset length)
    (truncated : instruction.payload.length < length) :
    (¬(length = 10 ∧ instruction.payload.length = 9) →
      ∀ transfer ∈ transaction.transfers, transfer.position ≠ position) ∧
      (length = 10 ∧ instruction.payload.length = 9 →
        ∀ transfer ∈ transaction.transfers, transfer.position = position →
          transfer.amount =
            .ofUnits (SystemInstruction.amountAt instruction.payload offset) 0) := by
  constructor
  · intro notLacking transfer member same
    rcases exists_makes_of_stands stands addressed member same with ⟨units, places, makes⟩
    have cut : instruction.payload.length < offset + 8 := by
      by_contra stated
      exact notLacking (states.lacks truncated (by omega))
    apply makes.units_ne_zero
    rw [(states.units_eq makes.counts).1]
    exact SystemInstruction.amountAt_eq_zero cut
  · rintro ⟨checked, lacking⟩ transfer member same
    rcases exists_makes_of_stands stands addressed member same with ⟨units, places, makes⟩
    rcases states.units_eq makes.counts with ⟨units_eq, places_eq⟩
    have missing : TokenInstruction.byteAt instruction.payload 9 = 0 := by
      simp [TokenInstruction.byteAt, Bytes.u8?, lacking]
    rw [makes.amount_eq, units_eq, places_eq checked, missing]

/-- A checked transfer of coins with six decimals, as far as its payload goes. -/
def coinTransfer (payload : Bytes) : Transaction where
  signature := "coin"
  accountKeys := ["Sender", "SenderCoin", "Coin", "ReceiverCoin", Address.tokenProgram]
  loadedWritable := []
  loadedReadonly := []
  instructions := [⟨4, [1, 2, 3, 0], Base58.encode payload, none⟩]
  innerGroups := []
  preBalances := []
  postBalances := []
  preTokenBalances := []
  postTokenBalances := [
    ⟨1, "Coin", "Sender", "0", 6⟩,
    ⟨3, "Coin", "Receiver", "2500000", 6⟩]

/-- Without the last byte of the amount nothing is moved. -/
theorem unmoved_coinTransfer :
    let payload := 12 :: (Bytes.ofUInt64 2500000).take 7
    let instruction : Instruction := ⟨4, [1, 2, 3, 0], Base58.encode payload, none⟩
    (coinTransfer payload).instructionAt? (.topLevel 0) = some instruction ∧
      instruction.programAddress? (coinTransfer payload).accounts = some Address.tokenProgram ∧
      Payload.StatesAmount Address.tokenProgram instruction.payload 1 10 ∧
      instruction.payload.length < 10 ∧
      ¬(10 = 10 ∧ instruction.payload.length = 9) ∧
      ∀ transfer ∈ (coinTransfer payload).transfers, transfer.position ≠ .topLevel 0 := by
  intro payload instruction
  have stands : (coinTransfer payload).instructionAt? (.topLevel 0) = some instruction := rfl
  have addressed : instruction.programAddress? (coinTransfer payload).accounts =
      some Address.tokenProgram := rfl
  have states : Payload.StatesAmount Address.tokenProgram instruction.payload 1 10 :=
    .checked (by decide +kernel) (by decide +kernel) (Or.inl rfl)
  have truncated : instruction.payload.length < 10 := by decide +kernel
  have notLacking : ¬(10 = 10 ∧ instruction.payload.length = 9) := by decide +kernel
  exact ⟨stands, addressed, states, truncated, notLacking,
    (unmoved_unless_decimals_missing stands addressed states truncated).1 notLacking⟩

/-- Without the decimals the coins are moved: two and a half count as two and a half million. -/
theorem moved_coinTransfer :
    let payload := 12 :: Bytes.ofUInt64 2500000
    let instruction : Instruction := ⟨4, [1, 2, 3, 0], Base58.encode payload, none⟩
    (coinTransfer payload).instructionAt? (.topLevel 0) = some instruction ∧
      instruction.programAddress? (coinTransfer payload).accounts = some Address.tokenProgram ∧
      Payload.StatesAmount Address.tokenProgram instruction.payload 1 10 ∧
      instruction.payload.length < 10 ∧
      ∃ transfer ∈ (coinTransfer payload).transfers,
        transfer.position = .topLevel 0 ∧ transfer.amount = ⟨2500000, 0⟩ :=
  ⟨rfl, rfl, .checked (by decide +kernel) (by decide +kernel) (Or.inl rfl), by decide +kernel,
    ⟨.topLevel 0, "Sender", "Receiver", "Sender", "Coin", ⟨2500000, 0⟩, .token⟩,
    by decide +kernel, rfl, rfl⟩

end Transaction

end SwapLedger
