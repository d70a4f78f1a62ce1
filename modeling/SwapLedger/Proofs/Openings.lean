import SwapLedger.Proofs.Layouts
import SwapLedger.Proofs.Reconstruction

/-!
# Openings of token accounts

Which instructions open a token account, told from the bytes of their payloads and from the places
of their account lists: the creation by the associated token program, and the three editions of the
initialization by a token program. The later two editions carry the owner in the payload.
-/

namespace SwapLedger

/-! ## What payloads ask for -/

namespace TokenInstruction

variable {payload : Bytes} {owner : Address}

/-- An instruction that opens an account is known by its first byte alone. -/
theorem decode_eq_initializeAccount_iff :
    decode payload = .initializeAccount ↔ payload.head? = some 1 := by
  rcases payload with _ | ⟨tag, rest⟩
  · simp [decode]
  · rw [decode, List.head?_cons, Option.some.injEq, ← UInt8.toNat_inj]
    split <;> simp_all

/-- An instruction that opens an account for an owner it names is known by its first byte, and the
owner stands right behind it. -/
theorem decode_eq_initializedFor_iff :
    decode payload = .initializeAccount2 owner ∨ decode payload = .initializeAccount3 owner ↔
      (payload.head? = some 16 ∨ payload.head? = some 18) ∧
        SystemInstruction.addressAt payload 1 = owner := by
  rcases payload with _ | ⟨tag, rest⟩
  · simp [decode]
  · rw [decode, List.head?_cons, Option.some.injEq, Option.some.injEq, ← UInt8.toNat_inj,
      ← UInt8.toNat_inj]
    split <;> simp_all

/-- A transfer is known by its first byte, however short its payload is. -/
theorem exists_decode_eq_transfer_iff :
    (∃ amount, decode payload = .transfer amount) ↔ payload.head? = some 3 := by
  rcases payload with _ | ⟨tag, rest⟩
  · simp [decode]
  · rw [decode, List.head?_cons, Option.some.injEq, ← UInt8.toNat_inj]
    split <;> simp_all

/-- A checked transfer is known by its first byte, however short its payload is. -/
theorem exists_decode_eq_transferChecked_iff :
    (∃ amount decimals, decode payload = .transferChecked amount decimals) ↔
      payload.head? = some 12 := by
  rcases payload with _ | ⟨tag, rest⟩
  · simp [decode]
  · rw [decode, List.head?_cons, Option.some.injEq, ← UInt8.toNat_inj]
    split <;> simp_all

end TokenInstruction

/-- An associated account is created by an empty payload, and by one that starts with zero or one.
-/
theorem AssociatedTokenInstruction.createsAccount_decode_iff {payload : Bytes} :
    (decode payload).createsAccount ↔
      payload.head? = none ∨ payload.head? = some 0 ∨ payload.head? = some 1 := by
  rcases payload with _ | ⟨tag, rest⟩
  · simp [decode, createsAccount]
  · rw [decode, List.head?_cons, Option.some.injEq, Option.some.injEq, ← UInt8.toNat_inj,
      ← UInt8.toNat_inj]
    split <;> simp_all [createsAccount]

/-! ## Openings -/

/-- Whether the payload of an instruction holds the owner that it should hold. -/
def Instruction.HoldsOwner (table : AccountTable) (instruction : Instruction) : Prop :=
  ∀ program, instruction.programAddress? table = some program → Address.isTokenProgram program →
    instruction.payload.head? = some 16 ∨ instruction.payload.head? = some 18 →
      33 ≤ instruction.payload.length

instance (table : AccountTable) (instruction : Instruction) :
    Decidable (instruction.HoldsOwner table) :=
  inferInstanceAs (Decidable (∀ program ∈ instruction.programAddress? table,
    Address.isTokenProgram program →
      instruction.payload.head? = some 16 ∨ instruction.payload.head? = some 18 →
        33 ≤ instruction.payload.length))

/-- An instruction opens a token account: where it names the account, its owner and its mint depends
on the program and the edition. -/
inductive Instruction.Opens (table : AccountTable) (instruction : Instruction)
    (account owner mint : Address) : Prop where
  | associated
      (addressed : instruction.programAddress? table = some Address.associatedTokenProgram)
      (tagged : instruction.payload.head? = none ∨ instruction.payload.head? = some 0 ∨
        instruction.payload.head? = some 1)
      (accountNamed : instruction.account? table 1 = some account)
      (ownerNamed : instruction.account? table 2 = some owner)
      (mintNamed : instruction.account? table 3 = some mint)
  | initialized {program : Address}
      (addressed : instruction.programAddress? table = some program)
      (ofToken : Address.isTokenProgram program) (tagged : instruction.payload.head? = some 1)
      (accountNamed : instruction.account? table 0 = some account)
      (ownerNamed : instruction.account? table 2 = some owner)
      (mintNamed : instruction.account? table 1 = some mint)
  | initializedFor {program : Address} (key : PublicKey)
      (addressed : instruction.programAddress? table = some program)
      (ofToken : Address.isTokenProgram program)
      (tagged : instruction.payload.head? = some 16 ∨ instruction.payload.head? = some 18)
      (accountNamed : instruction.account? table 0 = some account)
      (ownerHeld : instruction.payload.slice? 1 32 = some key.bytes)
      (owner_eq : owner = key.address)
      (mintNamed : instruction.account? table 1 = some mint)

namespace Instruction

variable {table : AccountTable} {instruction : Instruction} {account owner mint : Address}

/-- An instruction is one of a token program just if its program is one and its payload decodes to
it. -/
theorem meaning?_eq_token_iff {asked : TokenInstruction} :
    instruction.meaning? table = some (.token asked) ↔
      ∃ program, instruction.programAddress? table = some program ∧
        Address.isTokenProgram program ∧ .decode instruction.payload = asked := by
  rw [meaning?, Option.map_eq_some_iff]
  constructor
  · rintro ⟨program, addressed, decoded⟩
    have ofToken := Payload.program_of_decode_token decoded
    rw [Payload.decode_token ofToken, Payload.token.injEq] at decoded
    exact ⟨program, addressed, ofToken, decoded⟩
  · rintro ⟨program, addressed, ofToken, rfl⟩
    exact ⟨program, addressed, Payload.decode_token ofToken⟩

theorem meaning?_eq_associatedToken_iff {asked : AssociatedTokenInstruction} :
    instruction.meaning? table = some (.associatedToken asked) ↔
      instruction.programAddress? table = some Address.associatedTokenProgram ∧
        .decode instruction.payload = asked := by
  rw [meaning?, Option.map_eq_some_iff]
  constructor
  · rintro ⟨program, addressed, decoded⟩
    unfold Payload.decode at decoded
    split_ifs at decoded with _ _ ofAssociatedToken
    rw [Payload.associatedToken.injEq] at decoded
    exact ⟨ofAssociatedToken ▸ addressed, decoded⟩
  · rintro ⟨addressed, rfl⟩
    exact ⟨Address.associatedTokenProgram, addressed, rfl⟩

theorem mem_of_account? {place : Nat} {address : Address}
    (named : instruction.account? table place = some address) : address ∈ table := by
  rw [account?, Option.bind_eq_some_iff] at named
  rcases named with ⟨number, _, numbered⟩
  exact List.mem_of_getElem? numbered

/-- Who opens an account is named, if all addresses of the transaction are. -/
theorem Opens.owner_ne_empty (named : ∀ address ∈ table, address ≠ "")
    (opens : instruction.Opens table account owner mint) : owner ≠ "" := by
  cases opens with
  | associated _ _ _ ownerNamed _ => exact named owner (mem_of_account? ownerNamed)
  | initialized _ _ _ _ ownerNamed _ => exact named owner (mem_of_account? ownerNamed)
  | initializedFor key _ _ _ _ _ owner_eq _ =>
      rw [owner_eq]
      exact key.address_ne_empty

/-- The owner stands behind the tag if the payload is long enough. -/
theorem opens_initializedFor {program : Address}
    (addressed : instruction.programAddress? table = some program)
    (ofToken : Address.isTokenProgram program)
    (decoded : TokenInstruction.decode instruction.payload = .initializeAccount2 owner ∨
      TokenInstruction.decode instruction.payload = .initializeAccount3 owner)
    (holds : instruction.HoldsOwner table)
    (accountNamed : instruction.account? table 0 = some account)
    (mintNamed : instruction.account? table 1 = some mint) :
    instruction.Opens table account owner mint := by
  rcases TokenInstruction.decode_eq_initializedFor_iff.mp decoded with ⟨tagged, rfl⟩
  have enough : 1 + 32 ≤ instruction.payload.length := holds program addressed ofToken tagged
  rcases Bytes.exists_slice? enough with ⟨field, held, length⟩
  exact .initializedFor ⟨field, length⟩ addressed ofToken tagged accountNamed held
    (SystemInstruction.addressAt_of_slice? held) mintNamed

/-- What is read as an opening is one. -/
theorem opens_of_opening? (holds : instruction.HoldsOwner table)
    (opening : instruction.opening? table = some ⟨account, owner, mint⟩) :
    instruction.Opens table account owner mint := by
  simp only [opening?, Option.bind_eq_bind, Option.bind_eq_some_iff] at opening
  rcases opening with ⟨payload, meaning, opening⟩
  split at opening
  · rcases meaning?_eq_associatedToken_iff.mp meaning with ⟨addressed, rfl⟩
    split_ifs at opening with creates
    simp only [Option.pure_def, Option.bind_eq_some_iff, Option.some.injEq,
      Opening.mk.injEq] at opening
    rcases opening with ⟨_, accountNamed, _, ownerNamed, _, mintNamed, rfl, rfl, rfl⟩
    exact .associated addressed (AssociatedTokenInstruction.createsAccount_decode_iff.mp creates)
      accountNamed ownerNamed mintNamed
  · rcases meaning?_eq_token_iff.mp meaning with ⟨program, addressed, ofToken, initializes⟩
    simp only [Option.pure_def, Option.bind_eq_some_iff, Option.some.injEq,
      Opening.mk.injEq] at opening
    rcases opening with ⟨_, accountNamed, _, ownerNamed, _, mintNamed, rfl, rfl, rfl⟩
    exact .initialized addressed ofToken
      (TokenInstruction.decode_eq_initializeAccount_iff.mp initializes) accountNamed ownerNamed
      mintNamed
  · rcases meaning?_eq_token_iff.mp meaning with ⟨program, addressed, ofToken, initializes⟩
    simp only [Option.pure_def, Option.bind_eq_some_iff, Option.some.injEq,
      Opening.mk.injEq] at opening
    rcases opening with ⟨_, accountNamed, _, mintNamed, rfl, rfl, rfl⟩
    exact opens_initializedFor addressed ofToken (Or.inl initializes) holds accountNamed mintNamed
  · rcases meaning?_eq_token_iff.mp meaning with ⟨program, addressed, ofToken, initializes⟩
    simp only [Option.pure_def, Option.bind_eq_some_iff, Option.some.injEq,
      Opening.mk.injEq] at opening
    rcases opening with ⟨_, accountNamed, _, mintNamed, rfl, rfl, rfl⟩
    exact opens_initializedFor addressed ofToken (Or.inr initializes) holds accountNamed mintNamed
  · simp at opening

/-- An opening is read as what it is. -/
theorem opening?_of_opens (opens : instruction.Opens table account owner mint) :
    instruction.opening? table = some ⟨account, owner, mint⟩ := by
  cases opens with
  | associated addressed tagged accountNamed ownerNamed mintNamed =>
      have meaning := meaning?_eq_associatedToken_iff.mpr ⟨addressed, rfl⟩
      have creates := AssociatedTokenInstruction.createsAccount_decode_iff.mpr tagged
      simp [opening?, meaning, creates, accountNamed, ownerNamed, mintNamed]
  | initialized addressed ofToken tagged accountNamed ownerNamed mintNamed =>
      have initializes := TokenInstruction.decode_eq_initializeAccount_iff.mpr tagged
      have meaning := meaning?_eq_token_iff.mpr ⟨_, addressed, ofToken, initializes⟩
      simp [opening?, meaning, accountNamed, ownerNamed, mintNamed]
  | initializedFor key addressed ofToken tagged accountNamed ownerHeld owner_eq mintNamed =>
      subst owner_eq
      have held := SystemInstruction.addressAt_of_slice? ownerHeld
      rcases TokenInstruction.decode_eq_initializedFor_iff.mpr ⟨tagged, held⟩ with
        initializes | initializes
      · have meaning := meaning?_eq_token_iff.mpr ⟨_, addressed, ofToken, initializes⟩
        simp [opening?, meaning, accountNamed, mintNamed]
      · have meaning := meaning?_eq_token_iff.mpr ⟨_, addressed, ofToken, initializes⟩
        simp [opening?, meaning, accountNamed, mintNamed]

/-- An opening is read from just the instructions that open an account, with its owner and its mint.
-/
theorem opening?_eq_some_iff (holds : instruction.HoldsOwner table) :
    instruction.opening? table = some ⟨account, owner, mint⟩ ↔
      instruction.Opens table account owner mint :=
  ⟨opens_of_opening? holds, opening?_of_opens⟩

end Instruction

end SwapLedger
