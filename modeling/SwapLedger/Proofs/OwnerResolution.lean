import SwapLedger.Proofs.Openings

/-!
# Owners of token accounts

Who owns a token account is told in two ways. A balance after the transaction names the account by
its number, and the last one that can be read counts. An instruction that opens the account names it
by its address, and the first one counts, with the top-level instructions before all others. The
balance goes first, unless it leaves the owner out. Tokens are moved between accounts only if the
owners of both are told.
-/

namespace SwapLedger

/-! ## First and last -/

/-- Whether an element of a list is the first one with a property. -/
def IsFirst {α : Type} (list : List α) (holds : α → Prop) (element : α) : Prop :=
  ∃ before after, list = before ++ element :: after ∧ holds element ∧
    ∀ earlier ∈ before, ¬holds earlier

/-- Whether an element of a list is the last one with a property. -/
def IsLast {α : Type} (list : List α) (holds : α → Prop) (element : α) : Prop :=
  ∃ before after, list = before ++ element :: after ∧ holds element ∧
    ∀ later ∈ after, ¬holds later

section FirstAndLast

variable {α β : Type} {list : List α} {holds other : α → Prop} {element : α}

theorem IsFirst.property (first : IsFirst list holds element) : holds element := by
  rcases first with ⟨_, _, _, element_holds, _⟩
  exact element_holds

theorem IsFirst.mem (first : IsFirst list holds element) : element ∈ list := by
  rcases first with ⟨before, after, rfl, _, _⟩
  simp

theorem IsLast.property (last : IsLast list holds element) : holds element := by
  rcases last with ⟨_, _, _, element_holds, _⟩
  exact element_holds

theorem IsFirst.congr (same : ∀ element ∈ list, holds element ↔ other element)
    (first : IsFirst list holds element) : IsFirst list other element := by
  rcases first with ⟨before, after, rfl, element_holds, none⟩
  refine ⟨before, after, rfl, (same element (by simp)).mp element_holds, ?_⟩
  intro earlier member
  rw [← same earlier (List.mem_append_left _ member)]
  exact none earlier member

theorem isFirst_iff_find? {test : α → Bool} :
    IsFirst list (fun element => test element) element ↔ list.find? test = some element := by
  simp only [IsFirst, List.find?_eq_some_iff_append, Bool.not_eq_true, Bool.not_eq_eq_eq_not,
    Bool.not_true]
  constructor
  · rintro ⟨before, after, split, element_holds, first⟩
    exact ⟨element_holds, before, after, split, first⟩
  · rintro ⟨element_holds, before, after, split, first⟩
    exact ⟨before, after, split, element_holds, first⟩

theorem exists_isFirst (member : element ∈ list) (element_holds : holds element) :
    ∃ first, IsFirst list holds first := by
  classical
  have found : (list.find? (decide <| holds ·)).isSome :=
    List.find?_isSome.mpr ⟨element, member, decide_eq_true element_holds⟩
  rcases Option.isSome_iff_exists.mp found with ⟨first, found⟩
  refine ⟨first, (isFirst_iff_find?.mpr found).congr ?_⟩
  intro other _
  exact decide_eq_true_iff

theorem isLast_iff_isFirst_reverse : IsLast list holds element ↔
    IsFirst list.reverse holds element := by
  constructor
  · rintro ⟨before, after, rfl, element_holds, last⟩
    refine ⟨after.reverse, before.reverse, by simp, element_holds, ?_⟩
    intro later member
    exact last later (List.mem_reverse.mp member)
  · rintro ⟨after, before, split, element_holds, last⟩
    refine ⟨before.reverse, after.reverse, ?_, element_holds, ?_⟩
    · rw [List.reverse_eq_iff] at split
      simp [split]
    · intro later member
      exact last later (List.mem_reverse.mp member)

theorem getLast?_filterMap_eq_some_iff {read : α → Option β} {value : β} :
    (list.filterMap read).getLast? = some value ↔
      ∃ element, IsLast list (fun element => (read element).isSome) element ∧
        read element = some value := by
  rw [List.getLast?_filterMap, List.findSome?_eq_some_iff]
  constructor
  · rintro ⟨later, element, earlier, split, reads, none⟩
    refine ⟨element, isLast_iff_isFirst_reverse.mpr ⟨later, earlier, split, ?_, ?_⟩, reads⟩
    · simp [reads]
    · intro other member
      simp [none other member]
  · rintro ⟨element, last, reads⟩
    rcases isLast_iff_isFirst_reverse.mp last with ⟨later, earlier, split, _, none⟩
    refine ⟨later, element, earlier, split, reads, ?_⟩
    intro other member
    simpa using none other member

end FirstAndLast

/-! ## Owners -/

/-- Whether the amount of a balance can be read. -/
def TokenBalance.IsReadable (balance : TokenBalance) : Prop :=
  (TokenBalance.units? balance.amount).isSome

namespace Transaction

variable (transaction : Transaction)

/-- The last balance of a token account afterwards that can be read. -/
def LastBalance (account : UInt8) (balance : TokenBalance) : Prop :=
  IsLast transaction.postTokenBalances
    (fun balance => balance.account = account ∧ balance.IsReadable) balance

/-- The first instruction that opens the token account with an address. -/
def FirstOpening (address : Address) (instruction : Instruction) : Prop :=
  IsFirst transaction.allInstructions
    (fun instruction => ∃ owner mint, instruction.Opens transaction.accounts address owner mint)
    instruction

/-- Who owns the token account with a number, as far as the transaction tells. -/
inductive TellsOwner (account : UInt8) (owner : Address) : Prop where
  | ofBalance {balance : TokenBalance} (last : transaction.LastBalance account balance)
      (told : balance.owner = owner) (filled : owner ≠ "")
  | ofOpening {address mint : Address} {instruction : Instruction}
      (untold : ∀ balance, transaction.LastBalance account balance → balance.owner = "")
      (numbered : transaction.accounts.address? account = some address)
      (first : transaction.FirstOpening address instruction)
      (opens : instruction.Opens transaction.accounts address owner mint)

variable {transaction} {account : UInt8} {balance : TokenBalance}

theorem getLast?_balancesAfter_eq_some_iff {units : Nat} :
    (transaction.balancesAfter account).getLast? = some (balance, units) ↔
      transaction.LastBalance account balance ∧
        TokenBalance.units? balance.amount = some units := by
  have readable (entry : TokenBalance) : ((if entry.account = account then
      (TokenBalance.units? entry.amount).map (entry, ·) else none).isSome = true) =
        (entry.account = account ∧ entry.IsReadable) := by
    by_cases named : entry.account = account <;> simp [named, TokenBalance.IsReadable]
  simp only [balancesAfter, getLast?_filterMap_eq_some_iff, readable]
  constructor
  · rintro ⟨entry, last, reads⟩
    rw [if_pos (IsLast.property last).1, Option.map_eq_some_iff] at reads
    rcases reads with ⟨_, reads, same⟩
    cases same
    exact ⟨last, reads⟩
  · rintro ⟨last, reads⟩
    exact ⟨balance, last, by simp [(IsLast.property last).1, reads]⟩

/-- A change is told just if there is a last balance, and that one tells the owner. -/
theorem tokenChange?_cases (transaction : Transaction) (account : UInt8) :
    (transaction.tokenChange? account = none ∧
      ∀ balance, ¬transaction.LastBalance account balance) ∨
      ∃ change balance, transaction.tokenChange? account = some change ∧
        transaction.LastBalance account balance ∧ balance.owner = change.owner ∧
          ∀ other, transaction.LastBalance account other → other = balance := by
  have exists_units {other : TokenBalance} (last : transaction.LastBalance account other) :
      ∃ units, (transaction.balancesAfter account).getLast? = some (other, units) := by
    rcases Option.isSome_iff_exists.mp (IsLast.property last).2 with ⟨units, reads⟩
    exact ⟨units, getLast?_balancesAfter_eq_some_iff.mpr ⟨last, reads⟩⟩
  rw [tokenChange?]
  cases found : (transaction.balancesAfter account).getLast? with
  | none =>
      left
      refine ⟨rfl, ?_⟩
      intro balance last
      rcases exists_units last with ⟨units, other⟩
      simp [found] at other
  | some entry =>
      right
      rcases entry with ⟨balance, units⟩
      refine ⟨_, balance, rfl, (getLast?_balancesAfter_eq_some_iff.mp found).1, rfl, ?_⟩
      intro other last
      rcases exists_units last with ⟨otherUnits, otherFound⟩
      rw [found, Option.some.injEq, Prod.mk.injEq] at otherFound
      exact otherFound.1.symm

end Transaction

namespace Transaction

variable {transaction : Transaction} {account : UInt8} {owner : Address}

/-- Where the balances leave the owner out, the openings tell it. -/
theorem tellsOwner_iff_of_untold
    (untold : ∀ balance, transaction.LastBalance account balance → balance.owner = "") :
    transaction.TellsOwner account owner ↔
      ∃ address mint instruction, transaction.accounts.address? account = some address ∧
        transaction.FirstOpening address instruction ∧
          instruction.Opens transaction.accounts address owner mint := by
  constructor
  · intro tells
    cases tells with
    | ofBalance last told filled =>
        rw [untold _ last] at told
        exact absurd told.symm filled
    | ofOpening _ numbered first opens => exact ⟨_, _, _, numbered, first, opens⟩
  · rintro ⟨address, mint, instruction, numbered, first, opens⟩
    exact .ofOpening untold numbered first opens

/-- An owner is told if a balance or any opening tells one. -/
theorem exists_tellsOwner_iff : (∃ owner, transaction.TellsOwner account owner) ↔
    (∃ balance, transaction.LastBalance account balance ∧ balance.owner ≠ "") ∨
      ∃ instruction ∈ transaction.allInstructions, ∃ address owner mint,
        transaction.accounts.address? account = some address ∧
          instruction.Opens transaction.accounts address owner mint := by
  constructor
  · rintro ⟨owner, tells⟩
    cases tells with
    | ofBalance last told filled => exact Or.inl ⟨_, last, told ▸ filled⟩
    | ofOpening _ numbered first opens =>
        exact Or.inr ⟨_, IsFirst.mem first, _, _, _, numbered, opens⟩
  · intro evidence
    by_cases told : ∃ balance, transaction.LastBalance account balance ∧ balance.owner ≠ ""
    · rcases told with ⟨balance, last, filled⟩
      exact ⟨balance.owner, .ofBalance last rfl filled⟩
    · rcases evidence.resolve_left told with
        ⟨instruction, member, address, owner, mint, numbered, opens⟩
      have opened : ∃ first, transaction.FirstOpening address first :=
        exists_isFirst member ⟨owner, mint, opens⟩
      rcases opened with ⟨first, isFirst⟩
      rcases IsFirst.property isFirst with ⟨firstOwner, firstMint, firstOpens⟩
      refine ⟨firstOwner, .ofOpening ?_ numbered isFirst firstOpens⟩
      intro balance last
      by_contra filled
      exact told ⟨balance, last, filled⟩

end Transaction

namespace Evidence

variable {transaction : Transaction} {account : UInt8} {address owner : Address}
  {opening : Opening}
  (named : ∀ address ∈ transaction.accounts, address ≠ "")
  (complete : ∀ instruction ∈ transaction.allInstructions,
    instruction.HoldsOwner transaction.accounts)

include complete

/-- What is known of the opening of an account is what the first instruction tells that opens it. -/
theorem find?_openings_eq_some_iff :
    (ofTransaction transaction).openings.find? (fun opening => opening.account == address) =
        some opening ↔
      opening.account = address ∧ ∃ instruction, transaction.FirstOpening address instruction ∧
        instruction.Opens transaction.accounts address opening.owner opening.mint := by
  have opens_iff : ∀ instruction ∈ transaction.allInstructions,
      ((instruction.opening? transaction.accounts).any fun opening =>
        opening.account == address) = true ↔
        ∃ owner mint, instruction.Opens transaction.accounts address owner mint := by
    intro instruction member
    rw [Option.any_eq_true]
    constructor
    · rintro ⟨opening, told, named⟩
      rw [beq_iff_eq] at named
      subst named
      exact ⟨opening.owner, opening.mint,
        (Instruction.opening?_eq_some_iff (complete instruction member)).mp told⟩
    · rintro ⟨owner, mint, opens⟩
      exact ⟨⟨address, owner, mint⟩, Instruction.opening?_of_opens opens, beq_self_eq_true _⟩
  simp only [ofTransaction, List.find?_filterMap, Option.bind_eq_some_iff]
  constructor
  · rintro ⟨instruction, found, told⟩
    have first : transaction.FirstOpening address instruction :=
      (isFirst_iff_find?.mpr found).congr opens_iff
    have named : opening.account = address := by
      simpa [told] using List.find?_some found
    subst named
    exact ⟨rfl, instruction, first, (Instruction.opening?_eq_some_iff
      (complete instruction (IsFirst.mem first))).mp told⟩
  · rintro ⟨rfl, instruction, first, opens⟩
    refine ⟨instruction, isFirst_iff_find?.mp (IsFirst.congr ?_ first),
      Instruction.opening?_of_opens opens⟩
    intro other member
    exact (opens_iff other member).symm

include named

theorem openedFor_eq_some_iff :
    owner?.openedFor (ofTransaction transaction) account = some owner ↔
      ∃ address mint instruction, transaction.accounts.address? account = some address ∧
        transaction.FirstOpening address instruction ∧
          instruction.Opens transaction.accounts address owner mint := by
  constructor
  · intro opened
    simp only [owner?.openedFor, opening?, Option.bind_eq_bind, Option.bind_eq_some_iff,
      find?_openings_eq_some_iff complete] at opened
    rcases opened with ⟨opening, ⟨address, numbered, rfl, instruction, first, opens⟩, owned⟩
    split_ifs at owned
    cases owned
    exact ⟨_, _, instruction, numbered, first, opens⟩
  · rintro ⟨address, mint, instruction, numbered, first, opens⟩
    have found : (ofTransaction transaction).openings.find? (fun opening =>
        opening.account == address) = some ⟨address, owner, mint⟩ :=
      (find?_openings_eq_some_iff complete).mpr ⟨rfl, instruction, first, opens⟩
    simp [owner?.openedFor, opening?, numbered, found, opens.owner_ne_empty named]

/-- The owner of a token account is the one that the transaction tells. -/
theorem owner?_eq_some_iff : (ofTransaction transaction).owner? account = some owner ↔
    transaction.TellsOwner account owner := by
  rw [owner?, transaction_ofTransaction]
  rcases transaction.tokenChange?_cases account with
    ⟨missing, absent⟩ | ⟨change, balance, told, last, same, only⟩
  · have untold : ∀ balance, transaction.LastBalance account balance → balance.owner = "" := by
      intro balance last
      exact absurd last (absent balance)
    rw [missing, Transaction.tellsOwner_iff_of_untold untold,
      ← openedFor_eq_some_iff named complete]
  · rw [told]
    dsimp only
    by_cases filled : change.owner = ""
    · have untold : ∀ balance, transaction.LastBalance account balance → balance.owner = "" := by
        intro other otherLast
        rw [only other otherLast, same, filled]
      rw [if_neg (not_not.mpr filled), Transaction.tellsOwner_iff_of_untold untold,
        ← openedFor_eq_some_iff named complete]
    · rw [if_pos filled, Option.some.injEq]
      constructor
      · rintro rfl
        exact .ofBalance last same filled
      · intro tells
        cases tells with
        | ofBalance otherLast otherTold _ =>
            rw [← otherTold, only _ otherLast, same]
        | ofOpening untold _ _ _ =>
            rw [← same] at filled
            exact absurd (untold balance last) filled

end Evidence

/-! ## Sides of a transfer -/

/-- An instruction moves tokens between two of its accounts, which stand at the places of the source
and of the destination. -/
inductive Instruction.MovesTokens (table : AccountTable) (instruction : Instruction) :
    (sourcePlace destinationPlace : Nat) → Prop where
  | transfer {program : Address} (addressed : instruction.programAddress? table = some program)
      (ofToken : Address.isTokenProgram program) (tagged : instruction.payload.head? = some 3) :
      MovesTokens table instruction 0 1
  | transferChecked {program : Address}
      (addressed : instruction.programAddress? table = some program)
      (ofToken : Address.isTokenProgram program) (tagged : instruction.payload.head? = some 12) :
      MovesTokens table instruction 0 2

/-- Who owns the token account at a place of an instruction, as far as the transaction tells. -/
def Transaction.TellsSide (transaction : Transaction) (instruction : Instruction) (place : Nat)
    (owner : Address) : Prop :=
  ∃ account, instruction.accounts[place]? = some account ∧ transaction.TellsOwner account owner

namespace Evidence

section Sides

variable {evidence : Evidence} {instruction : Instruction} {position : Position}
  {transfer : Transfer} {sourcePlace destinationPlace : Nat}

theorem sides_of_tokenTransfer? {authorityPlace : Nat}
    {resolve : UInt8 → UInt8 → Option (Address × UInt8)} {amount : UInt64}
    (made : evidence.tokenTransfer? instruction position sourcePlace destinationPlace
      authorityPlace resolve amount = some transfer) :
    (∃ source, instruction.accounts[sourcePlace]? = some source ∧
      evidence.owner? source = some transfer.source) ∧
    ∃ destination, instruction.accounts[destinationPlace]? = some destination ∧
      evidence.owner? destination = some transfer.destination := by
  simp only [tokenTransfer?, Option.bind_eq_bind, Option.bind_eq_some_iff, Option.pure_def,
    Option.some.injEq] at made
  rcases made with ⟨source, sourceNamed, destination, destinationNamed, _, _, _, sourceOwned, _,
    destinationOwned, _, _, rfl⟩
  exact ⟨⟨source, sourceNamed, sourceOwned⟩, destination, destinationNamed, destinationOwned⟩

/-- Instructions that move tokens move them from owner to owner. -/
theorem sides_of_transfer? (moves : instruction.MovesTokens evidence.table sourcePlace
      destinationPlace)
    (made : evidence.transfer? instruction position = some transfer) :
    (∃ source, instruction.accounts[sourcePlace]? = some source ∧
      evidence.owner? source = some transfer.source) ∧
    ∃ destination, instruction.accounts[destinationPlace]? = some destination ∧
      evidence.owner? destination = some transfer.destination := by
  have requested := (transfer?_eq_some.mp made).1
  cases moves with
  | transfer addressed ofToken tagged =>
      rcases TokenInstruction.exists_decode_eq_transfer_iff.mpr tagged with ⟨amount, decoded⟩
      have meaning := Instruction.meaning?_eq_token_iff.mpr ⟨_, addressed, ofToken, decoded⟩
      rw [requestedTransfer?, meaning] at requested
      exact sides_of_tokenTransfer? requested
  | transferChecked addressed ofToken tagged =>
      rcases TokenInstruction.exists_decode_eq_transferChecked_iff.mpr tagged with
        ⟨amount, decimals, decoded⟩
      have meaning := Instruction.meaning?_eq_token_iff.mpr ⟨_, addressed, ofToken, decoded⟩
      rw [requestedTransfer?, meaning] at requested
      exact sides_of_tokenTransfer? requested

/-- Transfers between token accounts are made by the instructions that move tokens. -/
theorem exists_movesTokens (made : evidence.transfer? instruction position = some transfer)
    (between : transfer.kind = .token) :
    ∃ sourcePlace destinationPlace,
      instruction.MovesTokens evidence.table sourcePlace destinationPlace := by
  rcases requestedTransfer?_counts (transfer?_eq_some.mp made).1 with
    ⟨_, payload, units, places, meaning, counts, _⟩
  rw [between] at counts
  cases counts with
  | transfer =>
      rcases Instruction.meaning?_eq_token_iff.mp meaning with ⟨program, addressed, ofToken, asks⟩
      exact ⟨0, 1, .transfer addressed ofToken
        (TokenInstruction.exists_decode_eq_transfer_iff.mp ⟨_, asks⟩)⟩
  | transferChecked =>
      rcases Instruction.meaning?_eq_token_iff.mp meaning with ⟨program, addressed, ofToken, asks⟩
      exact ⟨0, 2, .transferChecked addressed ofToken
        (TokenInstruction.exists_decode_eq_transferChecked_iff.mp ⟨_, _, asks⟩)⟩

end Sides

end Evidence

namespace Transaction

variable {transaction : Transaction}
  (named : ∀ address ∈ transaction.accounts, address ≠ "")
  (complete : ∀ instruction ∈ transaction.allInstructions,
    instruction.HoldsOwner transaction.accounts)

include named complete

theorem tellsSides_of_transfer? {instruction : Instruction} {position : Position}
    {transfer : Transfer} {sourcePlace destinationPlace : Nat}
    (moves : instruction.MovesTokens transaction.accounts sourcePlace destinationPlace)
    (made : (Evidence.ofTransaction transaction).transfer? instruction position =
      some transfer) :
    transaction.TellsSide instruction sourcePlace transfer.source ∧
      transaction.TellsSide instruction destinationPlace transfer.destination := by
  rcases Evidence.sides_of_transfer? moves made with
    ⟨⟨source, sourceNamed, sourceOwned⟩, destination, destinationNamed, destinationOwned⟩
  rw [Evidence.owner?_eq_some_iff named complete] at sourceOwned destinationOwned
  exact ⟨⟨source, sourceNamed, sourceOwned⟩, destination, destinationNamed, destinationOwned⟩

/-- Owners are resolved exactly as far as the transaction tells them. A transfer between token
accounts leads from the owner of the one to the owner of the other, and an instruction that moves
tokens makes none if either owner is not told. -/
theorem owners_resolved_exactly :
    (∀ account owner, (Evidence.ofTransaction transaction).owner? account = some owner ↔
      transaction.TellsOwner account owner) ∧
      (∀ account, ((Evidence.ofTransaction transaction).owner? account).isSome ↔
        (∃ balance, transaction.LastBalance account balance ∧ balance.owner ≠ "") ∨
          ∃ instruction ∈ transaction.allInstructions, ∃ address owner mint,
            transaction.accounts.address? account = some address ∧
              instruction.Opens transaction.accounts address owner mint) ∧
      (∀ transfer ∈ transaction.transfers, transfer.kind = .token →
        ∃ instruction sourcePlace destinationPlace,
          transaction.instructionAt? transfer.position = some instruction ∧
            instruction.MovesTokens transaction.accounts sourcePlace destinationPlace ∧
            transaction.TellsSide instruction sourcePlace transfer.source ∧
            transaction.TellsSide instruction destinationPlace transfer.destination) ∧
      ∀ position instruction sourcePlace destinationPlace,
        transaction.instructionAt? position = some instruction →
          instruction.MovesTokens transaction.accounts sourcePlace destinationPlace →
          (∀ owner, ¬transaction.TellsSide instruction sourcePlace owner) ∨
            (∀ owner, ¬transaction.TellsSide instruction destinationPlace owner) →
          ∀ transfer ∈ transaction.transfers, transfer.position ≠ position := by
  have resolved : ∀ account owner, (Evidence.ofTransaction transaction).owner? account =
      some owner ↔ transaction.TellsOwner account owner := by
    intro account owner
    exact Evidence.owner?_eq_some_iff named complete
  refine ⟨resolved, ?_, ?_, ?_⟩
  · intro account
    simp only [Option.isSome_iff_exists, resolved, exists_tellsOwner_iff]
  · intro transfer member between
    rcases transaction.mem_transfers_iff.mp member with ⟨instruction, stands, made⟩
    rcases Evidence.exists_movesTokens made between with ⟨sourcePlace, destinationPlace, moves⟩
    exact ⟨instruction, sourcePlace, destinationPlace, stands, moves,
      tellsSides_of_transfer? named complete moves made⟩
  · intro position instruction sourcePlace destinationPlace stands moves untold transfer member
    rintro rfl
    rcases transaction.mem_transfers_iff.mp member with ⟨maker, makerStands, made⟩
    rw [stands, Option.some.injEq] at makerStands
    subst makerStands
    rcases tellsSides_of_transfer? named complete moves made with ⟨ofSource, ofDestination⟩
    rcases untold with untold | untold
    · exact untold _ ofSource
    · exact untold _ ofDestination

omit named complete

/-- The key of a vault. -/
def vaultKey : PublicKey := ⟨List.replicate 32 7, rfl⟩

/-- The payer opens an account for a receiver and pays into it, where the balance leaves the owner
out. A vault is opened on the way; the mint is not a token account, so nothing is paid to it. -/
def deposit : Transaction where
  signature := "deposit"
  accountKeys := ["Payer", "PayerCoin", "Coin", "ReceiverCoin", "Receiver", "Vault",
    Address.tokenProgram, Address.associatedTokenProgram]
  loadedWritable := []
  loadedReadonly := []
  instructions := [
    ⟨7, [0, 3, 4, 2], "", none⟩,
    ⟨6, [1, 3, 0], Base58.encode (3 :: Bytes.ofUInt64 5), none⟩,
    ⟨6, [1, 2, 0], Base58.encode (3 :: Bytes.ofUInt64 5), none⟩]
  innerGroups := [⟨1, [⟨6, [5, 2], Base58.encode (18 :: vaultKey.bytes), none⟩]⟩]
  preBalances := []
  postBalances := []
  preTokenBalances := [⟨1, "Coin", "Payer", "100", 6⟩]
  postTokenBalances := [⟨1, "Coin", "Payer", "95", 6⟩, ⟨3, "Coin", "", "5", 6⟩]

theorem owners_resolved_deposit :
    (∀ address ∈ deposit.accounts, address ≠ "") ∧
      (∀ instruction ∈ deposit.allInstructions, instruction.HoldsOwner deposit.accounts) ∧
      deposit.TellsOwner 1 "Payer" ∧ deposit.TellsOwner 3 "Receiver" ∧
      deposit.TellsOwner 5 vaultKey.address ∧
      (∃ instruction sourcePlace destinationPlace,
        deposit.instructionAt? (.topLevel 1) = some instruction ∧
          instruction.MovesTokens deposit.accounts sourcePlace destinationPlace ∧
          deposit.TellsSide instruction sourcePlace "Payer" ∧
          deposit.TellsSide instruction destinationPlace "Receiver") ∧
      ∀ transfer ∈ deposit.transfers, transfer.position ≠ .topLevel 2 := by
  have named : ∀ address ∈ deposit.accounts, address ≠ "" := by decide
  have complete : ∀ instruction ∈ deposit.allInstructions,
      instruction.HoldsOwner deposit.accounts := by
    decide +kernel
  rcases owners_resolved_exactly named complete with ⟨told, _, sides, unmoved⟩
  have paid : ⟨.topLevel 1, "Payer", "Receiver", "Payer", "Coin", ⟨5, 6⟩, .token⟩ ∈
      deposit.transfers := by
    decide +kernel
  have toMint (owner : Address) : ¬deposit.TellsSide
      ⟨6, [1, 2, 0], Base58.encode (3 :: Bytes.ofUInt64 5), none⟩ 1 owner := by
    rintro ⟨account, numbered, tells⟩
    cases numbered
    have unresolved : (Evidence.ofTransaction deposit).owner? 2 = none := by decide +kernel
    rw [← told, unresolved] at tells
    cases tells
  refine ⟨named, complete, (told 1 _).mp ?_, (told 3 _).mp ?_, (told 5 _).mp ?_,
    sides _ paid rfl, unmoved (.topLevel 2) _ 0 1 rfl ?_ (Or.inr toMint)⟩
  · decide +kernel
  · decide +kernel
  · decide +kernel
  · exact .transfer rfl (by decide +kernel) (by decide +kernel)

end Transaction

end SwapLedger
