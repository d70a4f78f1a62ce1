import Mathlib.Data.List.FinRange
import Mathlib.Logic.Equiv.Fin.Rotate
import SwapLedger.Proofs.Mirroring

/-!
# How accounts are numbered

Instructions and balances name accounts by their places in the account table. Which place that is
means nothing: when the table is put in another order, cut into its three parts in another way, and
all numbers are changed to fit, the transaction makes the same transfers and has the same swaps. The
native balances, which are listed in the order of the table, play no part in this.
-/

namespace SwapLedger

/-! ## Account tables in another order -/

namespace AccountTable

variable (table : AccountTable) (order : Equiv.Perm (Fin table.length))

/-- The table in another order: the address at a place goes where the order sends that place. -/
def permute : AccountTable := List.ofFn fun place => table.get (order.symm place)

/-- The new number of an account. A number beyond the table stays as it is. -/
def renumbering (account : UInt8) : UInt8 :=
  if named : account.toNat < table.length then UInt8.ofNat (order ⟨account.toNat, named⟩)
  else account

@[simp]
theorem length_permute : (table.permute order).length = table.length := List.length_ofFn

theorem permute_perm : (table.permute order).Perm table := by
  have permuted := Equiv.Perm.ofFn_comp_perm order.symm table.get
  rwa [List.ofFn_get] at permuted

variable {table} {account : UInt8}

theorem toNat_renumbering (few : table.length ≤ 256) (named : account.toNat < table.length) :
    (table.renumbering order account).toNat = order ⟨account.toNat, named⟩ := by
  have order_lt := (order ⟨account.toNat, named⟩).isLt
  rw [renumbering, dif_pos named, UInt8.toNat_ofNat']
  exact Nat.mod_eq_of_lt (by omega)

theorem renumbering_of_le (beyond : table.length ≤ account.toNat) :
    table.renumbering order account = account := by
  rw [renumbering, dif_neg (Nat.not_lt.mpr beyond)]

/-- The new number names in the new table what the old one names in the old. -/
theorem address?_renumbering (few : table.length ≤ 256) (account : UInt8) :
    (table.permute order).address? (table.renumbering order account) = table.address? account := by
  rcases Nat.lt_or_ge account.toNat table.length with named | beyond
  · rw [address?, address?, toNat_renumbering order few named, permute]
    simp [named]
  · rw [renumbering_of_le order beyond, address?, address?, List.getElem?_eq_none beyond,
      List.getElem?_eq_none (by rwa [length_permute])]

/-- Different accounts get different numbers: those that are named get new ones within the table, so
that they never meet one that is kept. -/
theorem renumbering_injective (few : table.length ≤ 256) :
    Function.Injective (table.renumbering order) := by
  have named_lt {account : UInt8} (named : account.toNat < table.length) :
      (table.renumbering order account).toNat < table.length := by
    rw [toNat_renumbering order few named]
    exact (order _).isLt
  intro first second same
  rcases Nat.lt_or_ge first.toNat table.length with firstNamed | firstBeyond <;>
    rcases Nat.lt_or_ge second.toNat table.length with secondNamed | secondBeyond
  · have sameNumber := congrArg UInt8.toNat same
    rw [toNat_renumbering order few firstNamed, toNat_renumbering order few secondNamed,
      Fin.val_inj, order.injective.eq_iff, Fin.mk.injEq] at sameNumber
    exact UInt8.toNat_inj.mp sameNumber
  · have first_lt := named_lt firstNamed
    rw [same, renumbering_of_le order secondBeyond] at first_lt
    omega
  · have second_lt := named_lt secondNamed
    rw [← same, renumbering_of_le order firstBeyond] at second_lt
    omega
  · rwa [renumbering_of_le order firstBeyond, renumbering_of_le order secondBeyond] at same

end AccountTable

theorem Registry.touches_eq_of_perm {registry : Registry} {table other : AccountTable}
    (permuted : other.Perm table) : registry.touches other = registry.touches table := by
  rw [touches, touches, Bool.eq_iff_iff, List.any_eq_true, List.any_eq_true]
  simp only [permuted.mem_iff]

/-! ## Transactions under other numbers -/

/-- The same group, with accounts numbered anew. -/
def InnerGroup.renumber (number : UInt8 → UInt8) (group : InnerGroup) : InnerGroup :=
  { group with instructions := group.instructions.map (Instruction.renumber number) }

/-- The same balance, with its account numbered anew. -/
def TokenBalance.renumber (number : UInt8 → UInt8) (balance : TokenBalance) : TokenBalance :=
  { balance with account := number balance.account }

namespace Transaction

/-- The same transaction, with accounts numbered anew, and with an account table and native balances
of choice. -/
def renumber (transaction : Transaction) (number : UInt8 → UInt8)
    (accountKeys loadedWritable loadedReadonly : List Address)
    (preBalances postBalances : List UInt64) : Transaction where
  signature := transaction.signature
  accountKeys := accountKeys
  loadedWritable := loadedWritable
  loadedReadonly := loadedReadonly
  instructions := transaction.instructions.map (Instruction.renumber number)
  innerGroups := transaction.innerGroups.map (InnerGroup.renumber number)
  preBalances := preBalances
  postBalances := postBalances
  preTokenBalances := transaction.preTokenBalances.map (TokenBalance.renumber number)
  postTokenBalances := transaction.postTokenBalances.map (TokenBalance.renumber number)

/-- One transaction is another one under other numbers: they name the same accounts in the same
instructions and balances. -/
structure Renumbers (other transaction : Transaction) (number : UInt8 → UInt8) : Prop where
  injective : Function.Injective number
  address?_eq : ∀ account, other.accounts.address? (number account) =
    transaction.accounts.address? account
  instructions_eq : other.instructions =
    transaction.instructions.map (Instruction.renumber number)
  innerGroups_eq : other.innerGroups = transaction.innerGroups.map (InnerGroup.renumber number)
  preTokenBalances_eq : other.preTokenBalances =
    transaction.preTokenBalances.map (TokenBalance.renumber number)
  postTokenBalances_eq : other.postTokenBalances =
    transaction.postTokenBalances.map (TokenBalance.renumber number)

namespace Renumbers

variable {other transaction : Transaction} {number : UInt8 → UInt8}
  (renumbers : other.Renumbers transaction number)

include renumbers

theorem invokedBy_eq (outer : Nat) : other.invokedBy outer =
    (transaction.invokedBy outer).map (Instruction.renumber number) :=
  invokedBy_eq_map renumbers.innerGroups_eq (fun _ => rfl) (fun _ => rfl) outer

/-- Depths are recorded as before. -/
theorem invocationTree_eq (outer : Nat) :
    other.invocationTree outer = transaction.invocationTree outer := by
  rw [invocationTree, invocationTree, renumbers.invokedBy_eq, List.map_map]
  rfl

theorem allInstructions_eq : other.allInstructions =
    transaction.allInstructions.map (Instruction.renumber number) := by
  rw [allInstructions_eq_map renumbers.innerGroups_eq fun _ => rfl, renumbers.instructions_eq,
    allInstructions, List.map_append]

theorem balancesAfter_eq (account : UInt8) : other.balancesAfter (number account) =
    (transaction.balancesAfter account).map (Prod.map (TokenBalance.renumber number) id) := by
  rw [balancesAfter, balancesAfter, renumbers.postTokenBalances_eq, List.filterMap_map,
    List.map_filterMap]
  congr 1
  funext balance
  by_cases same : balance.account = account
  · simp [TokenBalance.renumber, same, Function.comp_def]
  · simp [TokenBalance.renumber, renumbers.injective.eq_iff, same]

theorem unitsBefore_eq (account : UInt8) :
    other.unitsBefore (number account) = transaction.unitsBefore account := by
  have sameAccount : ((fun balance : TokenBalance => balance.account == number account) ∘
      TokenBalance.renumber number) = fun balance => balance.account == account := by
    funext balance
    rw [Function.comp_apply, Bool.eq_iff_iff, beq_iff_eq, beq_iff_eq]
    exact renumbers.injective.eq_iff
  rw [unitsBefore, unitsBefore, renumbers.preTokenBalances_eq, List.find?_map, sameAccount]
  cases transaction.preTokenBalances.find? fun balance => balance.account == account <;> rfl

theorem tokenChange?_eq (account : UInt8) :
    other.tokenChange? (number account) = transaction.tokenChange? account := by
  rw [tokenChange?, tokenChange?, renumbers.balancesAfter_eq, renumbers.unitsBefore_eq,
    List.getLast?_map, Option.map_map]
  rfl

theorem decimals?_eq (mint : Address) : (Evidence.ofTransaction other).decimals? mint =
    (Evidence.ofTransaction transaction).decimals? mint := by
  have sameMint : ((fun balance : TokenBalance => balance.mint == mint) ∘
      TokenBalance.renumber number) = fun balance => balance.mint == mint := rfl
  have sameSetUp : other.allInstructions.findSome? (·.mintDecimals? other.accounts mint) =
      transaction.allInstructions.findSome? (·.mintDecimals? transaction.accounts mint) := by
    rw [renumbers.allInstructions_eq, List.findSome?_map]
    simp only [Function.comp_def, Instruction.mintDecimals?_renumber renumbers.address?_eq]
  simp only [Evidence.decimals?, Evidence.ofTransaction, renumbers.postTokenBalances_eq,
    renumbers.preTokenBalances_eq, ← List.map_append, List.find?_map, sameMint, sameSetUp]
  cases (transaction.postTokenBalances ++ transaction.preTokenBalances).find?
    fun balance => balance.mint == mint <;> rfl

theorem mirrors : (Evidence.ofTransaction other).Mirrors (Evidence.ofTransaction transaction)
    number where
  address?_eq := renumbers.address?_eq
  tokenChange?_eq := renumbers.tokenChange?_eq
  openings_eq := by
    change other.allInstructions.filterMap _ = transaction.allInstructions.filterMap _
    rw [renumbers.allInstructions_eq, List.filterMap_map]
    simp only [Function.comp_def, Instruction.opening?_renumber renumbers.address?_eq]
  decimals?_eq := renumbers.decimals?_eq

/-- The transfers do not depend on how accounts are numbered. -/
theorem transfers_eq : other.transfers = transaction.transfers := by
  simp only [transfers, Evidence.transfersAt, renumbers.instructions_eq, List.zipIdx_map,
    List.flatMap_map, List.filterMap_map, Evidence.transaction_ofTransaction,
    renumbers.invokedBy_eq, Function.comp_def, Prod.map, id, renumbers.mirrors.transfer?_eq]

end Renumbers

end Transaction

/-! ## The search under other numbers -/

namespace Detection

variable {registry : Registry} {other transaction : Transaction} {transfers : List Transfer}
  {number : UInt8 → UInt8} {instruction : Instruction} {outer : Nat}
  (renumbers : other.Renumbers transaction number)

include renumbers

theorem reading?_renumber :
    reading? ⟨registry, other, transfers⟩ (instruction.renumber number) =
      reading? ⟨registry, transaction, transfers⟩ instruction := by
  have samePermission (gate : Gate) : gate.permits other.accounts (instruction.renumber number) =
      gate.permits transaction.accounts instruction := by
    rw [Gate.permits, Gate.permits, Instruction.account?_renumber renumbers.address?_eq]
    simp [Instruction.renumber]
  have sameProgram : (instruction.renumber number).programAddress? other.accounts =
      instruction.programAddress? transaction.accounts := renumbers.address?_eq _
  have samePayload : (instruction.renumber number).payload = instruction.payload := rfl
  simp only [reading?, table, samePermission, sameProgram, samePayload]
  rfl

/-- From the same slices, matchers find the same under other numbers. -/
theorem agrees_visit_renumber (builtIn : registry.IsBuiltIn) {position : Position}
    {group : List Instruction} {first past start stop : Nat} :
    (visit ⟨registry, other, transfers⟩ (instruction.renumber number) position
      (group.map (Instruction.renumber number)) first past start stop).Agrees
      (visit ⟨registry, transaction, transfers⟩ instruction position group first past start
        stop) := by
  refine agrees_visit_of_mirrors builtIn strictMono_id (reading?_renumber renumbers) ?_
  intro protocol
  exact {
    protocol_eq := rfl
    account_eq := instruction.account?_renumber renumbers.address?_eq
    position_eq := rfl
    window_eq := by simp [contextOf, windowBetween]
    event_eq := by
      have samePayload : Instruction.payload ∘ Instruction.renumber number =
        Instruction.payload := rfl
      rw [MatchContext.eventBody?_eq, MatchContext.eventBody?_eq, contextOf, contextOf,
        ← List.map_drop, ← List.map_take, List.map_map, samePayload, Prod.map_id, Option.map_id]
      rfl }

/-- Under every top-level instruction the matchers find the same. -/
theorem outcomesAt_renumber (builtIn : registry.IsBuiltIn) :
    outcomesAt ⟨registry, other, transfers⟩ (instruction.renumber number) outer =
      outcomesAt ⟨registry, transaction, transfers⟩ instruction outer := by
  have ownAgrees : (ownVisit ⟨registry, other, transfers⟩ (instruction.renumber number)
      outer).Agrees (ownVisit ⟨registry, transaction, transfers⟩ instruction outer) := by
    simp only [ownVisit, renumbers.invokedBy_eq, List.length_map]
    exact agrees_visit_renumber renumbers builtIn
  have innerAgrees (entry : Instruction × Nat) (cursor : Nat) :
      (visitOf ⟨registry, other, transfers⟩ outer cursor (entry.1.renumber number)
        entry.2).Agrees
        (visitOf ⟨registry, transaction, transfers⟩ outer cursor entry.1 entry.2) := by
    simp only [visitOf, innerVisit, renumbers.invokedBy_eq, renumbers.invocationTree_eq]
    exact agrees_visit_renumber renumbers builtIn
  rw [outcomesAt_eq, outcomesAt_eq, ownAgrees.outcome_eq, ownAgrees.start_eq, ownAgrees.claimed_eq,
    renumbers.invokedBy_eq, List.zipIdx_map, filterMap_outcome?_visitsFrom_of_agrees
      fun entry _ cursor => innerAgrees entry cursor]

theorem candidates_renumber (builtIn : registry.IsBuiltIn) :
    candidates ⟨registry, other, transfers⟩ = candidates ⟨registry, transaction, transfers⟩ := by
  simp only [candidates_eq_flatMap, renumbers.instructions_eq, List.zipIdx_map, List.flatMap_map,
    Prod.map_fst, Prod.map_snd, id, outcomesAt_renumber renumbers builtIn]

end Detection

namespace Transaction

/-- Detection does not depend on how accounts are numbered. When the account table is put in any
order and cut into its three parts anywhere, all instructions and token balances are numbered to
fit, and the native balances are replaced by any others, then the transaction makes the same
transfers and has the same swaps. -/
theorem detection_renumbering {transaction : Transaction} {registry : Registry}
    {accountKeys loadedWritable loadedReadonly : List Address}
    (order : Equiv.Perm (Fin transaction.accounts.length)) (builtIn : registry.IsBuiltIn)
    (few : transaction.accounts.length ≤ 256)
    (cut : accountKeys ++ loadedWritable ++ loadedReadonly = transaction.accounts.permute order)
    (preBalances postBalances : List UInt64) (blockTime : Timestamp) (blockNumber : Slot) :
    let renumbered := transaction.renumber (transaction.accounts.renumbering order) accountKeys
      loadedWritable loadedReadonly preBalances postBalances
    renumbered.transfers = transaction.transfers ∧
      renumbered.swaps registry blockTime blockNumber =
        transaction.swaps registry blockTime blockNumber := by
  intro renumbered
  have permuted : renumbered.accounts = transaction.accounts.permute order := cut
  have renumbers : renumbered.Renumbers transaction (transaction.accounts.renumbering order) := {
    injective := AccountTable.renumbering_injective order few
    address?_eq := by
      rw [permuted]
      exact AccountTable.address?_renumbering order few
    instructions_eq := rfl
    innerGroups_eq := rfl
    preTokenBalances_eq := rfl
    postTokenBalances_eq := rfl }
  have sameTransfers := renumbers.transfers_eq
  refine ⟨sameTransfers, ?_⟩
  have sameCandidates : Detection.candidates ⟨registry, renumbered, transaction.transfers⟩ =
      Detection.candidates ⟨registry, transaction, transaction.transfers⟩ :=
    Detection.candidates_renumber renumbers builtIn
  rw [swaps, swaps, sameTransfers]
  refine Detection.swaps_eq_of_candidates_eq sameCandidates rfl ?_ rfl blockTime blockNumber
  change registry.touches renumbered.accounts = registry.touches transaction.accounts
  rw [permuted]
  exact Registry.touches_eq_of_perm (transaction.accounts.permute_perm order)

/-- Two routed trades are found with their account table turned by two places and cut in three. -/
theorem detection_renumbering_routedTrades :
    let order : Equiv.Perm (Fin routedTrades.accounts.length) := (finRotate 9).trans (finRotate 9)
    let renumbered := routedTrades.renumber (routedTrades.accounts.renumbering order)
      [Protocol.orca.program, Address.tokenProgram, "Trader", "TraderNative"]
      ["TraderCoin", "PoolNative", "PoolCoin", "Pool"] ["Router"] [5000] []
    Registry.standard.IsBuiltIn ∧ routedTrades.accounts.length ≤ 256 ∧
      renumbered.instructions = [⟨8, [2], "", none⟩] ∧
      (routedTrades.swaps .standard 1700000000 250000000).length = 2 ∧
      renumbered.transfers = routedTrades.transfers ∧
      renumbered.swaps .standard 1700000000 250000000 =
        routedTrades.swaps .standard 1700000000 250000000 := by
  intro order renumbered
  have cut : [Protocol.orca.program, Address.tokenProgram, "Trader", "TraderNative"] ++
      ["TraderCoin", "PoolNative", "PoolCoin", "Pool"] ++ ["Router"] =
        routedTrades.accounts.permute order := by
    decide +kernel
  have detected := detection_renumbering order Registry.isBuiltIn_standard (by decide +kernel) cut
    [5000] [] 1700000000 250000000
  exact ⟨Registry.isBuiltIn_standard, by decide +kernel, by decide +kernel, by decide +kernel,
    detected.1, detected.2⟩

end Transaction

end SwapLedger
