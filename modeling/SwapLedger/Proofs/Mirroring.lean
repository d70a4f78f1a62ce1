import SwapLedger.Proofs.Agreement
import SwapLedger.Proofs.Matching
import SwapLedger.Proofs.Registration

/-!
# Mirrored matching

The matchers of the exchanges look at accounts by their addresses, at positions by their order, and
at invoked instructions for events alone. So they find the same in two contexts that differ in how
accounts are numbered, and in where exactly instructions stand, as long as order is kept. The same
goes for the transfers that are reconstructed.
-/

namespace SwapLedger

namespace Transfer

/-- The same transfer, made at another position. -/
def moved (move : Position → Position) (transfer : Transfer) : Transfer :=
  { transfer with position := move transfer.position }

@[simp]
theorem moved_id : moved id = id := rfl

@[simp]
theorem position_moved (move : Position → Position) (transfer : Transfer) :
    (transfer.moved move).position = move transfer.position := rfl

end Transfer

/-- Whether a transfer is a side of a trade does not depend on its position. -/
theorem Protocol.isSide_moved (protocol : Protocol) (move : Position → Position)
    (transfer : Transfer) : protocol.isSide (transfer.moved move) = protocol.isSide transfer := by
  cases protocol <;> rfl

namespace MatchContext

variable {other context : MatchContext} {move : Position → Position} {condition : Transfer → Bool}

/-- One context shows what another shows, at positions that are moved. -/
structure Mirrors (other context : MatchContext) (move : Position → Position) : Prop where
  protocol_eq : other.protocol = context.protocol
  account_eq : ∀ place, other.account? place = context.account? place
  position_eq : other.position = move context.position
  window_eq : other.window = context.window.map (Transfer.moved move)
  event_eq : other.eventBody? = context.eventBody?.map (Prod.map move id)

namespace Mirrors

variable (mirrors : other.Mirrors context move) (ascending : StrictMono move)

include mirrors

theorem length_window_eq : other.window.length = context.window.length := by
  rw [mirrors.window_eq, List.length_map]

include ascending

/-- The transfers that follow an instruction are those of the mirror image, moved. -/
theorem following_eq (blind : ∀ transfer, condition (transfer.moved move) = condition transfer) :
    other.following condition =
      (context.following condition).map (Prod.map (Transfer.moved move) id) := by
  rw [following, following, mirrors.window_eq, mirrors.position_eq, List.zipIdx_map,
    List.filter_map]
  congr 2
  funext entry
  simp [blind, ascending.lt_iff_lt]

/-- The first two legs are those of the mirror image, moved. -/
theorem firstTwo?_eq (blind : ∀ transfer, condition (transfer.moved move) = condition transfer) :
    other.firstTwo? condition = (context.firstTwo? condition).map
      (Prod.map (Transfer.moved move) (Prod.map (Transfer.moved move) id)) := by
  rw [firstTwo?, firstTwo?, mirrors.following_eq ascending blind]
  rcases context.following condition with _ | ⟨first, _ | ⟨second, rest⟩⟩ <;> rfl

/-- Matching legs in order finds the same in the mirror image. -/
theorem inOrder_eq (blind : ∀ transfer, condition (transfer.moved move) = condition transfer)
    (pairPlace : Nat) :
    other.inOrder condition pairPlace = context.inOrder condition pairPlace := by
  rw [inOrder, inOrder, mirrors.firstTwo?_eq ascending blind, mirrors.account_eq,
    mirrors.protocol_eq]
  cases context.firstTwo? condition <;> rfl

/-- Matching legs by role finds the same in the mirror image. -/
theorem byRole_eq (walletPlace pairPlace : Nat) :
    other.byRole walletPlace pairPlace = context.byRole walletPlace pairPlace := by
  rw [byRole, byRole, mirrors.firstTwo?_eq ascending fun _ => rfl, mirrors.account_eq,
    mirrors.account_eq, mirrors.protocol_eq]
  cases context.account? walletPlace with
  | none => rfl
  | some wallet =>
      cases context.account? pairPlace with
      | none => rfl
      | some pair =>
          cases context.firstTwo? Transfer.isLeg with
          | none => rfl
          | some sides =>
              rcases sides with ⟨first, second, consumed⟩
              by_cases signed : first.authority = wallet <;>
                simp [signed, Transfer.moved, Candidate.ofLegs]

/-- Matching an event finds the same in the mirror image. -/
theorem byEvent_eq (pairPlace : Nat) : other.byEvent pairPlace = context.byEvent pairPlace := by
  have sameEvent (event : TradeEvent) (pair : Address) :
      other.ofEvent event pair = context.ofEvent event pair := by
    rw [ofEvent, ofEvent, mirrors.protocol_eq]
  have sameCount (position : Position) :
      (other.window.takeWhile fun transfer => decide (transfer.position ≤ move position)).length =
        (context.window.takeWhile fun transfer =>
          decide (transfer.position ≤ position)).length := by
    rw [mirrors.window_eq, List.takeWhile_map, List.length_map]
    simp only [Function.comp_def, Transfer.position_moved, ascending.le_iff_le]
  rw [byEvent, byEvent, mirrors.event_eq, mirrors.account_eq]
  cases context.eventBody? with
  | none => rfl
  | some carried =>
      simp only [Option.map_some, Prod.map_fst, Prod.map_snd, id, sameEvent, sameCount]

/-- The matcher of an exchange finds the same in both contexts. -/
theorem matcher_eq (protocol : Protocol) : protocol.matcher other = protocol.matcher context := by
  rcases protocol.matcher_cases with ⟨pairPlace, matcher⟩ |
    ⟨_, walletPlace, pairPlace, matcher⟩ | rfl
  · rw [matcher]
    exact mirrors.inOrder_eq ascending (protocol.isSide_moved move) pairPlace
  · rw [matcher]
    exact mirrors.byRole_eq ascending walletPlace pairPlace
  · exact mirrors.byEvent_eq ascending 3

end Mirrors

end MatchContext

/-! ## Instructions under other numbers -/

namespace Instruction

/-- The same instruction, with its program and accounts numbered anew. -/
def renumber (number : UInt8 → UInt8) (instruction : Instruction) : Instruction :=
  { instruction with
    program := number instruction.program
    accounts := instruction.accounts.map number }

@[simp]
theorem renumber_id (instruction : Instruction) : instruction.renumber id = instruction := by
  simp [renumber]

variable {table other : AccountTable} {number : UInt8 → UInt8}
  (same : ∀ account, other.address? (number account) = table.address? account)
  (instruction : Instruction)

include same

/-- An instruction whose accounts get other numbers names the same addresses in the other table. -/
theorem account?_renumber (place : Nat) :
    (instruction.renumber number).account? other place = instruction.account? table place := by
  simp only [account?, renumber, List.getElem?_map, Option.bind_map, Function.comp_def, same]

/-- An instruction means the same whatever the numbers of its accounts are. -/
theorem meaning?_renumber :
    (instruction.renumber number).meaning? other = instruction.meaning? table := by
  rw [meaning?, meaning?, programAddress?, programAddress?, ← same]
  rfl

/-- An instruction opens the same account, by its new number, for the same owner. -/
theorem opening?_renumber :
    (instruction.renumber number).opening? other = instruction.opening? table := by
  simp only [opening?, meaning?_renumber same, account?_renumber same]

theorem mintDecimals?_renumber (mint : Address) :
    (instruction.renumber number).mintDecimals? other mint =
      instruction.mintDecimals? table mint := by
  simp only [mintDecimals?, meaning?_renumber same, account?_renumber same]

end Instruction

/-! ## Instructions rewritten one by one -/

namespace Transaction

variable {other transaction : Transaction} {changeGroup : InnerGroup → InnerGroup}
  {change : Instruction → Instruction}
  (innerGroups_eq : other.innerGroups = transaction.innerGroups.map changeGroup)
  (instructions_eq : ∀ group, (changeGroup group).instructions = group.instructions.map change)

include innerGroups_eq instructions_eq

/-- Changing the instructions of groups changes those that each instruction invoked. -/
theorem invokedBy_eq_map (index_eq : ∀ group, (changeGroup group).index = group.index)
    (outer : Nat) : other.invokedBy outer = (transaction.invokedBy outer).map change := by
  simp only [invokedBy, innerGroups_eq, List.find?_map, Function.comp_def, index_eq]
  cases transaction.innerGroups.find? fun group => group.index.toNat == outer with
  | none => rfl
  | some group => exact instructions_eq group

theorem allInstructions_eq_map :
    other.allInstructions = other.instructions ++
      (transaction.innerGroups.flatMap (·.instructions)).map change := by
  simp only [allInstructions, innerGroups_eq, List.flatMap_map, List.map_flatMap, instructions_eq]

end Transaction

/-! ## Transfers under other numbers, at other positions -/

namespace Evidence

variable {other evidence : Evidence} {number : UInt8 → UInt8} {move : Position → Position}
  {instruction : Instruction} {position : Position}

/-- One transaction tells about its accounts what another tells, under other numbers. -/
structure Mirrors (other evidence : Evidence) (number : UInt8 → UInt8) : Prop where
  address?_eq : ∀ account, other.table.address? (number account) = evidence.table.address? account
  tokenChange?_eq : ∀ account, other.transaction.tokenChange? (number account) =
    evidence.transaction.tokenChange? account
  openings_eq : other.openings = evidence.openings
  decimals?_eq : ∀ mint, other.decimals? mint = evidence.decimals? mint

namespace Mirrors

variable (mirrors : other.Mirrors evidence number)

include mirrors

/-- The first opening of an account is the same under its new number. -/
theorem opening?_eq (account : UInt8) :
    other.opening? (number account) = evidence.opening? account := by
  rw [opening?, opening?, mirrors.address?_eq, mirrors.openings_eq]

/-- An account has the same owner under its new number. -/
theorem owner?_eq (account : UInt8) :
    other.owner? (number account) = evidence.owner? account := by
  simp only [owner?, owner?.openedFor, mirrors.tokenChange?_eq, mirrors.opening?_eq]

/-- An account holds the same token under its new number. -/
theorem mint?_eq (account : UInt8) : other.mint? (number account) = evidence.mint? account := by
  simp only [mint?, mirrors.tokenChange?_eq, mirrors.opening?_eq, mirrors.decimals?_eq]

theorem sharedMint?_eq (source destination : UInt8) :
    other.sharedMint? (number source) (number destination) =
      evidence.sharedMint? source destination := by
  rw [sharedMint?, sharedMint?, mirrors.mint?_eq, mirrors.mint?_eq]

theorem account?_eq (place : Nat) : (instruction.renumber number).account? other.table place =
    instruction.account? evidence.table place :=
  instruction.account?_renumber mirrors.address?_eq place

/-- A transfer between token accounts is read alike from the mirror image. -/
theorem tokenTransfer?_eq {sourcePlace destinationPlace authorityPlace : Nat}
    {resolve otherResolve : UInt8 → UInt8 → Option (Address × UInt8)} {amount : UInt64}
    (resolve_eq : ∀ source destination,
      otherResolve (number source) (number destination) = resolve source destination) :
    other.tokenTransfer? (instruction.renumber number) position sourcePlace destinationPlace
        authorityPlace otherResolve amount =
      evidence.tokenTransfer? instruction position sourcePlace destinationPlace authorityPlace
        resolve amount := by
  simp only [tokenTransfer?, mirrors.account?_eq]
  simp only [Instruction.renumber, List.getElem?_map, Option.bind_eq_bind, Option.bind_map,
    Function.comp_def, resolve_eq, mirrors.owner?_eq]

/-- The making of tokens is read alike from the mirror image. -/
theorem mintTransfer?_eq {decimals : Option UInt8} {amount : UInt64} :
    other.mintTransfer? (instruction.renumber number) position decimals amount =
      evidence.mintTransfer? instruction position decimals amount := by
  simp only [mintTransfer?, mirrors.account?_eq]
  simp only [Instruction.renumber, List.getElem?_map, Option.bind_eq_bind, Option.bind_map,
    Function.comp_def, mirrors.owner?_eq, mirrors.decimals?_eq, mirrors.address?_eq]

/-- The destruction of tokens is read alike from the mirror image. -/
theorem burnTransfer?_eq {decimals : Option UInt8} {amount : UInt64} :
    other.burnTransfer? (instruction.renumber number) position decimals amount =
      evidence.burnTransfer? instruction position decimals amount := by
  simp only [burnTransfer?, mirrors.account?_eq]
  simp only [Instruction.renumber, List.getElem?_map, Option.bind_eq_bind, Option.bind_map,
    Function.comp_def, mirrors.owner?_eq, mirrors.decimals?_eq]

/-- An instruction moved the same, however its accounts are numbered. -/
theorem transfer?_eq : other.transfer? (instruction.renumber number) position =
    evidence.transfer? instruction position := by
  have checked (resolved : Option (Address × UInt8)) (amount : UInt64) :
      other.tokenTransfer? (instruction.renumber number) position 0 2 3 (fun _ _ => resolved)
          amount =
        evidence.tokenTransfer? instruction position 0 2 3 (fun _ _ => resolved) amount :=
    mirrors.tokenTransfer?_eq fun _ _ => rfl
  simp only [transfer?, requestedTransfer?, nativeTransfer?, mirrors.account?_eq,
    instruction.meaning?_renumber mirrors.address?_eq, checked,
    mirrors.tokenTransfer?_eq mirrors.sharedMint?_eq, mirrors.mintTransfer?_eq,
    mirrors.burnTransfer?_eq]

end Mirrors

/-- Evidence that mirrors another one without new numbers gives the same transfers. -/
theorem transfer?_eq_of_mirrors_id (mirrors : other.Mirrors evidence id) :
    other.transfer? instruction position = evidence.transfer? instruction position := by
  rw [← mirrors.transfer?_eq, Instruction.renumber_id]

/-- Transactions tell the same about the same accounts if they list the same token balances, and
their instructions open the same accounts and set up the same mints. -/
theorem mirrors_of_sameBalances {other transaction : Transaction}
    (sameTable : other.accounts = transaction.accounts)
    (sameBefore : other.preTokenBalances = transaction.preTokenBalances)
    (sameAfter : other.postTokenBalances = transaction.postTokenBalances)
    (sameOpenings : other.allInstructions.filterMap (·.opening? transaction.accounts) =
      transaction.allInstructions.filterMap (·.opening? transaction.accounts))
    (sameDecimals : ∀ mint,
      other.allInstructions.filterMap (·.mintDecimals? transaction.accounts mint) =
        transaction.allInstructions.filterMap (·.mintDecimals? transaction.accounts mint)) :
    (ofTransaction other).Mirrors (ofTransaction transaction) id where
  address?_eq account := by simp [sameTable]
  tokenChange?_eq account := by
    simp only [transaction_ofTransaction, Transaction.tokenChange?, Transaction.balancesAfter,
      Transaction.unitsBefore, sameBefore, sameAfter, id]
  openings_eq := by
    rw [ofTransaction, sameTable, sameOpenings]
    rfl
  decimals?_eq mint := by
    simp only [decimals?, table_ofTransaction, transaction_ofTransaction, sameTable, sameBefore,
      sameAfter, ← List.head?_filterMap, sameDecimals]

/-- An instruction asks for the same at another position. There is a case for each kind of payload,
and the position goes into the result and nowhere else. -/
theorem requestedTransfer?_move : evidence.requestedTransfer? instruction (move position) =
    (evidence.requestedTransfer? instruction position).map (Transfer.moved move) := by
  rw [requestedTransfer?, requestedTransfer?]
  cases instruction.meaning? evidence.table with
  | none => rfl
  | some payload =>
      simp only [Option.bind_eq_bind, Option.bind_some]
      split
      · simp [nativeTransfer?, Option.map_bind, Function.comp_def, Transfer.moved]
      · simp [tokenTransfer?, Option.map_bind, Function.comp_def, Transfer.moved]
      · simp [tokenTransfer?, Option.map_bind, Function.comp_def, Transfer.moved]
      · simp [mintTransfer?, Option.map_bind, Function.comp_def, Transfer.moved]
      · simp [mintTransfer?, Option.map_bind, Function.comp_def, Transfer.moved]
      · simp [burnTransfer?, Option.map_bind, Function.comp_def, Transfer.moved]
      · simp [burnTransfer?, Option.map_bind, Function.comp_def, Transfer.moved]
      · rfl

/-- An instruction moves the same at another position. -/
theorem transfer?_move : evidence.transfer? instruction (move position) =
    (evidence.transfer? instruction position).map (Transfer.moved move) := by
  rw [transfer?, transfer?, requestedTransfer?_move, Option.filter_map]
  rfl

end Evidence

/-! ## Visits -/

namespace Detection

variable {detection other : Detection} {instruction otherInstruction : Instruction}
  {position otherPosition : Position} {group otherGroup : List Instruction}
  {first otherFirst past otherPast start stop : Nat} {move : Position → Position}

/-- Visits agree if their instructions are read by the same entry and their matchers see the same at
positions that are moved. -/
theorem agrees_visit_of_mirrors (builtIn : detection.registry.IsBuiltIn)
    (ascending : StrictMono move)
    (sameReading : other.reading? otherInstruction = detection.reading? instruction)
    (mirrors : ∀ protocol,
      (other.contextOf protocol otherInstruction otherPosition otherGroup otherFirst otherPast start
        stop).Mirrors
      (detection.contextOf protocol instruction position group first past start stop) move) :
    (other.visit otherInstruction otherPosition otherGroup otherFirst otherPast start stop).Agrees
      (detection.visit instruction position group first past start stop) := by
  have sameOutcome : (other.visit otherInstruction otherPosition otherGroup otherFirst otherPast
      start stop).outcome? =
        (detection.visit instruction position group first past start stop).outcome? := by
    rw [outcome?_visit, outcome?_visit, sameReading]
    cases reads : detection.reading? instruction with
    | none => rfl
    | some entry =>
        rcases reading?_eq_some.mp reads with ⟨program, _, registered, _⟩
        rcases builtIn.exists_matcher_eq registered with ⟨protocol, matcher⟩
        rw [Option.map_some, Option.map_some, matcher,
          (mirrors entry.protocol).matcher_eq ascending]
  have sameLength : (other.windowBetween start stop).length =
      (detection.windowBetween start stop).length :=
    (mirrors .orca).length_window_eq
  exact ⟨rfl, sameOutcome, by rw [claimed_visit, claimed_visit, sameOutcome, sameLength]⟩

/-- Searches that find the same candidates, in transactions of one signature that name the same
programs, give the same swaps. -/
theorem swaps_eq_of_candidates_eq (sameCandidates : other.candidates = detection.candidates)
    (sameRegistry : other.registry = detection.registry)
    (samePrograms : detection.registry.touches other.table =
      detection.registry.touches detection.table)
    (sameSignature : other.transaction.signature = detection.transaction.signature)
    (blockTime : Timestamp) (blockNumber : Slot) :
    other.swaps blockTime blockNumber = detection.swaps blockTime blockNumber := by
  rw [swaps, swaps, sameRegistry, samePrograms, sameSignature, sameCandidates]

end Detection

end SwapLedger
