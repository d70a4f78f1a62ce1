import SwapLedger.Proofs.Matching
import SwapLedger.Proofs.Registration
import SwapLedger.Proofs.Windows

/-!
# Soundness of detected swaps

Every swap that is read off a transaction rests on evidence in it: a swap instruction of a supported
exchange, and two transfers made while it ran or a trade event that it had reported. The record adds
nothing to that but the direction, which the quote asset among the two mints decides.
-/

namespace SwapLedger

namespace TradeEvent

variable (event : TradeEvent)

/-- The native currency in a trade: mint and amount. -/
def nativeSide : Address × Decimal := (Address.wrappedNative, .ofUnits event.solAmount 9)

/-- The token in a trade: mint and amount. -/
def tokenSide : Address × Decimal := (event.mintAddress, .ofUnits event.tokenAmount 6)

/-- What the trader gave. -/
def given : Address × Decimal := if event.isBuy then event.nativeSide else event.tokenSide

/-- What the trader took. -/
def taken : Address × Decimal := if event.isBuy then event.tokenSide else event.nativeSide

end TradeEvent

namespace Transaction

variable (transaction : Transaction)

/-- The instruction at a position invoked the one at a place of its group. -/
def Invoked (position : Position) (index : Nat) : Prop :=
  (transaction.invokedRange position).1 ≤ index ∧ index < (transaction.invokedRange position).2

/-- A transfer can be a side of a trade that an exchange made at a position: it was made after the
swap instruction by one that this invoked, and it is of a kind that the exchange trades with. -/
structure IsSideOf (protocol : Protocol) (position : Position) (transfer : Transfer) : Prop where
  made : transfer ∈ transaction.transfers
  outer_eq : transfer.position.outer = position.outer
  after : position < transfer.position
  invoked : ∃ index, transfer.position = .invoked position.outer index ∧
    transaction.Invoked position index
  leg : transfer.kind = .native ∨ transfer.kind = .token
  token_of_meteora :
    protocol = .meteoraDlmm ∨ protocol = .meteoraPools → transfer.kind = .token

/-- The evidence for a trade of one amount for another by a swap instruction of an exchange. -/
inductive Shows (protocol : Protocol) (position : Position) :
    (given taken : Address × Decimal) → Prop where
  | transfers {given taken : Transfer} (movesTransfers : protocol ≠ .pumpFun)
      (givenSide : transaction.IsSideOf protocol position given)
      (takenSide : transaction.IsSideOf protocol position taken)
      (distinct : given.position ≠ taken.position) :
      Shows protocol position (given.mint, given.amount) (taken.mint, taken.amount)
  | event {index : Nat} {carrier : Instruction} {body : Bytes} {event : TradeEvent}
      (reportsEvents : protocol = .pumpFun) (invoked : transaction.Invoked position index)
      (stands : transaction.instructionAt? (.invoked position.outer index) = some carrier)
      (carried : TradeEvent.bodyIn? carrier.payload = some body)
      (decoded : TradeEvent.decode? body = some event) :
      Shows protocol position event.given event.taken

end Transaction

namespace Candidate

variable {candidate : Candidate} {occasion : Occasion} {swap : SwapRecord}

/-- The direction follows the only quote asset among the two mints. -/
theorem direction?_eq_some {action : TradeAction} {token : Address}
    (decided : candidate.direction? = some (action, token)) :
    Address.isQuoteAsset candidate.tokenOut ≠ Address.isQuoteAsset candidate.tokenIn ∧
      (action = .buy ↔ Address.isQuoteAsset candidate.tokenOut) ∧
      token = if Address.isQuoteAsset candidate.tokenOut then candidate.tokenIn
        else candidate.tokenOut := by
  rw [direction?] at decided
  cases quoteOut : Address.isQuoteAsset candidate.tokenOut <;>
    cases quoteIn : Address.isQuoteAsset candidate.tokenIn <;>
    simp only [quoteOut, quoteIn, Option.some.injEq, Prod.mk.injEq, reduceCtorEq] at decided
  · rcases decided with ⟨rfl, rfl⟩
    simp
  · rcases decided with ⟨rfl, rfl⟩
    simp

/-- A recorded candidate is complete, and its record keeps what it says. -/
theorem record?_eq_some (recorded : candidate.record? occasion = some swap) :
    candidate.wallet ≠ "" ∧ candidate.pair ≠ "" ∧ candidate.amountOut.IsPositive ∧
      candidate.amountIn.IsPositive ∧
      ∃ action token, candidate.direction? = some (action, token) ∧
        swap = ⟨occasion.signature, candidate.wallet, candidate.protocol.label,
          occasion.blockNumber, occasion.blockTime, action, candidate.pair, token,
          candidate.amountIn, candidate.amountOut, false⟩ := by
  rw [record?] at recorded
  split_ifs at recorded with incomplete
  simp only [not_or, hasPositiveAmounts, Bool.not_eq_false, Bool.and_eq_true,
    decide_eq_true_eq] at incomplete
  rcases incomplete with ⟨wallet, pair, outPositive, inPositive⟩
  rcases Option.map_eq_some_iff.mp recorded with ⟨⟨action, token⟩, decided, rfl⟩
  exact ⟨wallet, pair, outPositive, inPositive, action, token, decided, rfl⟩

end Candidate

/-- A swap is founded on a swap instruction of a transaction, and on two mints that were traded. -/
structure SwapRecord.Founded (swap : SwapRecord) (transaction : Transaction)
    (blockTime : Timestamp) (blockNumber : Slot) (protocol : Protocol) (position : Position)
    (instruction : Instruction) (mintOut mintIn : Address) : Prop where
  stands : transaction.instructionAt? position = some instruction
  program_eq : instruction.programAddress? transaction.accounts = some protocol.program
  permitted : protocol.gate.permits transaction.accounts instruction
  notEvent : ¬TradeEvent.selfInvocationTag <+: instruction.payload
  source_eq : swap.source = protocol.label
  id_eq : swap.id = transaction.signature
  blockNumber_eq : swap.blockNumber = blockNumber
  timestamp_eq : swap.timestamp = blockTime
  unprocessed : swap.processed = false
  wallet_known : swap.wallet ≠ ""
  pair_known : swap.pair ≠ ""
  out_positive : swap.amountOut.IsPositive
  in_positive : swap.amountIn.IsPositive
  shown : transaction.Shows protocol position (mintOut, swap.amountOut) (mintIn, swap.amountIn)
  one_quote : Address.isQuoteAsset mintOut ≠ Address.isQuoteAsset mintIn
  buy_iff : swap.action = .buy ↔ Address.isQuoteAsset mintOut
  token_eq : swap.token = if Address.isQuoteAsset mintOut then mintIn else mintOut

theorem Protocol.kind_of_isSide {protocol : Protocol} {transfer : Transfer}
    (side : protocol.isSide transfer) :
    (transfer.kind = .native ∨ transfer.kind = .token) ∧
      (protocol = .meteoraDlmm ∨ protocol = .meteoraPools → transfer.kind = .token) := by
  cases protocol <;>
    simp_all [isSide, Transfer.isLeg, Transfer.isTokenMove]

namespace Detection

variable {registry : Registry} {transaction : Transaction} {visit : Visit} {run : MatchRun}
  {instruction : Instruction} {protocol : Protocol} {transfer : Transfer} {place : Nat}

section Evidence

variable (fits : Fits ⟨registry, transaction, transaction.transfers⟩ visit instruction)

include fits

/-- The transfers of a window that come after the swap instruction were made by what it invoked. -/
theorem Fits.invoked_of_after
    (stands : transaction.transfers[place]? = some transfer) (start_le : visit.start ≤ place)
    (lt_stop : place < visit.stop) (after : visit.position < transfer.position) :
    ∃ index, transfer.position = .invoked visit.position.outer index ∧
      transaction.Invoked visit.position index := by
  have ordered := ordered_transfers registry transaction
  have range := fits.range
  by_cases inner : visit.position.inner = none
  · have topLevel : visit.position = .topLevel visit.position.outer := by
      rw [Position.topLevel, ← inner]
    rw [topLevel] at after
    rcases Position.exists_invoked_of_after
      (fits.outer_of_mem_window ordered stands start_le lt_stop) after with ⟨index, position⟩
    rcases (transaction.mem_transfers_iff).mp (List.mem_of_getElem? stands) with
      ⟨maker, makerStands, _⟩
    rw [position, Transaction.instructionAt?_invoked_eq_some] at makerStands
    have index_lt := (List.getElem?_eq_some_iff.mp makerStands.2).1
    refine ⟨index, position, ?_⟩
    simpa [Transaction.Invoked, Transaction.invokedRange, inner] using index_lt
  · rcases fits.invoked_of_mem_window ordered inner stands start_le lt_stop with
      ⟨index, first_le, lt_past, position⟩
    refine ⟨index, position, ?_⟩
    simpa only [Transaction.Invoked, ← range] using ⟨first_le, lt_past⟩

/-- What a matcher takes as a side of a trade was made for it. -/
theorem Fits.isSideOf
    (stands : (windowBetween ⟨registry, transaction, transaction.transfers⟩ visit.start
      visit.stop)[place]? = some transfer)
    (after : visit.position < transfer.position) (side : protocol.isSide transfer) :
    transaction.IsSideOf protocol visit.position transfer := by
  have ordered := ordered_transfers registry transaction
  rcases getElem?_windowBetween stands with ⟨stands, lt_stop⟩
  have start_le : visit.start ≤ visit.start + place := Nat.le_add_right _ _
  rcases Protocol.kind_of_isSide side with ⟨leg, token_of_meteora⟩
  exact ⟨List.mem_of_getElem? stands, fits.outer_of_mem_window ordered stands start_le lt_stop,
    after, fits.invoked_of_after stands start_le lt_stop after, leg, token_of_meteora⟩

/-- A trade of two transfers is shown by the transaction. -/
theorem Fits.shows_of_trade
    {context : MatchContext} {outcome : MatchOutcome} {candidate : Candidate}
    {first second : Transfer} {firstPlace secondPlace : Nat}
    (movesTransfers : protocol ≠ .pumpFun) (position : context.position = visit.position)
    (window : context.window =
      windowBetween ⟨registry, transaction, transaction.transfers⟩ visit.start visit.stop)
    (trade : context.Trade protocol.isSide outcome candidate first second firstPlace secondPlace) :
    transaction.Shows protocol visit.position (candidate.tokenOut, candidate.amountOut)
      (candidate.tokenIn, candidate.amountIn) := by
  rcases trade.first_mem with ⟨firstStands, firstAfter, firstSide⟩
  rcases trade.second_mem with ⟨secondStands, secondAfter, secondSide⟩
  rw [window] at firstStands secondStands
  rw [position] at firstAfter secondAfter
  have firstIs := fits.isSideOf firstStands firstAfter firstSide
  have secondIs := fits.isSideOf secondStands secondAfter secondSide
  have position_lt : first.position < second.position :=
    (ordered_transfers registry transaction).position_lt
      (Nat.add_lt_add_left trade.firstPlace_lt visit.start)
      (getElem?_windowBetween firstStands).1 (getElem?_windowBetween secondStands).1
  rcases trade.made with ⟨wallet, pair, rfl | rfl⟩
  · exact .transfers movesTransfers firstIs secondIs position_lt.ne
  · exact .transfers movesTransfers secondIs firstIs position_lt.ne'

/-- A trade that was reported is shown by the transaction. -/
theorem Fits.shows_of_event
    {context : MatchContext} {reported : Position} {body : Bytes} {event : TradeEvent}
    {pair : Address} (reportsEvents : protocol = .pumpFun)
    (invoked : context.invoked = ((transaction.invokedBy visit.position.outer).drop
      visit.first).take (visit.past - visit.first))
    (carried : context.eventBody? = some (reported, body))
    (decoded : TradeEvent.decode? body = some event) :
    transaction.Shows protocol visit.position
      ((context.ofEvent event pair).tokenOut, (context.ofEvent event pair).amountOut)
      ((context.ofEvent event pair).tokenIn, (context.ofEvent event pair).amountIn) := by
  rcases MatchContext.eventBody?_eq_some carried with
    ⟨offset, carrier, offsetStands, bodyFound, rfl⟩
  rw [invoked, List.getElem?_take] at offsetStands
  split_ifs at offsetStands with inside
  rw [List.getElem?_drop] at offsetStands
  have carrierStands : transaction.instructionAt?
      (.invoked visit.position.outer (visit.first + offset)) = some carrier := by
    rw [Transaction.instructionAt?_invoked_eq_some]
    exact ⟨Transaction.outer_lt_of_instructionAt? fits.stands, offsetStands⟩
  have carrierInvoked : transaction.Invoked visit.position (visit.first + offset) := by
    simp only [Transaction.Invoked, ← fits.range]
    omega
  have shown : transaction.Shows protocol visit.position event.given event.taken :=
    .event reportsEvents carrierInvoked carrierStands bodyFound decoded
  cases buys : event.isBuy <;>
    simpa [MatchContext.ofEvent, TradeEvent.given, TradeEvent.taken, TradeEvent.nativeSide,
      TradeEvent.tokenSide, buys] using shown

/-- A candidate that a matcher found in the slices of a visit is shown by the transaction. -/
theorem Fits.shows_of_match
    {context : MatchContext} {candidate : Candidate} (position : context.position = visit.position)
    (window : context.window =
      windowBetween ⟨registry, transaction, transaction.transfers⟩ visit.start visit.stop)
    (invoked : context.invoked = ((transaction.invokedBy visit.position.outer).drop
      visit.first).take (visit.past - visit.first))
    (found : (protocol.matcher context).candidate = some candidate) :
    transaction.Shows protocol visit.position (candidate.tokenOut, candidate.amountOut)
      (candidate.tokenIn, candidate.amountIn) := by
  by_cases reportsEvents : protocol = .pumpFun
  · subst protocol
    rcases MatchContext.exists_event_of_byEvent found with
      ⟨reported, body, event, carried, decoded, rfl⟩
    exact fits.shows_of_event rfl invoked carried decoded
  · rcases Protocol.exists_trade reportsEvents found with
      ⟨first, second, firstPlace, secondPlace, trade⟩
    exact fits.shows_of_trade reportsEvents position window trade

end Evidence

/-- Every swap is the record of a candidate that the matcher of an entry found in the slices of the
visit of an instruction that this entry reads. -/
theorem exists_match_of_mem_swaps {blockTime : Timestamp} {blockNumber : Slot} {swap : SwapRecord}
    (found : swap ∈ transaction.swaps registry blockTime blockNumber) :
    ∃ visit instruction entry context candidate,
      Fits ⟨registry, transaction, transaction.transfers⟩ visit instruction ∧
        reading? ⟨registry, transaction, transaction.transfers⟩ instruction = some entry ∧
        context = ⟨entry.protocol, transaction.accounts, instruction, visit.position,
          windowBetween ⟨registry, transaction, transaction.transfers⟩ visit.start visit.stop,
          ((transaction.invokedBy visit.position.outer).drop visit.first).take
            (visit.past - visit.first), visit.first⟩ ∧
        (entry.matcher context).candidate = some candidate ∧
        candidate.record? ⟨transaction.signature, blockTime, blockNumber⟩ = some swap := by
  rw [Transaction.swaps, swaps] at found
  split_ifs at found
  · simp only [candidates, runs, List.mem_filterMap] at found
    rcases found with ⟨candidate, ⟨run, ⟨visit, member, ran⟩, matched⟩, recorded⟩
    rcases fits_of_mem_visits member with ⟨instruction, fits⟩
    rcases run?_eq_some.mp (fits.ran ▸ ran) with ⟨entry, reads, context, _, outcome⟩
    rw [outcome] at matched
    exact ⟨visit, instruction, entry, run.context, candidate, fits, reads, context, matched,
      recorded⟩
  · simp at found

/-- Soundness of detection: every swap that is read off a transaction with the standard registry is
founded on a swap instruction of a supported exchange and on evidence for the traded amounts. -/
theorem swap_founded {blockTime : Timestamp} {blockNumber : Slot} {swap : SwapRecord}
    (found : swap ∈ transaction.swaps .standard blockTime blockNumber) :
    ∃ protocol position instruction mintOut mintIn,
      swap.Founded transaction blockTime blockNumber protocol position instruction mintOut
        mintIn := by
  rcases exists_match_of_mem_swaps found with
    ⟨visit, instruction, entry, context, candidate, fits, reads, sees, matched, recorded⟩
  rcases reading?_eq_some.mp reads with ⟨program, named, registered, permitted, notEvent⟩
  rcases Registry.get?_standard_eq_some registered with ⟨protocol, rfl, rfl⟩
  rcases Candidate.record?_eq_some recorded with
    ⟨wallet, pair, outPositive, inPositive, action, token, decided, rfl⟩
  rcases Candidate.direction?_eq_some decided with ⟨oneQuote, buys, token_eq⟩
  have shown := fits.shows_of_match (by rw [sees]) (by rw [sees]) (by rw [sees]) matched
  have source := Protocol.protocol_of_candidate matched
  rw [sees] at source
  refine ⟨protocol, visit.position, instruction, candidate.tokenOut, candidate.tokenIn, ?_⟩
  exact {
    stands := fits.stands
    program_eq := named
    permitted := permitted
    notEvent := notEvent
    source_eq := congrArg Protocol.label source
    id_eq := rfl
    blockNumber_eq := rfl
    timestamp_eq := rfl
    unprocessed := rfl
    wallet_known := wallet
    pair_known := pair
    out_positive := outPositive
    in_positive := inPositive
    shown := shown
    one_quote := oneQuote
    buy_iff := buys
    token_eq := token_eq }

/-- The first of two routed trades is a founded swap. -/
theorem exists_founded_routedTrades :
    let swap : SwapRecord := ⟨"routed", "Trader", "orca", 250000000, 1700000000, .buy, "Pool",
      "Coin", ⟨2500000, 6⟩, ⟨1000000000, 9⟩, false⟩
    swap ∈ Transaction.routedTrades.swaps .standard 1700000000 250000000 ∧
      ∃ protocol position instruction mintOut mintIn,
        swap.Founded Transaction.routedTrades 1700000000 250000000 protocol position instruction
          mintOut mintIn :=
  ⟨by decide +kernel, swap_founded (by decide +kernel)⟩

end Detection

end SwapLedger
