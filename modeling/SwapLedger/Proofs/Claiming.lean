import SwapLedger.Proofs.Matching
import SwapLedger.Proofs.Windows

/-!
# Claimed transfers

No transfer is claimed twice: the slices that the search cuts are always well formed, what one run
claims ends before the window of any later run begins, and so no transfer is a side of two trades.
-/

namespace SwapLedger

/-- The slices of a visit are well formed. Their ends are in order and within the transfers and the
group, no transfer of an earlier or later top-level instruction is in the window, and a matcher that
ran was given just these slices. -/
structure Visit.Sliced (visit : Visit) (detection : Detection) : Prop where
  start_le_stop : visit.start ≤ visit.stop
  stop_le_length : visit.stop ≤ detection.transfers.length
  first_le_past : visit.first ≤ visit.past
  past_le_length :
    visit.past ≤ (detection.transaction.invokedBy visit.position.outer).length
  in_scope : ∀ place transfer, detection.transfers[place]? = some transfer →
    (transfer.position.outer < visit.position.outer → place < visit.start) ∧
      (visit.position.outer < transfer.position.outer → visit.stop ≤ place)
  window_eq : ∀ run, visit.run = some run →
    run.start = visit.start ∧
      run.context.window =
        (detection.transfers.drop visit.start).take (visit.stop - visit.start) ∧
      run.context.window.length = visit.stop - visit.start
  invoked_eq : ∀ run, visit.run = some run →
    run.context.invokedStart = visit.first ∧
      run.context.invoked = ((detection.transaction.invokedBy visit.position.outer).drop
        visit.first).take (visit.past - visit.first) ∧
      run.context.invoked.length = visit.past - visit.first

namespace Detection

variable {detection : Detection} {visit : Visit} {instruction : Instruction}

theorem Fits.sliced (ordered : detection.Ordered) (fits : detection.Fits visit instruction) :
    visit.Sliced detection where
  start_le_stop := fits.start_le_stop
  stop_le_length := fits.stop_le_length
  first_le_past := fits.first_le_past
  past_le_length := fits.past_le_length
  in_scope _ _ stands := fits.window_in_scope ordered stands
  window_eq run ran := by
    rcases run?_eq_some.mp (fits.ran ▸ ran) with ⟨_, _, context, starts, _⟩
    rw [context]
    exact ⟨starts, rfl, length_windowBetween fits.stop_le_length⟩
  invoked_eq run ran := by
    rcases run?_eq_some.mp (fits.ran ▸ ran) with ⟨_, _, context, _, _⟩
    rw [context]
    exact ⟨rfl, rfl, length_take_drop fits.past_le_length⟩

end Detection

namespace MatchRun

variable {run : MatchRun} {place : Nat}

/-- The transfer at a place is a side of the trade that a run found with the matcher of an exchange
that moves transfers. -/
def HasSide (run : MatchRun) (place : Nat) : Prop :=
  ∃ protocol candidate first second firstPlace secondPlace,
    protocol ≠ Protocol.pumpFun ∧ run.outcome = protocol.matcher run.context ∧
      run.outcome.candidate = some candidate ∧
      run.context.Trade protocol.isSide run.outcome candidate first second firstPlace secondPlace ∧
      (place = run.start + firstPlace ∨ place = run.start + secondPlace)

/-- A run claims the sides of its trade. -/
theorem HasSide.claimed (side : run.HasSide place) :
    run.start ≤ place ∧ place < run.start + run.claimed := by
  rcases side with ⟨_, _, _, _, firstPlace, secondPlace, _, _, _, trade, position⟩
  have claimed : run.claimed = secondPlace + 1 := by
    rw [MatchRun.claimed, trade.used]
    exact Nat.min_eq_left (trade.used ▸ trade.consumed_le)
  have firstPlace_lt := trade.firstPlace_lt
  omega

/-- Every trade has two sides. -/
theorem exists_sides {protocol : Protocol} (movesTransfers : protocol ≠ .pumpFun)
    (matched : run.outcome = protocol.matcher run.context)
    (found : run.outcome.candidate ≠ none) :
    ∃ first second, first < second ∧ run.HasSide first ∧ run.HasSide second := by
  rcases Option.ne_none_iff_exists'.mp found with ⟨candidate, found⟩
  rcases Protocol.exists_trade movesTransfers (matched ▸ found) with
    ⟨first, second, firstPlace, secondPlace, trade⟩
  rw [← matched] at trade
  have places_lt := trade.firstPlace_lt
  refine ⟨run.start + firstPlace, run.start + secondPlace, by omega, ?_, ?_⟩
  · exact ⟨protocol, candidate, first, second, _, _, movesTransfers, matched, found, trade,
      Or.inl rfl⟩
  · exact ⟨protocol, candidate, first, second, _, _, movesTransfers, matched, found, trade,
      Or.inr rfl⟩

end MatchRun

namespace Detection

theorem pairwise_runs (detection : Detection) :
    detection.runs.Pairwise fun earlier later => earlier.start + earlier.claimed ≤ later.start := by
  rw [runs, List.pairwise_filterMap]
  apply detection.pairwise_visits.imp_of_mem
  intro earlier later earlierMem laterMem ends_le first firstRan second secondRan
  rcases fits_of_mem_visits earlierMem with ⟨_, earlierFits⟩
  rcases fits_of_mem_visits laterMem with ⟨_, laterFits⟩
  rcases run?_eq_some.mp (earlierFits.ran ▸ firstRan) with ⟨_, _, _, firstStarts, _⟩
  rcases run?_eq_some.mp (laterFits.ran ▸ secondRan) with ⟨_, _, _, secondStarts, _⟩
  simpa [firstStarts, secondStarts, Visit.claimed, firstRan] using ends_le

/-- No transfer is claimed twice. For every transaction and registry, whatever its matchers are, the
slices of every visit are well formed and in the scope of its top-level instruction; what a run
claims ends at or before the start of every later window; the sides of a trade are among what its
run claims; and hence no transfer is a side of the trades of two runs. -/
theorem claims_disjoint (registry : Registry) (transaction : Transaction) :
    let detection : Detection := ⟨registry, transaction, transaction.transfers⟩
    (∀ visit ∈ detection.visits, visit.Sliced detection) ∧
      (detection.runs.Pairwise fun earlier later =>
        earlier.start + earlier.claimed ≤ later.start) ∧
      (∀ run ∈ detection.runs, ∀ protocol, protocol ≠ Protocol.pumpFun →
        run.outcome = protocol.matcher run.context → run.outcome.candidate ≠ none →
          ∃ first second, first < second ∧ run.HasSide first ∧ run.HasSide second) ∧
      (∀ run ∈ detection.runs, ∀ place, run.HasSide place →
        run.start ≤ place ∧ place < run.start + run.claimed) ∧
      detection.runs.Pairwise fun earlier later =>
        ∀ place, ¬(earlier.HasSide place ∧ later.HasSide place) := by
  intro detection
  have ordered : detection.Ordered := ordered_transfers registry transaction
  have claims := detection.pairwise_runs
  refine ⟨?_, claims, ?_, ?_, ?_⟩
  · intro visit member
    rcases fits_of_mem_visits member with ⟨instruction, fits⟩
    exact fits.sliced ordered
  · intro run _ protocol movesTransfers matched found
    exact MatchRun.exists_sides movesTransfers matched found
  · intro run _ place side
    exact side.claimed
  · apply claims.imp
    rintro earlier later ends_le place ⟨earlierSide, laterSide⟩
    have earlierClaims := earlierSide.claimed
    have laterClaims := laterSide.claimed
    omega

/-- Two routed trades claim two transfers each. -/
theorem claims_routedTrades :
    let detection : Detection :=
      ⟨.standard, Transaction.routedTrades, Transaction.routedTrades.transfers⟩
    detection.runs.map (fun run => (run.start, run.claimed)) = [(0, 2), (2, 2)] ∧
      (∀ visit ∈ detection.visits, visit.Sliced detection) ∧
      detection.runs.Pairwise fun earlier later =>
        ∀ place, ¬(earlier.HasSide place ∧ later.HasSide place) :=
  ⟨by decide +kernel, (claims_disjoint .standard Transaction.routedTrades).1,
    (claims_disjoint .standard Transaction.routedTrades).2.2.2.2⟩

end Detection

end SwapLedger
