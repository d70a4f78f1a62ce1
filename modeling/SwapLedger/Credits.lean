import SwapLedger.Wire

/-!
# Credits

How many deliveries a queue in the database holds at once is limited within this process. A credit
is reserved before a delivery is claimed. It is taken back if nothing comes of the claim, and freed
when the delivery is settled.
-/

namespace SwapLedger

/-- The deliveries that a queue holds or is about to claim, and how many these may be; zero stands
for any number. The count is an unsigned word of the machine: what goes below zero comes out above
every limit, so here a negative count stands for such a word. -/
structure Credits where
  limit : UInt16
  held : Int

namespace Credits

variable (credits : Credits)

/-- Whether one more delivery may be reserved. -/
def allowsMore : Bool :=
  credits.limit == 0 || (decide (0 ≤ credits.held) && decide (credits.held < credits.limit.toNat))

/-- Answers a call. Only freeing stops at zero. A reservation reads the limit before it counts
itself in; here the two are one step, so no new limit comes in between. -/
def serve : (call : CreditCall) → call.Answer × Credits
  | .reserve _ =>
    if credits.allowsMore then (true, { credits with held := credits.held + 1 })
    else (false, credits)
  | .cancel _ => ((), { credits with held := credits.held - 1 })
  | .refund _ =>
    ((), if credits.held = 0 then credits else { credits with held := credits.held - 1 })
  | .setLimit _ limit => ((), { credits with limit })

end Credits

end SwapLedger
