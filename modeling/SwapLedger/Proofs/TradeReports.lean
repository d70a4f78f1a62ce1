import SwapLedger.Proofs.Layouts
import SwapLedger.Proofs.Soundness
import SwapLedger.Proofs.TagSearch

/-!
# Reports of trades

What the matcher of events makes of the instructions that a swap instruction invoked. The first one
that holds the tag of trade events, at whatever offset, decides: what follows the first tag in it is
read as an event, and if that cannot be read, there is no candidate, whatever other instructions
hold. So an event that the exchange reports by invoking itself is recovered exactly.
-/

namespace SwapLedger

/-! ## The layout of an event -/

namespace Bytes

variable {bytes : Bytes}

/-- Bytes are written as they were read. -/
theorem ofNatLittleEndian_toNatLittleEndian (bytes : Bytes) :
    ofNatLittleEndian bytes.length (toNatLittleEndian bytes) = bytes := by
  induction bytes with
  | nil => rfl
  | cons byte rest ih =>
      have byte_lt := byte.toNat_lt
      have low : (byte.toNat + 256 * toNatLittleEndian rest) % 256 = byte.toNat := by omega
      have high : (byte.toNat + 256 * toNatLittleEndian rest) / 256 = toNatLittleEndian rest := by
        omega
      rw [List.length_cons, toNatLittleEndian, ofNatLittleEndian, low, high, ih, UInt8.ofNat_toNat]

theorem toNatLittleEndian_lt (bytes : Bytes) : toNatLittleEndian bytes < 256 ^ bytes.length := by
  induction bytes with
  | nil => exact Nat.one_pos
  | cons byte rest ih =>
      have byte_lt := byte.toNat_lt
      rw [toNatLittleEndian, List.length_cons, Nat.pow_succ]
      omega

/-- Eight bytes are always those of some word. -/
theorem exists_ofUInt64_eq (eight : bytes.length = 8) : ∃ word, ofUInt64 word = bytes := by
  have small := toNatLittleEndian_lt bytes
  rw [eight] at small
  refine ⟨UInt64.ofNat (toNatLittleEndian bytes), ?_⟩
  rw [ofUInt64, UInt64.toNat_ofNat_of_lt' small, ← eight, ofNatLittleEndian_toNatLittleEndian]

theorem u64?_append_left (word : UInt64) (rest : Bytes) :
    (ofUInt64 word ++ rest).u64? 0 = some word := by
  rw [u64?, slice?_append_left (length_ofUInt64 word), Option.map_some, toNatLittleEndian_ofUInt64,
    UInt64.ofNat_toNat]

/-- A word behind a front part is read from the rest. -/
theorem u64?_append_right {before rest : Bytes} {offset : Nat} (skips : before.length ≤ offset) :
    (before ++ rest).u64? offset = rest.u64? (offset - before.length) := by
  rw [u64?, u64?, slice?_append_right skips]

end Bytes

namespace TradeEvent

variable {event : TradeEvent} {body : Bytes}

/-- The fields of an event that are keys have the length of keys. -/
structure IsWhole (event : TradeEvent) : Prop where
  mint : event.mint.length = 32
  user : event.user.length = 32

/-- The flag of an event can be read: it is zero or one. -/
def HasFlag (body : Bytes) : Prop := body.u8? 48 = some 0 ∨ body.u8? 48 = some 1

instance (body : Bytes) : Decidable (HasFlag body) :=
  inferInstanceAs (Decidable (body.u8? 48 = some 0 ∨ body.u8? 48 = some 1))

/-- The bytes of an event, field by field, with whatever stands behind them. -/
theorem encode_append (event : TradeEvent) (tail : Bytes) :
    event.encode ++ tail = event.mint ++ (Bytes.ofUInt64 event.solAmount ++
      (Bytes.ofUInt64 event.tokenAmount ++
        ((if event.isBuy then 1 else 0) :: (event.user ++ tail)))) := by
  simp [encode]

/-- Behind the three fields before it stands which side of the trade it was. -/
theorem IsWhole.u8?_flag (whole : event.IsWhole) (tail : Bytes) :
    (event.encode ++ tail).u8? 48 = some (if event.isBuy then 1 else 0) := by
  rw [encode_append, Bytes.u8?, List.getElem?_append_right (by simp [whole.mint]), whole.mint,
    List.getElem?_append_right (by simp), List.getElem?_append_right (by simp)]
  simp

/-- The bytes of an event are as many as it takes to read one. -/
theorem IsWhole.width_le (whole : event.IsWhole) (tail : Bytes) :
    width ≤ (event.encode ++ tail).length := by
  simp [encode_append, whole.mint, whole.user, width]
  omega

/-- An event is read back from its bytes, whatever stands behind them. -/
theorem IsWhole.decode?_encode_append (whole : event.IsWhole) (tail : Bytes) :
    decode? (event.encode ++ tail) = some event := by
  have flag := whole.u8?_flag tail
  rw [encode_append] at flag ⊢
  have user : (event.user ++ tail).slice? 0 32 = some event.user :=
    Bytes.slice?_append_left whole.user
  rw [decode?, Bytes.slice?_append_left whole.mint, flag]
  simp only [Bytes.u64?_append_right, Bytes.slice?_append_right, whole.mint,
    Bytes.length_ofUInt64, Bytes.u64?_append_left, Bytes.slice?_cons_succ, user, Nat.reduceLeDiff,
    Nat.reduceSub, Option.bind_eq_bind, Option.bind_some]
  rcases event with ⟨_, _, _, isBuy, _⟩
  cases isBuy <;> rfl

/-- The fields of an event, cut out one after the other, are what is long enough and has a flag. -/
theorem exists_encode_append_iff :
    (∃ event tail, IsWhole event ∧ body = event.encode ++ tail) ↔
      width ≤ body.length ∧ HasFlag body := by
  constructor
  · rintro ⟨event, tail, whole, rfl⟩
    refine ⟨whole.width_le tail, ?_⟩
    rw [HasFlag, whole.u8?_flag]
    cases event.isBuy <;> simp
  · rintro ⟨enough, flag⟩
    rw [width] at enough
    have split (offset length : Nat) :
        (body.drop offset).take length ++ body.drop (offset + length) = body.drop offset := by
      rw [← List.drop_drop, List.take_append_drop]
    have solLength : ((body.drop 32).take 8).length = 8 := by
      rw [List.length_take, List.length_drop]
      omega
    have tokenLength : ((body.drop 40).take 8).length = 8 := by
      rw [List.length_take, List.length_drop]
      omega
    rcases Bytes.exists_ofUInt64_eq solLength with ⟨sol, solIs⟩
    rcases Bytes.exists_ofUInt64_eq tokenLength with ⟨token, tokenIs⟩
    have flagSplit : ∃ isBuy : Bool,
        body.drop 48 = (if isBuy then 1 else 0) :: body.drop 49 := by
      rw [List.drop_eq_getElem_cons (by omega : 48 < body.length)]
      rcases flag with sells | buys
      · exact ⟨false, congrArg (· :: _) (List.getElem?_eq_some_iff.mp sells).2⟩
      · exact ⟨true, congrArg (· :: _) (List.getElem?_eq_some_iff.mp buys).2⟩
    rcases flagSplit with ⟨isBuy, flagIs⟩
    refine ⟨⟨body.take 32, sol, token, isBuy, (body.drop 49).take 32⟩, body.drop 81, ⟨?_, ?_⟩, ?_⟩
    · exact List.length_take_of_le (by omega)
    · rw [List.length_take, List.length_drop]
      omega
    · rw [encode_append, solIs, tokenIs, split 49 32, ← flagIs, split 40 8, split 32 8,
        List.take_append_drop]

/-- An event is read from just the bytes that start with it. The fields are cut out one after the
other. -/
theorem decode?_eq_some_iff :
    decode? body = some event ↔ event.IsWhole ∧ ∃ tail, body = event.encode ++ tail := by
  constructor
  · intro decoded
    have readable : width ≤ body.length ∧ HasFlag body := by
      simp only [decode?, Option.bind_eq_bind, Option.bind_eq_some_iff] at decoded
      rcases decoded with ⟨_, _, _, _, _, _, flag, flagIs, told⟩
      rw [HasFlag, flagIs]
      split at told
      · rcases Option.bind_eq_some_iff.mp told with ⟨_, _, told⟩
        rcases Option.bind_eq_some_iff.mp told with ⟨_, userIs, _⟩
        exact ⟨Bytes.length_of_slice? (by decide) userIs, Or.inl rfl⟩
      · rcases Option.bind_eq_some_iff.mp told with ⟨_, _, told⟩
        rcases Option.bind_eq_some_iff.mp told with ⟨_, userIs, _⟩
        exact ⟨Bytes.length_of_slice? (by decide) userIs, Or.inr rfl⟩
      · simp at told
    rcases exists_encode_append_iff.mpr readable with ⟨other, tail, whole, rfl⟩
    rw [whole.decode?_encode_append, Option.some.injEq] at decoded
    subst decoded
    exact ⟨whole, tail, rfl⟩
  · rintro ⟨whole, tail, rfl⟩
    exact whole.decode?_encode_append tail

/-- Where an exchange reports an event by invoking itself, the tag of the event stands right behind
the tag of such invocations, as neither tag holds the first byte of the other one. -/
theorem firstOccursAt_selfInvocation (fields : Bytes) :
    FirstOccursAt discriminator (selfInvocationTag ++ discriminator ++ fields)
      selfInvocationTag.length := by
  refine ⟨occursAt_append _ _ _, ?_⟩
  intro earlier before occurs
  have earlier_lt : earlier < 8 := before
  interval_cases earlier <;>
    simp [OccursAt, selfInvocationTag, discriminator, List.cons_prefix_cons] at occurs

end TradeEvent

/-! ## The report that decides -/

theorem findSome?_eq_some_iff_getElem? {α β : Type*} {list : List α} {read : α → Option β}
    {value : β} : list.findSome? read = some value ↔
      ∃ (place : Nat) (element : α), list[place]? = some element ∧ read element = some value ∧
        ∀ earlier < place, ∀ other, list[earlier]? = some other → read other = none := by
  rw [List.findSome?_eq_some_iff]
  constructor
  · rintro ⟨before, element, after, rfl, told, none⟩
    refine ⟨before.length, element, by simp, told, fun earlier lt other stands => ?_⟩
    rw [List.getElem?_append_left lt] at stands
    exact none other (List.mem_of_getElem? stands)
  · rintro ⟨place, element, stands, told, none⟩
    rcases List.getElem?_eq_some_iff.mp stands with ⟨place_lt, rfl⟩
    refine ⟨list.take place, list[place], list.drop (place + 1), ?_, told, fun other member => ?_⟩
    · rw [List.getElem_cons_drop, List.take_append_drop]
    · rcases List.mem_take_iff_getElem.mp member with ⟨earlier, earlier_lt, rfl⟩
      exact none earlier (by omega) _ (List.getElem?_eq_getElem (by omega))

/-- The first value that is read in a numbered list comes from the first element that has one. -/
theorem findSome?_zipIdx_eq_some_iff {α β : Type*} {list : List α} {read : α × Nat → Option β}
    {value : β} : list.zipIdx.findSome? read = some value ↔
      ∃ place element, list[place]? = some element ∧ read (element, place) = some value ∧
        ∀ earlier < place, ∀ other, list[earlier]? = some other → read (other, earlier) = none := by
  simp only [findSome?_eq_some_iff_getElem?, List.getElem?_zipIdx, Nat.zero_add,
    Option.map_eq_some_iff]
  constructor
  · rintro ⟨place, _, ⟨element, stands, rfl⟩, told, none⟩
    exact ⟨place, element, stands, told, fun earlier before other otherStands =>
      none earlier before _ ⟨other, otherStands, rfl⟩⟩
  · rintro ⟨place, element, stands, told, none⟩
    refine ⟨place, _, ⟨element, stands, rfl⟩, told, ?_⟩
    rintro earlier before _ ⟨other, otherStands, rfl⟩
    exact none earlier before other otherStands

namespace MatchContext

variable {context : MatchContext} {place : Nat} {body : Bytes}

/-- Of the invoked instructions, the one at a place is the first that holds the tag of trade events,
and `body` is what follows the first tag in it. -/
structure FirstReport (context : MatchContext) (place : Nat) (body : Bytes) : Prop where
  carried : ∃ carrier offset, context.invoked[place]? = some carrier ∧
    FirstOccursAt TradeEvent.discriminator carrier.payload offset ∧
    carrier.payload.drop (offset + TradeEvent.discriminator.length) = body
  first : ∀ earlier < place, ∀ other, context.invoked[earlier]? = some other →
    ¬TradeEvent.discriminator <:+: other.payload

/-- The candidate that an event tells of, with the pool at its place in the account list. -/
def told (context : MatchContext) (event : TradeEvent) : Candidate where
  protocol := context.protocol
  wallet := event.userAddress
  pair := (context.account? 3).getD ""
  tokenOut := event.given.1
  amountOut := event.given.2
  tokenIn := event.taken.1
  amountIn := event.taken.2

/-- The transfers at the start of the window that were made up to an invoked instruction. -/
def madeUpTo (context : MatchContext) (place : Nat) : List Transfer :=
  context.window.takeWhile fun transfer =>
    decide (transfer.position ≤ .invoked context.position.outer (context.invokedStart + place))

/-- What a plain scan of the invoked instructions and of the bytes of their payloads finds. -/
inductive ScanFinds (context : MatchContext) : MatchOutcome → Prop where
  /-- No instruction holds the tag. -/
  | untold (untagged : ∀ instruction ∈ context.invoked,
        ¬TradeEvent.discriminator <:+: instruction.payload) :
      ScanFinds context .nothing
  /-- The first one that holds the tag tells no event. -/
  | garbled {place : Nat} {body : Bytes} (report : context.FirstReport place body)
      (unreadable : ¬(TradeEvent.width ≤ body.length ∧ TradeEvent.HasFlag body)) :
      ScanFinds context .nothing
  /-- The first one that holds the tag tells an event. -/
  | told {place : Nat} {event : TradeEvent} {tail : Bytes} (whole : event.IsWhole)
      (report : context.FirstReport place (event.encode ++ tail)) :
      ScanFinds context ⟨some (context.told event), (context.madeUpTo place).length⟩

/-- The body that is taken is that of the first report among the invoked instructions. -/
theorem eventBody?_eq_some_iff {position : Position} :
    context.eventBody? = some (position, body) ↔
      ∃ place, context.FirstReport place body ∧
        position = .invoked context.position.outer (context.invokedStart + place) := by
  rw [eventBody?, findSome?_zipIdx_eq_some_iff]
  simp only [Option.map_eq_some_iff, Option.map_eq_none_iff, Prod.mk.injEq,
    TradeEvent.bodyIn?_eq_none_iff, TradeEvent.bodyIn?_eq_some_iff]
  constructor
  · rintro ⟨place, carrier, stands, ⟨_, ⟨offset, tagged, follows⟩, rfl, rfl⟩, first⟩
    exact ⟨place, ⟨⟨carrier, offset, stands, tagged, follows⟩, first⟩, rfl⟩
  · rintro ⟨place, ⟨⟨carrier, offset, stands, tagged, follows⟩, first⟩, rfl⟩
    exact ⟨place, carrier, stands, ⟨body, ⟨offset, tagged, follows⟩, rfl, rfl⟩, first⟩

/-- No body is taken just if no invoked instruction holds the tag. -/
theorem eventBody?_eq_none_iff : context.eventBody? = none ↔
    ∀ instruction ∈ context.invoked, ¬TradeEvent.discriminator <:+: instruction.payload := by
  rw [eventBody?, List.findSome?_eq_none_iff]
  simp only [Option.map_eq_none_iff, TradeEvent.bodyIn?_eq_none_iff, Prod.forall]
  constructor
  · intro none instruction member
    rcases List.getElem?_of_mem member with ⟨place, stands⟩
    exact none instruction place (List.mk_mem_zipIdx_iff_getElem?.mpr stands)
  · intro none instruction place member
    exact none instruction (List.mem_of_getElem? (List.mk_mem_zipIdx_iff_getElem?.mp member))

theorem ofEvent_eq_told (context : MatchContext) (event : TradeEvent) :
    context.ofEvent event ((context.account? 3).getD "") = context.told event := by
  cases buys : event.isBuy <;>
    simp [ofEvent, told, TradeEvent.given, TradeEvent.taken, TradeEvent.nativeSide,
      TradeEvent.tokenSide, buys]

/-- The first report decides on the outcome, whether or not an event can be read from it. -/
theorem matcher_eq_of_firstReport (report : context.FirstReport place body) :
    Protocol.pumpFun.matcher context =
      match TradeEvent.decode? body with
      | none => .nothing
      | some event => ⟨some (context.told event), (context.madeUpTo place).length⟩ := by
  have found : context.eventBody? = some
      (.invoked context.position.outer (context.invokedStart + place), body) :=
    eventBody?_eq_some_iff.mpr ⟨place, report, rfl⟩
  cases decoded : TradeEvent.decode? body with
  | none => simp only [Protocol.matcher, byEvent, found, decoded]
  | some event => simp only [Protocol.matcher, byEvent, found, decoded, ofEvent_eq_told, madeUpTo]

/-- What is found is what the scan for a report finds. -/
theorem scanFinds_matcher (context : MatchContext) :
    context.ScanFinds (Protocol.pumpFun.matcher context) := by
  cases carried : context.eventBody? with
  | none =>
      have nothing : Protocol.pumpFun.matcher context = .nothing := by
        simp only [Protocol.matcher, byEvent, carried]
      rw [nothing]
      exact .untold (eventBody?_eq_none_iff.mp carried)
  | some found =>
      rcases eventBody?_eq_some_iff.mp carried with ⟨place, report, _⟩
      rw [matcher_eq_of_firstReport report]
      cases decoded : TradeEvent.decode? found.2 with
      | none =>
          refine .garbled report fun readable => ?_
          rcases TradeEvent.exists_encode_append_iff.mpr readable with ⟨event, tail, whole, fields⟩
          rw [fields, whole.decode?_encode_append] at decoded
          exact absurd decoded (Option.some_ne_none event)
      | some event =>
          rcases TradeEvent.decode?_eq_some_iff.mp decoded with ⟨whole, tail, fields⟩
          exact .told whole (fields ▸ report)

/-- The scan for a report finds one thing only. -/
theorem matcher_of_scanFinds {outcome : MatchOutcome} (finds : context.ScanFinds outcome) :
    Protocol.pumpFun.matcher context = outcome := by
  cases finds with
  | untold untagged =>
      simp only [Protocol.matcher, byEvent, eventBody?_eq_none_iff.mpr untagged]
  | garbled report unreadable =>
      rw [matcher_eq_of_firstReport report]
      cases decoded : TradeEvent.decode? _ with
      | none => rfl
      | some event =>
          rcases TradeEvent.decode?_eq_some_iff.mp decoded with ⟨whole, tail, fields⟩
          exact absurd (TradeEvent.exists_encode_append_iff.mp ⟨event, tail, whole, fields⟩)
            unreadable
  | told whole report =>
      rw [matcher_eq_of_firstReport report, whole.decode?_encode_append]

/-- The matcher of events finds what a plain scan of bytes finds. What follows the first tag is that
of an event just if it has the width of one and a flag of zero or one. In particular an event that
is reported by a self-invocation, with any bytes behind it, is recovered exactly, if no instruction
before holds a tag. -/
theorem first_report_decides (context : MatchContext) :
    (∀ outcome, Protocol.pumpFun.matcher context = outcome ↔ context.ScanFinds outcome) ∧
      (∀ body, TradeEvent.width ≤ body.length ∧ TradeEvent.HasFlag body ↔
        ∃ event tail, TradeEvent.IsWhole event ∧ body = event.encode ++ tail) ∧
      ∀ place instruction event tail, TradeEvent.IsWhole event →
        context.invoked[place]? = some instruction →
        instruction.data = Base58.encode (TradeEvent.selfInvocationTag ++
          TradeEvent.discriminator ++ (event.encode ++ tail)) →
        (∀ earlier < place, ∀ other, context.invoked[earlier]? = some other →
          ¬TradeEvent.discriminator <:+: other.payload) →
        Protocol.pumpFun.matcher context =
          ⟨some (context.told event), (context.madeUpTo place).length⟩ := by
  refine ⟨fun outcome => ⟨?_, matcher_of_scanFinds⟩,
    fun body => TradeEvent.exists_encode_append_iff.symm, ?_⟩
  · rintro rfl
    exact scanFinds_matcher context
  · intro place instruction event tail whole stands data first
    have payload : instruction.payload = TradeEvent.selfInvocationTag ++
        TradeEvent.discriminator ++ (event.encode ++ tail) := by
      rw [Instruction.payload, data, Base58.decode, Base58.decode?_encode, Option.getD_some]
    have carried : context.FirstReport place (event.encode ++ tail) := by
      refine ⟨⟨instruction, TradeEvent.selfInvocationTag.length, stands, ?_, ?_⟩, first⟩
      · rw [payload]
        exact TradeEvent.firstOccursAt_selfInvocation _
      · rw [payload, ← List.length_append, List.drop_left]
    exact matcher_of_scanFinds (.told whole carried)

/-- A purchase of thirty-five units of a token for two of the native currency. -/
def curveEvent : TradeEvent :=
  ⟨List.replicate 32 7, 2000000000, 35000000, true, List.replicate 32 9⟩

/-- A trade on a curve that is reported, with a byte behind the event, after an instruction whose
payload has the digits of the tag, but shifted by one. -/
def curveContext : MatchContext where
  protocol := .pumpFun
  table := ["Trader", "Global", "Fee", "Curve", Protocol.pumpFun.program]
  instruction := ⟨4, [1, 2, 0, 3], "", none⟩
  position := .topLevel 0
  window := [
    ⟨.invoked 0 0, "Curve", "Trader", "Curve", "Coin", ⟨35000000, 6⟩, .token⟩,
    ⟨.invoked 0 2, "Trader", "Fee", "Trader", "", ⟨10000000, 9⟩, .native⟩]
  invoked := [
    ⟨4, [], Base58.encode [0x0b, 0xdd, 0xb7, 0xfd, 0x34, 0xee, 0x66, 0x1e, 0xe0], none⟩,
    ⟨4, [], Base58.encode (TradeEvent.selfInvocationTag ++ TradeEvent.discriminator ++
      (curveEvent.encode ++ [5])), none⟩]
  invokedStart := 0

/-- The digits that are shifted are passed over, and the report is recovered. -/
theorem first_report_decides_shifted :
    curveEvent.IsWhole ∧
      (∃ place, TradeEvent.discriminator.hexDigits <+:
        ((curveContext.invoked.map (·.payload.hexDigits)).headD []).drop place) ∧
      Protocol.pumpFun.matcher curveContext = ⟨some (curveContext.told curveEvent), 1⟩ ∧
      curveContext.ScanFinds ⟨some (curveContext.told curveEvent), 1⟩ := by
  have whole : curveEvent.IsWhole := ⟨rfl, rfl⟩
  rcases first_report_decides curveContext with ⟨scans, _, recovers⟩
  have matched : Protocol.pumpFun.matcher curveContext =
      ⟨some (curveContext.told curveEvent), (curveContext.madeUpTo 1).length⟩ := by
    refine recovers 1 _ curveEvent [5] whole rfl rfl ?_
    intro earlier before other stands
    rw [Nat.lt_one_iff.mp before] at stands
    cases stands
    decide +kernel
  have used : (curveContext.madeUpTo 1).length = 1 := by decide +kernel
  rw [used] at matched
  exact ⟨whole, ⟨1, by decide +kernel⟩, matched, (scans _).mp matched⟩

end MatchContext

end SwapLedger
