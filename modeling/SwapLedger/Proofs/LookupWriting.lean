import SwapLedger.LookupWriter
import SwapLedger.Proofs.LookupBatches
import SwapLedger.Proofs.Servants

/-!
# Lookups that are written down

While the writer of lookups gathers addresses and hands them over, anybody may ask for more, it may
become time to write at any moment, and the writer may be told to stop at any moment. Wherever an
address is then, in the channel, in the batch that grows or in one that is being written, it is
handed over before the writer has ended, unless it was asked for after the writer had taken all that
waited.
-/

namespace SwapLedger

/-- The channel for lookups, and what has come through it. -/
structure LookupScene where
  lookups : Lookups
  /-- What was asked for before all that waited was taken out, apart from the empty address. -/
  asked : List Address
  /-- Whether all that waited has been taken out. -/
  cleared : Bool

namespace LookupScene

/-- Somebody asks for an address. -/
def askFor (scene : LookupScene) (address : Address) : LookupScene :=
  { scene with
    lookups := scene.lookups.add address,
    asked := if scene.cleared = true ∨ address = "" then scene.asked
      else scene.asked ++ [address] }

/-- What others may do while the writer does nothing. -/
inductive Meanwhile : LookupScene → LookupScene → Prop where
  | nothing (scene : LookupScene) : Meanwhile scene scene
  | ask {scene next : LookupScene} (address : Address) (sendable : scene.lookups.sendable = true)
      (rest : Meanwhile (scene.askFor address) next) : Meanwhile scene next
  /-- Nobody is left who could ask for lookups. -/
  | hangUp {scene next : LookupScene}
      (rest : Meanwhile { scene with lookups := { scene.lookups with sendable := false } } next) :
      Meanwhile scene next

/-- How the writer's calls are answered. It may be time to write, or to stop, whatever waits. -/
inductive Answers : Servant Services LookupScene where
  | address {scene : LookupScene} {address : Address} {rest : List Address} {instant : Nat}
      (waiting : scene.lookups.pending = address :: rest) :
      Answers scene ⟨.shared (.nextLookup instant), some (.address address)⟩
        { scene with lookups := { scene.lookups with pending := rest } }
  | due {scene : LookupScene} {instant : Nat} :
      Answers scene ⟨.shared (.nextLookup instant), some .due⟩ scene
  | ended {scene : LookupScene} {instant : Nat} :
      Answers scene ⟨.shared (.nextLookup instant), some .ended⟩ scene
  | taken {scene : LookupScene} :
      Answers scene ⟨.shared .takeLookups, some scene.lookups.batch⟩
        { scene with lookups := scene.lookups.drained, cleared := true }
  | abandoned {scene : LookupScene} :
      Answers scene ⟨.shared .abandonLookups, some ()⟩
        { scene with lookups := scene.lookups.abandoned }
  | elsewhere {scene : LookupScene} {call : ServiceCall} {answer : Option call.Answer}
      (outside : ∀ other, call ≠ .shared other) : Answers scene ⟨call, answer⟩ scene

/-- How they are answered while others ask for more. -/
def Serves : Servant Services LookupScene := fun scene answered next =>
  ∃ before, scene.Meanwhile before ∧ Answers before answered next

variable {scene next : LookupScene}

/-- What the parts of an instance share answers a writer in one of these ways. -/
theorem answers_of_serves {shared later : Shared} {call : SharedCall} {answer : call.Answer}
    (served : Shared.Serves shared ⟨.shared call, some answer⟩ later)
    (own : (∃ instant, call = .nextLookup instant) ∨ call = .takeLookups ∨
      call = .abandonLookups) (asked : List Address) (cleared : Bool) :
    ∃ cleared', Answers ⟨shared.lookups, asked, cleared⟩ ⟨.shared call, some answer⟩
      ⟨later.lookups, asked, cleared'⟩ := by
  cases served with
  | elsewhere outside => exact absurd rfl (outside _)
  | answered moment told =>
      rcases own with ⟨instant, rfl⟩ | rfl | rfl
      · refine ⟨cleared, ?_⟩
        change shared.nextLookup moment instant = _ at told
        rw [Shared.nextLookup] at told
        split at told
        · injection told with same changed
          subst same changed
          exact .ended
        split at told
        · case _ address rest waiting =>
            injection told with same changed
            subst same changed
            exact .address waiting
        split_ifs at told
        · injection told with same changed
          subst same changed
          exact .ended
        · injection told with same changed
          subst same changed
          exact .due
      · injection told with same changed
        subst same changed
        exact ⟨true, .taken⟩
      · injection told with same changed
        subst same changed
        exact ⟨cleared, .abandoned⟩

end LookupScene

namespace LookupWriter

open LookupScene Program

/-- The addresses that a call hands over to be written. -/
def handedOver? : AnsweredCall Services → Option LookupBatch
  | ⟨.store (.enqueueLookups addresses), _⟩ => some addresses
  | _ => none

/-- What calls hand over, in order. -/
def handedOver (calls : List (AnsweredCall Services)) : List LookupBatch :=
  calls.filterMap handedOver?

/-- Whether all that waits is not taken out by any of the calls. -/
def Undrained (calls : List (AnsweredCall Services)) : Prop :=
  ∀ answered ∈ calls, answered.call ≠ .shared .takeLookups

/-- The life of a writer, turn by turn, to its end. -/
inductive Lives :
    LookupWriter → LookupScene → List (AnsweredCall Services) → LookupScene → Prop where
  | ends {writer : LookupWriter} {scene last : LookupScene} {calls : List (AnsweredCall Services)}
      (run : writer.turn.HasRun Serves scene calls none last) : Lives writer scene calls last
  | goesOn {writer next : LookupWriter} {scene middle last : LookupScene}
      {calls later : List (AnsweredCall Services)}
      (run : writer.turn.HasRun Serves scene calls (some (.lookupWriter next)) middle)
      (rest : Lives next middle later last) : Lives writer scene (calls ++ later) last

/-- What a writer has handed over when it has ended, given what was asked for. -/
structure Writes (asked : List Address) (calls : List (AnsweredCall Services)) : Prop where
  handed_iff : ∀ address, (∃ batch ∈ handedOver calls, address ∈ batch) ↔ address ∈ asked
  ne_nil : ∀ batch ∈ handedOver calls, batch ≠ []
  ascending : ∀ batch ∈ handedOver calls, batch.Pairwise (· < ·)
  /-- Only what is handed over last, after all that waited was taken out, may be greater. -/
  bounded : ∃ earlier rest later, calls = earlier ++ ⟨.shared .takeLookups, some rest⟩ :: later ∧
    Undrained earlier ∧ (∀ batch ∈ handedOver earlier, batch.length ≤ greatestBatch) ∧
    (handedOver later).length ≤ 1

variable {writer : LookupWriter} {scene next last : LookupScene} {past : List LookupBatch}
  {batch : LookupBatch} {calls later : List (AnsweredCall Services)}

theorem handedOver_append : handedOver (calls ++ later) = handedOver calls ++ handedOver later :=
  List.filterMap_append

/-- The invariant: what was asked for has been handed over, is in the batch, or waits. -/
structure Gathered (past : List LookupBatch) (batch : LookupBatch) (scene : LookupScene) :
    Prop where
  received : scene.lookups.received = true
  uncleared : scene.cleared = false
  asked_iff : ∀ address, address ∈ scene.asked ↔
    (∃ other ∈ past, address ∈ other) ∨ address ∈ batch ∨ address ∈ scene.lookups.pending
  ascending : batch.Pairwise (· < ·)

theorem Gathered.meanwhile (gathered : Gathered past batch scene)
    (meanwhile : scene.Meanwhile next) : Gathered past batch next := by
  induction meanwhile with
  | nothing => exact gathered
  | @ask scene _ address _ _ ih =>
      apply ih
      rcases gathered with ⟨received, uncleared, asked_iff, ascending⟩
      by_cases empty : address = ""
      · subst empty
        exact ⟨by simpa [askFor, Lookups.add] using received, uncleared,
          by simpa [askFor, Lookups.add] using asked_iff, ascending⟩
      · refine ⟨?_, uncleared, fun other => ?_, ascending⟩
        · simp [askFor, Lookups.add, empty, received]
        · simp [askFor, Lookups.add, empty, received, uncleared, asked_iff, or_assoc]
  | hangUp _ ih =>
      exact ih ⟨gathered.received, gathered.uncleared, gathered.asked_iff, gathered.ascending⟩

/-- Once all that waited has been taken out, what was asked for before is fixed. -/
theorem asked_eq_of_meanwhile (meanwhile : scene.Meanwhile next) (cleared : scene.cleared = true) :
    next.asked = scene.asked ∧ next.cleared = true := by
  induction meanwhile with
  | nothing => exact ⟨rfl, cleared⟩
  | @ask scene _ address _ _ ih =>
      rcases ih cleared with ⟨same, still⟩
      refine ⟨same.trans ?_, still⟩
      simp [askFor, cleared]
  | hangUp _ ih => exact ih cleared

/-- A batch is handed over, unless it is empty. -/
theorem recounts_flush (batch : LookupBatch) (scene : LookupScene) :
    (flush batch).Recounts Serves (fun _ => True) (fun _ last calls => scene.Meanwhile last ∧
      handedOver calls = (if batch = [] then [] else [batch]) ∧ Undrained calls) scene := by
  rw [flush]
  cases batch with
  | nil => exact recounts_pure ⟨.nothing scene, rfl, nofun⟩
  | cons first rest =>
      refine .bind ?_
      rintro outcome next ⟨before, meanwhile, answers⟩
      cases answers with
      | elsewhere _ =>
          refine ⟨trivial, ?_⟩
          have handed : scene.Meanwhile next ∧
              handedOver [⟨.store (.enqueueLookups (first :: rest)), some outcome⟩] =
                [first :: rest] ∧
              Undrained [⟨.store (.enqueueLookups (first :: rest)), some outcome⟩] :=
            ⟨meanwhile, rfl, by simp [Undrained]⟩
          rcases outcome with failure | ⟨⟩
          · rintro _ _ rfl
            exact ⟨trivial, handed⟩
          · exact handed

theorem exists_mem_handed {address : Address} :
    (∃ other ∈ if batch = [] then [] else [batch], address ∈ other) ↔ address ∈ batch := by
  split
  · case isTrue empty => simp [empty]
  · simp

theorem Gathered.handed (gathered : Gathered past batch scene) :
    Gathered (past ++ if batch = [] then [] else [batch]) [] scene := by
  refine ⟨gathered.received, gathered.uncleared, fun address => ?_, .nil⟩
  simp only [gathered.asked_iff, List.mem_append, or_and_right, exists_or, exists_mem_handed,
    List.not_mem_nil, false_or, or_assoc]

/-- How a turn ends. -/
inductive Turned (past : List LookupBatch) :
    Option Job → LookupScene → List (AnsweredCall Services) → Prop where
  | goesOn {next : LookupWriter} {last : LookupScene} {calls : List (AnsweredCall Services)}
      (gathered : Gathered (past ++ handedOver calls) next.batch last)
      (small : next.batch.length < greatestBatch)
      (proper : ∀ batch ∈ handedOver calls,
        batch ≠ [] ∧ batch.Pairwise (· < ·) ∧ batch.length ≤ greatestBatch)
      (undrained : Undrained calls) : Turned past (some (.lookupWriter next)) last calls
  | ended {last : LookupScene} {earlier later : List (AnsweredCall Services)} {rest : LookupBatch}
      (asked_iff : ∀ address, address ∈ last.asked ↔
        ∃ batch ∈ past ++ handedOver later, address ∈ batch)
      (proper : ∀ batch ∈ handedOver later, batch ≠ [] ∧ batch.Pairwise (· < ·))
      (single : (handedOver later).length ≤ 1) (nothing : handedOver earlier = [])
      (undrained : Undrained earlier) :
      Turned past none last (earlier ++ ⟨.shared .takeLookups, some rest⟩ :: later)

/-- A batch that is handed over in the course of a turn leaves nothing behind. -/
theorem turned_of_handed {instant : Nat} {event : AnsweredCall Services}
    (gathered : Gathered past batch scene) (bounded : batch.length ≤ greatestBatch)
    (silent : handedOver? event = none) (other : event.call ≠ .shared .takeLookups)
    (handed : handedOver calls = if batch = [] then [] else [batch])
    (undrained : Undrained calls) :
    Turned past (some (.lookupWriter ⟨[], instant⟩)) scene (event :: calls) := by
  have same : handedOver (event :: calls) = if batch = [] then [] else [batch] := by
    rw [handedOver, List.filterMap_cons_none silent]
    exact handed
  refine .goesOn ?_ (Nat.zero_lt_succ _) ?_ (List.forall_mem_cons.mpr ⟨other, undrained⟩)
  · rw [same]
    exact gathered.handed
  · rw [same]
    intro own member
    split at member
    · cases member
    · case isFalse some =>
        rw [List.mem_singleton.mp member]
        exact ⟨some, gathered.ascending, bounded⟩

/-- What is handed over in the end is all that is left. -/
theorem turned_of_drained {event : AnsweredCall Services} (gathered : Gathered past batch scene)
    (same : last.asked = scene.asked) (silent : handedOver? event = none)
    (other : event.call ≠ .shared .takeLookups)
    (handed : handedOver later =
      if batch.insertAll scene.lookups.batch = [] then []
      else [batch.insertAll scene.lookups.batch]) :
    Turned past none last
      ([event] ++ ⟨.shared .takeLookups, some scene.lookups.batch⟩ :: later) := by
  refine .ended ?_ ?_ ?_ (List.filterMap_cons_none silent) (by simpa [Undrained] using other)
  · intro address
    simp only [same, gathered.asked_iff, List.mem_append, or_and_right, exists_or, handed,
      exists_mem_handed, LookupBatch.mem_insertAll, Lookups.mem_batch]
    exact or_congr_right or_comm
  · rw [handed]
    intro own member
    split at member
    · cases member
    · case isFalse some =>
        rw [List.mem_singleton.mp member]
        exact ⟨some, LookupBatch.pairwise_insertAll gathered.ascending⟩
  · rw [handed]
    split <;> simp

/-- A turn of the writer keeps the invariant, whatever others do while it waits. Once the channel
has been drained, what is asked for comes too late and does not count. -/
theorem recounts_turn (gathered : Gathered past writer.batch scene)
    (small : writer.batch.length < greatestBatch) :
    writer.turn.Recounts Serves (fun _ => True) (Turned past) scene := by
  rw [turn]
  refine .bind ?_
  rintro event next ⟨before, meanwhile, answers⟩
  refine ⟨trivial, ?_⟩
  have gathered := gathered.meanwhile meanwhile
  cases answers with
  | elsewhere outside => exact absurd rfl (outside _)
  | @address _ address rest _ waiting =>
      have taken : Gathered past (writer.batch.insert address)
          { before with lookups := { before.lookups with pending := rest } } := by
        refine ⟨gathered.received, gathered.uncleared, fun other => ?_,
          LookupBatch.pairwise_insert gathered.ascending⟩
        simp only [gathered.asked_iff, waiting, List.mem_cons, LookupBatch.mem_insert]
        exact or_congr_right (by rw [or_assoc, or_left_comm])
      change Recounts _ _ _
        (if (writer.batch.insert address).length < greatestBatch then _ else _) _
      split_ifs with few
      · refine recounts_pure ?_
        change Turned past _ _ [⟨.shared (.nextLookup _), some (.address address)⟩]
        refine .goesOn ((List.append_nil past).symm ▸ taken) few ?_ (by simp [Undrained])
        rintro _ ⟨⟩
      · refine .bind ((recounts_flush _ _).mono ?_)
        rintro _ last calls ⟨meanwhile, handed, undrained⟩
        refine recounts_pure ?_
        change Turned past _ last
          (⟨.shared (.nextLookup _), some (.address address)⟩ :: (calls ++ []))
        rw [List.append_nil]
        have bounded := (@LookupBatch.length_insert_le address writer.batch).trans small
        exact turned_of_handed (taken.meanwhile meanwhile) bounded rfl (by simp) handed undrained
  | due =>
      refine .bind ((recounts_flush writer.batch _).mono ?_)
      rintro _ last calls ⟨meanwhile, handed, undrained⟩
      refine recounts_pure ?_
      change Turned past _ last (⟨.shared (.nextLookup _), some .due⟩ :: (calls ++ []))
      rw [List.append_nil]
      exact turned_of_handed (gathered.meanwhile meanwhile) (Nat.le_of_lt small) rfl (by simp)
        handed undrained
  | ended =>
      refine .bind ?_
      rintro rest drained ⟨waiting, asking, answers⟩
      refine ⟨trivial, ?_⟩
      have gathered := gathered.meanwhile asking
      cases answers with
      | elsewhere outside => exact absurd rfl (outside _)
      | taken =>
          refine .bind ((recounts_flush _ _).mono ?_)
          rintro _ flushed calls ⟨flushing, handed, _⟩
          refine .bind ?_
          rintro _ last ⟨final, abandoning, answers⟩
          refine ⟨trivial, recounts_pure ?_⟩
          cases answers with
          | elsewhere outside => exact absurd rfl (outside _)
          | abandoned =>
              change Turned past none _ ([⟨.shared (.nextLookup _), some .ended⟩] ++
                ⟨.shared .takeLookups, some waiting.lookups.batch⟩ ::
                  (calls ++ [⟨.shared .abandonLookups, some ()⟩]))
              rcases asked_eq_of_meanwhile flushing rfl with ⟨same_flushed, cleared⟩
              rcases asked_eq_of_meanwhile abandoning cleared with ⟨same_final, _⟩
              refine turned_of_drained gathered (same_final.trans same_flushed) rfl (by simp) ?_
              rw [handedOver_append, handed]
              exact List.append_nil _

/-- What a writer hands over from some moment of its life on, the batches of earlier turns being its
past. -/
theorem accounts_of_lives (lives : Lives writer scene calls last)
    (gathered : Gathered past writer.batch scene) (small : writer.batch.length < greatestBatch) :
    (∀ address, address ∈ last.asked ↔ ∃ batch ∈ past ++ handedOver calls, address ∈ batch) ∧
      (∀ batch ∈ handedOver calls, batch ≠ [] ∧ batch.Pairwise (· < ·)) ∧
      ∃ earlier rest later, calls = earlier ++ ⟨.shared .takeLookups, some rest⟩ :: later ∧
        Undrained earlier ∧ (∀ batch ∈ handedOver earlier, batch.length ≤ greatestBatch) ∧
        (handedOver later).length ≤ 1 := by
  induction lives generalizing past with
  | ends run =>
      have turned := ((recounts_turn gathered small).reaches run.reaches run.leads trivial).2 _ rfl
      cases turned with
      | @ended _ earlier later rest asked_iff proper single nothing undrained =>
          have same : handedOver (earlier ++ ⟨.shared .takeLookups, some rest⟩ :: later) =
              handedOver later := by
            rw [handedOver_append, nothing]
            rfl
          rw [same]
          refine ⟨asked_iff, proper, earlier, rest, later, rfl, undrained, ?_, single⟩
          rw [nothing]
          exact nofun
  | goesOn run _ ih =>
      have turned := ((recounts_turn gathered small).reaches run.reaches run.leads trivial).2 _ rfl
      cases turned with
      | goesOn gathered small proper undrained =>
          rcases ih gathered small with
            ⟨asked_iff, proper_later, earlier, rest, final, rfl, undrained_later, bounded, single⟩
          refine ⟨?_, ?_, _, rest, final, (List.append_assoc _ _ _).symm,
            List.forall_mem_append.mpr ⟨undrained, undrained_later⟩, ?_, single⟩
          · rw [handedOver_append, ← List.append_assoc]
            exact asked_iff
          · rw [handedOver_append]
            refine List.forall_mem_append.mpr ⟨fun batch member => ?_, proper_later⟩
            exact ⟨(proper batch member).1, (proper batch member).2.1⟩
          · rw [handedOver_append]
            exact List.forall_mem_append.mpr
              ⟨fun batch member => (proper batch member).2.2, bounded⟩

/-- A writer that has ended has handed over just what was asked for before it took all that
waited. -/
theorem lives_writes {instant : Nat}
    (lives : Lives ⟨[], instant⟩ ⟨.empty, [], false⟩ calls last) : Writes last.asked calls := by
  have gathered : Gathered [] [] ⟨.empty, [], false⟩ :=
    ⟨rfl, rfl, by simp [Lookups.empty], .nil⟩
  rcases accounts_of_lives lives gathered (Nat.zero_lt_succ _) with
    ⟨asked_iff, proper, earlier, rest, later, whole, undrained, bounded, single⟩
  refine ⟨fun address => (asked_iff address).symm, fun batch member => (proper batch member).1,
    fun batch member => (proper batch member).2, earlier, rest, later, whole, undrained, bounded,
    single⟩

/-! ### A life that nothing gets in the way of -/

theorem hasRun_flush {batch : LookupBatch} (filled : batch.isEmpty = false) :
    (flush batch).HasRun Serves scene [⟨.store (.enqueueLookups batch), some (.ok ())⟩] ()
      scene := by
  have served : Serves scene ⟨.store (.enqueueLookups batch), some (.ok ())⟩ scene :=
    ⟨scene, .nothing scene, .elsewhere nofun⟩
  rw [flush, if_pos filled]
  exact (hasRun_call served).bind hasRun_pure

/-- Addresses are asked for before the writer begins, and one more before it is told to stop; one is
written in time, and the others are written in the end. -/
theorem lives_writes_stopped : ∃ calls last,
    Lives ⟨[], 0⟩ ⟨.empty, [], false⟩ calls last ∧
      handedOver calls = [["coin"], ["asset", "coin", "pool"]] ∧
      last.asked = ["coin", "asset", "coin", "pool"] ∧ Writes last.asked calls := by
  let waiting (pending asked : List Address) : LookupScene := ⟨⟨pending, true, true⟩, asked, false⟩
  let early : List Address := ["coin", "asset", "coin"]
  let all : List Address := ["coin", "asset", "coin", "pool"]
  have asking : Meanwhile ⟨.empty, [], false⟩ (waiting early early) :=
    .ask "coin" rfl (.ask "" rfl (.ask "asset" rfl (.ask "coin" rfl (.nothing _))))
  have asking_more : (waiting ["asset", "coin"] early).Meanwhile
      (waiting ["asset", "coin", "pool"] all) := .ask "pool" rfl (.nothing _)
  have gathers : (turn ⟨[], 0⟩).HasRun Serves ⟨.empty, [], false⟩
      [⟨.shared (.nextLookup 0), some (.address "coin")⟩] (some (.lookupWriter ⟨["coin"], 0⟩))
      (waiting ["asset", "coin"] early) :=
    (hasRun_call ⟨_, asking, .address rfl⟩).bind hasRun_pure
  have writes : (turn ⟨["coin"], 0⟩).HasRun Serves (waiting ["asset", "coin"] early)
      ([⟨.shared (.nextLookup 0), some .due⟩] ++
        ([⟨.store (.enqueueLookups ["coin"]), some (.ok ())⟩] ++ []))
      (some (.lookupWriter ⟨[], intervalMs⟩)) (waiting ["asset", "coin"] early) :=
    (hasRun_call ⟨_, .nothing _, .due⟩).bind ((hasRun_flush rfl).bind hasRun_pure)
  have ends : (turn ⟨[], intervalMs⟩).HasRun Serves (waiting ["asset", "coin"] early)
      ([⟨.shared (.nextLookup intervalMs), some .ended⟩] ++
        ([⟨.shared .takeLookups, some ["asset", "coin", "pool"]⟩] ++
          ([⟨.store (.enqueueLookups ["asset", "coin", "pool"]), some (.ok ())⟩] ++
            ([⟨.shared .abandonLookups, some ()⟩] ++ []))))
      none ⟨⟨[], false, true⟩, all, true⟩ :=
    (hasRun_call ⟨_, asking_more, .ended⟩).bind ((hasRun_call ⟨_, .nothing _, .taken⟩).bind
      ((hasRun_flush rfl).bind ((hasRun_call ⟨_, .nothing _, .abandoned⟩).bind hasRun_pure)))
  have lives := Lives.goesOn gathers (.goesOn writes (.ends ends))
  exact ⟨_, _, lives, rfl, rfl, lives_writes lives⟩

end LookupWriter

end SwapLedger
