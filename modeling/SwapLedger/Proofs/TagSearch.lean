import Mathlib.Data.List.Infix
import SwapLedger.TradeEvent

/-!
# The search for the tag of an event

The tag of trade events is searched for in the hexadecimal digits of a payload, where the search
passes over an occurrence that overlaps with one found before, and then over those that do not start
with the first digit of a byte. Nothing is lost that way: no end of the tag's digits is a beginning
of them, so that no two occurrences overlap. What is found is what a plain scan of the bytes finds.
-/

namespace SwapLedger

variable {α : Type*} {pattern text : List α} {place later : Nat}

/-! ## Occurrences -/

/-- A pattern stands at a place of a text. -/
def OccursAt (pattern text : List α) (place : Nat) : Prop := pattern <+: text.drop place

instance [DecidableEq α] (pattern text : List α) (place : Nat) :
    Decidable (OccursAt pattern text place) :=
  inferInstanceAs (Decidable (pattern <+: text.drop place))

/-- A pattern stands at a place of a text, and at none before. -/
structure FirstOccursAt (pattern text : List α) (place : Nat) : Prop where
  occurs : OccursAt pattern text place
  first : ∀ earlier < place, ¬OccursAt pattern text earlier

/-- No end of a pattern is a beginning of it, but the whole and the empty one. -/
def Unbordered (pattern : List α) : Prop :=
  ∀ shift < pattern.length, 0 < shift → ¬pattern.drop shift <+: pattern

instance [DecidableEq α] (pattern : List α) : Decidable (Unbordered pattern) :=
  inferInstanceAs
    (Decidable (∀ shift < pattern.length, 0 < shift → ¬pattern.drop shift <+: pattern))

theorem OccursAt.add_length_le (occurs : OccursAt pattern text place) (nonempty : pattern ≠ []) :
    place + pattern.length ≤ text.length := by
  have positive := List.length_pos_iff.mpr nonempty
  have fits := occurs.length_le
  rw [List.length_drop] at fits
  omega

/-- What occurs somewhere is a part of the text. -/
theorem OccursAt.isInfix (occurs : OccursAt pattern text place) : pattern <:+: text :=
  (List.IsPrefix.isInfix occurs).trans (List.drop_suffix place text).isInfix

/-- A pattern occurs behind what stands before it. -/
theorem occursAt_append (before pattern after : List α) :
    OccursAt pattern (before ++ pattern ++ after) before.length := by
  rw [OccursAt, List.append_assoc, List.drop_left]
  exact List.prefix_append pattern after

/-- There is only one first occurrence. -/
theorem FirstOccursAt.eq (first : FirstOccursAt pattern text place)
    (other : FirstOccursAt pattern text later) : place = later := by
  rcases Nat.lt_trichotomy place later with before | same | after
  · exact absurd first.occurs (other.first place before)
  · exact same
  · exact absurd other.occurs (first.first later after)

/-- The first occurrence is behind the first element just if none starts there and the rest has it
one place earlier. -/
theorem firstOccursAt_cons_succ_iff {first : α} {rest : List α} :
    FirstOccursAt pattern (first :: rest) (place + 1) ↔
      ¬OccursAt pattern (first :: rest) 0 ∧ FirstOccursAt pattern rest place := by
  constructor
  · rintro ⟨occurs, none⟩
    exact ⟨none 0 (Nat.succ_pos place), occurs, fun earlier before =>
      none (earlier + 1) (Nat.succ_lt_succ before)⟩
  · rintro ⟨notHere, occurs, none⟩
    refine ⟨occurs, fun earlier before => ?_⟩
    cases earlier with
    | zero => exact notHere
    | succ earlier => exact none earlier (Nat.lt_of_succ_lt_succ before)

/-- Occurrences of an unbordered pattern do not overlap: what is left of the first one would stand
where the second one begins. -/
theorem Unbordered.add_length_le (unbordered : Unbordered pattern)
    (occurs : OccursAt pattern text place) (again : OccursAt pattern text later)
    (before : place < later) : place + pattern.length ≤ later := by
  by_contra overlap
  rcases Nat.exists_eq_add_of_le before.le with ⟨shift, rfl⟩
  have left : pattern.drop shift <+: text.drop (place + shift) := by
    rw [← List.drop_drop]
    exact occurs.drop shift
  have shorter : (pattern.drop shift).length ≤ pattern.length := by
    rw [List.length_drop]
    exact Nat.sub_le _ _
  exact unbordered shift (by omega) (by omega)
    (List.prefix_of_prefix_length_le left again shorter)

namespace Text

variable {pattern text : List Char} {place passed : Nat}

/-- A search that goes on behind each occurrence finds all of them, as no two overlap. The elements
that were passed over since the last one hold no start of an occurrence, and that carries the
induction. -/
theorem occurrencesFrom_eq (unbordered : Unbordered pattern) (nonempty : pattern ≠ [])
    (clear : ∀ offset < passed, ¬OccursAt pattern text offset) :
    occurrencesFrom pattern place passed text =
      ((List.range text.length).filter (OccursAt pattern text ·)).map (place + ·) := by
  induction text generalizing place passed with
  | nil => cases passed <;> simp [occurrencesFrom, nonempty]
  | cons character rest ih =>
      have behind (offset : Nat) :
          OccursAt pattern (character :: rest) (offset + 1) ↔ OccursAt pattern rest offset :=
        Iff.rfl
      have split : ((List.range (character :: rest).length).filter
          (OccursAt pattern (character :: rest) ·)).map (place + ·) =
          (if OccursAt pattern (character :: rest) 0 then [place] else []) ++
            ((List.range rest.length).filter (OccursAt pattern rest ·)).map (place + 1 + ·) := by
        rw [List.length_cons, List.range_succ_eq_map, List.filter_cons, List.filter_map]
        simp only [Function.comp_def, Nat.succ_eq_add_one, behind, decide_eq_true_eq]
        split_ifs <;> simp [Function.comp_def, Nat.add_comm, Nat.add_left_comm]
      rw [split]
      cases passed with
      | zero =>
          rw [occurrencesFrom]
          have here : pattern.isPrefixOf (character :: rest) ↔
              OccursAt pattern (character :: rest) 0 := List.isPrefixOf_iff_prefix
          simp only [here]
          split_ifs with occurs
          · rw [ih, List.singleton_append]
            intro offset offset_lt again
            have apart := unbordered.add_length_le occurs ((behind offset).mpr again)
              (Nat.succ_pos offset)
            omega
          · rw [ih fun offset impossible => absurd impossible (Nat.not_lt_zero offset),
              List.nil_append]
      | succ passed =>
          rw [occurrencesFrom, if_neg (clear 0 (Nat.succ_pos passed)), List.nil_append, ih]
          intro offset offset_lt
          exact clear (offset + 1) (Nat.succ_lt_succ offset_lt)

/-- All occurrences of an unbordered pattern are found. -/
theorem occurrences_eq (unbordered : Unbordered pattern) (nonempty : pattern ≠ []) :
    occurrences pattern text = (List.range text.length).filter (OccursAt pattern text ·) := by
  rw [occurrences, occurrencesFrom_eq unbordered nonempty fun offset impossible =>
    absurd impossible (Nat.not_lt_zero offset)]
  simp

/-- The first occurrence that passes a test is found, and nothing else. -/
theorem find?_occurrences_eq_some_iff (unbordered : Unbordered pattern) (nonempty : pattern ≠ [])
    {test : Nat → Bool} : (occurrences pattern text).find? test = some place ↔
      OccursAt pattern text place ∧ test place ∧
        ∀ earlier < place, OccursAt pattern text earlier → ¬test earlier := by
  simp only [occurrences_eq unbordered nonempty, List.find?_filter, List.find?_range_eq_some,
    List.mem_range, decide_eq_true_eq, Bool.not_eq_true', decide_eq_false_iff_not, not_and]
  constructor
  · rintro ⟨⟨occurs, passes⟩, _, none⟩
    exact ⟨occurs, passes, none⟩
  · rintro ⟨occurs, passes, none⟩
    have inside := occurs.add_length_le nonempty
    have positive := List.length_pos_iff.mpr nonempty
    exact ⟨⟨occurs, passes⟩, by omega, none⟩

/-- Different digits are written differently. -/
theorem hexDigit_injective {digit other : Nat} (small : digit < 16) (otherSmall : other < 16)
    (same : hexDigit digit = hexDigit other) : digit = other := by
  have distinct : ∀ digit < 16, ∀ other < 16, hexDigit digit = hexDigit other → digit = other := by
    decide
  exact distinct digit small other otherSmall same

end Text

namespace Bytes

variable {pattern bytes left right body : Bytes} {place : Nat}

/-! ## Bytes and their digits -/

theorem hexDigits_cons (byte : UInt8) (rest : Bytes) :
    hexDigits (byte :: rest) =
      Text.hexDigit (byte.toNat / 16) :: Text.hexDigit (byte.toNat % 16) :: hexDigits rest := rfl

theorem length_hexDigits (bytes : Bytes) : bytes.hexDigits.length = 2 * bytes.length := by
  induction bytes with
  | nil => rfl
  | cons byte rest ih => simp only [hexDigits_cons, List.length_cons, ih]; omega

/-- The digits behind some bytes are those of what is left of the bytes. -/
theorem drop_hexDigits (bytes : Bytes) (place : Nat) :
    bytes.hexDigits.drop (2 * place) = hexDigits (bytes.drop place) := by
  induction bytes generalizing place with
  | nil => simp [hexDigits]
  | cons byte rest ih =>
      cases place with
      | zero => rfl
      | succ place =>
          rw [Nat.mul_succ, hexDigits_cons, List.drop_succ_cons, List.drop_succ_cons, ih,
            List.drop_succ_cons]

/-- A byte is known by its two digits. -/
theorem byte_eq_of_hexDigit_eq {byte other : UInt8}
    (high : Text.hexDigit (byte.toNat / 16) = Text.hexDigit (other.toNat / 16))
    (low : Text.hexDigit (byte.toNat % 16) = Text.hexDigit (other.toNat % 16)) : byte = other := by
  have byte_lt := byte.toNat_lt
  have other_lt := other.toNat_lt
  have sameHigh := Text.hexDigit_injective (by omega) (by omega) high
  have sameLow := Text.hexDigit_injective (by omega) (by omega) low
  apply UInt8.toNat_inj.mp
  omega

/-- Digits start with those of a pattern just if the bytes start with the pattern. -/
theorem hexDigits_isPrefix_iff : left.hexDigits <+: right.hexDigits ↔ left <+: right := by
  induction left generalizing right with
  | nil => simp [hexDigits]
  | cons byte rest ih =>
      cases right with
      | nil => simp [hexDigits]
      | cons other others =>
          simp only [hexDigits_cons, List.cons_prefix_cons, ih]
          constructor
          · rintro ⟨high, low, start⟩
            exact ⟨byte_eq_of_hexDigit_eq high low, start⟩
          · rintro ⟨rfl, start⟩
            exact ⟨rfl, rfl, start⟩

/-- At an even place the digits of a pattern occur just if the pattern does. -/
theorem occursAt_hexDigits_iff :
    OccursAt pattern.hexDigits bytes.hexDigits (2 * place) ↔ OccursAt pattern bytes place := by
  rw [OccursAt, drop_hexDigits, hexDigits_isPrefix_iff, OccursAt]

/-- The first occurrence among the digits that starts with the first digit of a byte is the first
one among the bytes. -/
theorem find?_occurrences_hexDigits_eq_some_iff {digit : Nat}
    (unbordered : Unbordered pattern.hexDigits) (nonempty : pattern ≠ []) :
    (Text.occurrences pattern.hexDigits bytes.hexDigits).find? (fun place => place % 2 == 0) =
        some digit ↔
      ∃ place, digit = 2 * place ∧ FirstOccursAt pattern bytes place := by
  have digits : pattern.hexDigits ≠ [] := by
    rw [← List.length_pos_iff, length_hexDigits]
    have positive := List.length_pos_iff.mpr nonempty
    omega
  rw [Text.find?_occurrences_eq_some_iff unbordered digits]
  simp only [beq_iff_eq]
  constructor
  · rintro ⟨occurs, even, none⟩
    rcases Nat.dvd_of_mod_eq_zero even with ⟨place, rfl⟩
    refine ⟨place, rfl, occursAt_hexDigits_iff.mp occurs, fun earlier before again => ?_⟩
    exact none (2 * earlier) (by omega) (occursAt_hexDigits_iff.mpr again) (Nat.mul_mod_right 2 _)
  · rintro ⟨place, rfl, occurs, none⟩
    refine ⟨occursAt_hexDigits_iff.mpr occurs, Nat.mul_mod_right 2 _, ?_⟩
    intro earlier before again even
    rcases Nat.dvd_of_mod_eq_zero even with ⟨earlierPlace, rfl⟩
    exact none earlierPlace (by omega) (occursAt_hexDigits_iff.mp again)

/-! ## The plain scan -/

/-- What is found is what stands behind the first occurrence. -/
theorem after?_eq_some_iff : after? pattern bytes = some body ↔
    ∃ place, FirstOccursAt pattern bytes place ∧ bytes.drop (place + pattern.length) = body := by
  induction bytes with
  | nil =>
      simp only [after?, List.drop_nil]
      constructor
      · intro found
        split_ifs at found with empty
        subst empty
        exact ⟨0, ⟨List.nil_prefix, fun earlier impossible => by omega⟩, by simpa using found⟩
      · rintro ⟨place, first, rfl⟩
        have empty : pattern = [] := by simpa [OccursAt] using first.occurs
        rw [if_pos empty]
  | cons byte rest ih =>
      rw [after?]
      have here : pattern.isPrefixOf (byte :: rest) ↔ OccursAt pattern (byte :: rest) 0 :=
        List.isPrefixOf_iff_prefix
      simp only [here]
      split_ifs with occurs
      · have atStart : FirstOccursAt pattern (byte :: rest) 0 :=
          ⟨occurs, fun earlier impossible => absurd impossible (Nat.not_lt_zero earlier)⟩
        constructor
        · intro found
          exact ⟨0, atStart, by simpa using found⟩
        · rintro ⟨place, first, rfl⟩
          rw [← atStart.eq first, Nat.zero_add]
      · rw [ih]
        constructor
        · rintro ⟨place, first, rfl⟩
          refine ⟨place + 1, firstOccursAt_cons_succ_iff.mpr ⟨occurs, first⟩, ?_⟩
          rw [Nat.add_right_comm, List.drop_succ_cons]
        · rintro ⟨place, first, rfl⟩
          cases place with
          | zero => exact absurd first.occurs occurs
          | succ place =>
              refine ⟨place, (firstOccursAt_cons_succ_iff.mp first).2, ?_⟩
              rw [Nat.add_right_comm, List.drop_succ_cons]

/-- Nothing is found just if the pattern is no part of the bytes. -/
theorem after?_eq_none : after? pattern bytes = none ↔ ¬pattern <:+: bytes := by
  induction bytes with
  | nil => simp [after?]
  | cons byte rest ih =>
      rw [after?, List.infix_cons_iff, ← List.isPrefixOf_iff_prefix]
      by_cases found : pattern.isPrefixOf (byte :: rest) <;> simp [found, ih]

end Bytes

/-! ## The tag of trade events -/

namespace TradeEvent

variable {payload body : Bytes}

theorem unbordered_discriminator : Unbordered (Bytes.hexDigits discriminator) := by decide

/-- The search in the digits finds what follows the first place at which the bytes of the tag
stand. -/
theorem bodyIn?_eq_some_iff : bodyIn? payload = some body ↔
    ∃ place, FirstOccursAt discriminator payload place ∧
      payload.drop (place + discriminator.length) = body := by
  have nonempty : discriminator ≠ [] := by decide
  have start_eq (place : Nat) : (2 * place + (Bytes.hexDigits discriminator).length) / 2 =
      place + discriminator.length := by
    rw [Bytes.length_hexDigits]
    omega
  simp only [bodyIn?, Option.bind_eq_bind, Option.bind_eq_some_iff,
    Bytes.find?_occurrences_hexDigits_eq_some_iff unbordered_discriminator nonempty]
  constructor
  · rintro ⟨_, ⟨place, rfl, first⟩, told⟩
    rw [start_eq, if_pos (first.occurs.add_length_le nonempty), Option.some.injEq] at told
    exact ⟨place, first, told⟩
  · rintro ⟨place, first, rfl⟩
    refine ⟨2 * place, ⟨place, rfl, first⟩, ?_⟩
    rw [start_eq, if_pos (first.occurs.add_length_le nonempty)]

/-- To search the digits for the tag and to search the bytes for it come to the same. -/
theorem bodyIn?_eq_after? (payload : Bytes) :
    bodyIn? payload = Bytes.after? discriminator payload := by
  ext body
  rw [bodyIn?_eq_some_iff, Bytes.after?_eq_some_iff]

/-- There is no body just if the tag is no part of the payload. -/
theorem bodyIn?_eq_none_iff : bodyIn? payload = none ↔ ¬discriminator <:+: payload := by
  rw [bodyIn?_eq_after?, Bytes.after?_eq_none]

end TradeEvent

end SwapLedger
