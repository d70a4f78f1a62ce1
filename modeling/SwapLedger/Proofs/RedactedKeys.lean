import Mathlib.Data.List.Infix
import SwapLedger.Redaction

/-!
# Redacted keys

Of two addresses that differ only in the values of their keys, the redacted forms are the same just
if the addresses agree behind the value of the first key: that value is hidden, and all that follows
it is told. So nothing of a sole key shows, and every further one is told in full.
-/

namespace SwapLedger

namespace Redaction

variable {text other rest otherRest before value : List Char} {character : Char}

/-- Two texts that differ at most in the values behind `api-key=`, each of which runs up to the next
`&` or to the end. -/
inductive SameButKeys : List Char → List Char → Prop where
  | ends : SameButKeys [] []
  | plain (character : Char) {rest otherRest : List Char} (same : SameButKeys rest otherRest) :
      SameButKeys (character :: rest) (character :: otherRest)
  | key {value otherValue rest otherRest : List Char} (inside : '&' ∉ value)
      (otherInside : '&' ∉ otherValue) (past : rest.head? = none ∨ rest.head? = some '&')
      (same : SameButKeys rest otherRest) :
      SameButKeys (marker ++ value ++ rest) (marker ++ otherValue ++ otherRest)

/-- What follows the value of the first key of a text, if it has one. -/
def behindFirst : List Char → List Char
  | [] => []
  | character :: rest =>
    if marker <+: character :: rest then afterValue ((character :: rest).drop marker.length)
    else behindFirst rest

/-! ## Values -/

theorem not_mem_marker : '&' ∉ marker := by
  decide

/-- The first character of the marker occurs in it only once. -/
theorem exists_marker_eq : ∃ others, marker = 'a' :: others ∧ 'a' ∉ others :=
  ⟨"pi-key=".toList, by decide, by decide⟩

theorem afterValue_append (inside : '&' ∉ value)
    (past : rest.head? = none ∨ rest.head? = some '&') : afterValue (value ++ rest) = rest := by
  have dropped : ∀ character ∈ value, decide (character ≠ '&') = true := by
    intro character member
    simpa using ne_of_mem_of_not_mem member inside
  rw [afterValue, List.dropWhile_append_of_pos dropped]
  cases rest with
  | nil => rfl
  | cons character rest =>
      have isPast : character = '&' := by simpa using past
      simp [isPast]

namespace SameButKeys

theorem refl (text : List Char) : SameButKeys text text := by
  induction text with
  | nil => exact .ends
  | cons character rest ih => exact .plain character ih

theorem append (before : List Char) (same : SameButKeys rest otherRest) :
    SameButKeys (before ++ rest) (before ++ otherRest) := by
  induction before with
  | nil => exact same
  | cons character before ih => exact .plain character ih

theorem head?_eq (same : SameButKeys text other) : text.head? = other.head? := by
  cases same with
  | ends => rfl
  | plain character _ => rfl
  | key _ _ _ _ => rfl

theorem symm (same : SameButKeys text other) : SameButKeys other text := by
  induction same with
  | ends => exact .ends
  | plain character _ ih => exact .plain character ih
  | key inside otherInside past same ih => exact .key otherInside inside (same.head?_eq ▸ past) ih

theorem afterValue (same : SameButKeys text other) :
    SameButKeys (afterValue text) (afterValue other) := by
  induction same with
  | ends => exact .ends
  | @plain character rest otherRest same ih =>
      by_cases past : character = '&'
      · simpa [Redaction.afterValue, past] using SameButKeys.plain '&' same
      · simpa [Redaction.afterValue, past] using ih
  | @key value otherValue rest otherRest inside otherInside past same ih =>
      rw [afterValue_append (by simp [not_mem_marker, inside]) past,
        afterValue_append (by simp [not_mem_marker, otherInside]) (same.head?_eq ▸ past)]
      exact same

theorem exists_of_cons (same : SameButKeys (character :: rest) other)
    (free : ¬marker <+: character :: rest) :
    ∃ otherRest, other = character :: otherRest ∧ SameButKeys rest otherRest := by
  generalize text_eq : character :: rest = text at same free
  cases same with
  | ends => simp at text_eq
  | key => exact absurd ⟨_, (List.append_assoc ..).symm⟩ free
  | @plain _ _ otherRest same =>
      rcases List.cons.inj text_eq with ⟨rfl, rfl⟩
      exact ⟨otherRest, rfl, same⟩

/-- No key begins but with the first character of the marker. -/
theorem exists_of_append (same : SameButKeys (before ++ rest) other) (free : 'a' ∉ before) :
    ∃ otherRest, other = before ++ otherRest ∧ SameButKeys rest otherRest := by
  rcases exists_marker_eq with ⟨others, marker_eq, _⟩
  induction before generalizing other with
  | nil => exact ⟨other, rfl, same⟩
  | cons character before ih =>
      rw [List.mem_cons, not_or] at free
      have noKey : ¬marker <+: character :: (before ++ rest) := by
        simp [marker_eq, free.1]
      rcases exists_of_cons same noKey with ⟨tail, rfl, sameTail⟩
      rcases ih sameTail free.2 with ⟨otherRest, rfl, behind⟩
      exact ⟨otherRest, rfl, behind⟩

/-- A key stands in one text where one stands in the other. When a marker was taken for plain text,
that is true of the whole of it. -/
theorem exists_of_marker (same : SameButKeys (marker ++ rest) other) :
    ∃ otherRest, other = marker ++ otherRest ∧
      SameButKeys (Redaction.afterValue rest) (Redaction.afterValue otherRest) := by
  rcases exists_marker_eq with ⟨others, marker_eq, once⟩
  generalize whole : marker ++ rest = text at same
  cases same with
  | ends => simp [marker_eq] at whole
  | plain character same =>
      rw [marker_eq] at whole ⊢
      rcases List.cons.inj whole with ⟨rfl, rfl⟩
      rcases same.exists_of_append once with ⟨otherRest, rfl, behind⟩
      exact ⟨otherRest, rfl, behind.afterValue⟩
  | @key value otherValue kept otherKept inside otherInside past same =>
      rw [List.append_assoc, List.append_cancel_left_eq] at whole
      refine ⟨otherValue ++ otherKept, List.append_assoc .., ?_⟩
      rw [whole, afterValue_append inside past,
        afterValue_append otherInside (same.head?_eq ▸ past)]
      exact same

theorem marker_isPrefix_iff (same : SameButKeys text other) :
    marker <+: text ↔ marker <+: other := by
  constructor
  · rintro ⟨rest, rfl⟩
    rcases same.exists_of_marker with ⟨otherRest, rfl, _⟩
    exact List.prefix_append marker otherRest
  · rintro ⟨rest, rfl⟩
    rcases same.symm.exists_of_marker with ⟨otherRest, rfl, _⟩
    exact List.prefix_append marker otherRest

theorem eq_of_keyless (same : SameButKeys text other) (keyless : ¬marker <:+: text) :
    text = other := by
  induction same with
  | ends => rfl
  | plain character _ ih =>
      rw [ih fun inside => keyless (List.infix_cons inside)]
  | @key value _ rest _ _ _ _ _ _ => exact absurd ⟨[], value ++ rest, by simp⟩ keyless

end SameButKeys

/-! ## The first key -/

theorem redactedCharacters_marker (rest : List Char) :
    redactedCharacters (marker ++ rest) = marker ++ blot ++ afterValue rest := by
  cases whole : marker ++ rest with
  | nil => exact absurd (List.append_eq_nil_iff.mp whole).1 (by decide)
  | cons character tail =>
      rw [redactedCharacters, ← whole, if_pos (by simp), List.drop_left]

theorem behindFirst_marker (rest : List Char) : behindFirst (marker ++ rest) = afterValue rest := by
  cases whole : marker ++ rest with
  | nil => exact absurd (List.append_eq_nil_iff.mp whole).1 (by decide)
  | cons character tail =>
      rw [behindFirst, ← whole, if_pos (List.prefix_append marker rest), List.drop_left]

theorem redactedCharacters_cons (free : ¬marker <+: character :: rest) :
    redactedCharacters (character :: rest) = character :: redactedCharacters rest := by
  rw [redactedCharacters, if_neg (by simpa using free)]

theorem behindFirst_cons (free : ¬marker <+: character :: rest) :
    behindFirst (character :: rest) = behindFirst rest := by
  rw [behindFirst, if_neg free]

/-- Up to the value of the first key, the redacted forms of texts that differ in keys only are the
same, and what follows it is told as it stands. -/
theorem SameButKeys.exists_shared (same : SameButKeys text other) :
    ∃ shared, redactedCharacters text = shared ++ behindFirst text ∧
      redactedCharacters other = shared ++ behindFirst other ∧
      SameButKeys (behindFirst text) (behindFirst other) := by
  induction text generalizing other with
  | nil =>
      have nothing : other = [] := List.head?_eq_none_iff.mp same.head?_eq.symm
      subst nothing
      exact ⟨[], rfl, rfl, .ends⟩
  | cons character rest ih =>
      by_cases starts : marker <+: character :: rest
      · rcases starts with ⟨tail, text_eq⟩
        rw [← text_eq] at same ⊢
        rcases same.exists_of_marker with ⟨otherTail, rfl, behind⟩
        rw [behindFirst_marker, behindFirst_marker]
        exact ⟨marker ++ blot, redactedCharacters_marker tail, redactedCharacters_marker otherTail,
          behind⟩
      · have otherStarts := same.marker_isPrefix_iff.not.mp starts
        rcases same.exists_of_cons starts with ⟨otherRest, rfl, sameRest⟩
        rcases ih sameRest with ⟨shared, shared_eq, otherShared_eq, behind⟩
        rw [redactedCharacters_cons starts, redactedCharacters_cons otherStarts,
          behindFirst_cons starts, behindFirst_cons otherStarts]
        exact ⟨character :: shared, by rw [shared_eq, List.cons_append],
          by rw [otherShared_eq, List.cons_append], behind⟩

/-- Redaction hides the value of the first key and nothing behind it: the redacted forms of two
addresses that differ only in keys are the same just if the addresses agree behind that value. So
they are the same where no further key stands there. -/
theorem first_key_hidden {address other : String}
    (same : SameButKeys address.toList other.toList) :
    (redacted address = redacted other ↔
      behindFirst address.toList = behindFirst other.toList) ∧
      (¬marker <:+: behindFirst address.toList → redacted address = redacted other) := by
  rcases same.exists_shared with ⟨shared, shared_eq, otherShared_eq, behind⟩
  have hidden_iff : redacted address = redacted other ↔
      behindFirst address.toList = behindFirst other.toList := by
    rw [redacted, redacted, String.ofList_inj, shared_eq, otherShared_eq,
      List.append_cancel_left_eq]
  exact ⟨hidden_iff, fun keyless => hidden_iff.mpr (behind.eq_of_keyless keyless)⟩

/-- A text with a key, and what stands around it. -/
def keyed (before key behind : String) : String := before ++ "api-key=" ++ key ++ behind

theorem sameButKeys_keyed (before : String) {key otherKey behind otherBehind : String}
    (inside : '&' ∉ key.toList) (otherInside : '&' ∉ otherKey.toList)
    (past : behind.toList.head? = none ∨ behind.toList.head? = some '&')
    (same : SameButKeys behind.toList otherBehind.toList) :
    SameButKeys (keyed before key behind).toList (keyed before otherKey otherBehind).toList := by
  simp only [keyed, String.toList_append, List.append_assoc]
  refine .append _ ?_
  rw [← List.append_assoc, ← List.append_assoc]
  exact .key inside otherInside past same

/-- The address of a node with a key, and further parameters. -/
def nodeAddress (key further : String) : String := keyed "https://rpc.example.com/?" key further

/-- Nothing shows of a sole key. -/
theorem first_key_hidden_sole :
    SameButKeys (nodeAddress "secret" "&x=1").toList (nodeAddress "hidden" "&x=1").toList ∧
      ¬marker <:+: behindFirst (nodeAddress "secret" "&x=1").toList ∧
      redacted (nodeAddress "secret" "&x=1") = redacted (nodeAddress "hidden" "&x=1") ∧
      redacted (nodeAddress "secret" "&x=1") = nodeAddress "[REDACTED]" "&x=1" := by
  have same : SameButKeys (nodeAddress "secret" "&x=1").toList
      (nodeAddress "hidden" "&x=1").toList :=
    sameButKeys_keyed _ (by decide) (by decide) (by decide) (SameButKeys.refl _)
  have keyless : ¬marker <:+: behindFirst (nodeAddress "secret" "&x=1").toList := by
    decide +kernel
  exact ⟨same, keyless, (first_key_hidden same).2 keyless, by decide +kernel⟩

/-- Of a second key every character shows, where redaction was to hide both. -/
theorem second_key_told :
    SameButKeys (nodeAddress "one" (keyed "&" "two" "")).toList
      (nodeAddress "one" (keyed "&" "three" "")).toList ∧
      redacted (nodeAddress "one" (keyed "&" "two" "")) ≠
        redacted (nodeAddress "one" (keyed "&" "three" "")) ∧
      redacted (nodeAddress "one" (keyed "&" "two" "")) =
        "https://rpc.example.com/?api-key=[REDACTED]&api-key=two" := by
  have further : SameButKeys (keyed "&" "two" "").toList (keyed "&" "three" "").toList :=
    sameButKeys_keyed _ (by decide) (by decide) (by decide) (SameButKeys.refl _)
  have same : SameButKeys (nodeAddress "one" (keyed "&" "two" "")).toList
      (nodeAddress "one" (keyed "&" "three" "")).toList :=
    sameButKeys_keyed _ (by decide) (by decide) (by decide +kernel) further
  exact ⟨same, by decide +kernel, by decide +kernel⟩

end Redaction

end SwapLedger
