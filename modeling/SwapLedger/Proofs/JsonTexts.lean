import Mathlib.Algebra.Group.Int.Defs
import Mathlib.Algebra.Group.Nat.Defs
import Mathlib.Data.List.TakeDrop
import SwapLedger.Json.Reader
import SwapLedger.Json.Writer

/-!
# Texts of JSON values

The reader gives back what the writer has written. What a value is followed by must not prolong it:
digits run on, and a point or the letter of an exponent would make an integer another number. So
each part of the writer is read with some rest behind it, and the fuel is counted in characters.
-/

namespace SwapLedger

namespace Json

/-- A value that is read as it was written: its integers are 64-bit words, it has no other numbers
and nothing unreadable, and its lists and objects are nested at most so deep. -/
inductive Ordinary : (depth : Nat) → Json → Prop where
  | null (depth : Nat) : Ordinary depth .null
  | bool (depth : Nat) (value : Bool) : Ordinary depth (.bool value)
  | integer (depth : Nat) {value : Int} (least : -(2 ^ 63) ≤ value) (greatest : value < 2 ^ 64) :
      Ordinary depth (.integer value)
  | string (depth : Nat) (text : String) : Ordinary depth (.string text)
  | array {depth : Nat} {items : List Json} (ordinary : ∀ item ∈ items, Ordinary depth item) :
      Ordinary (depth + 1) (.array items)
  | object {depth : Nat} {members : List (String × Json)}
      (ordinary : ∀ member ∈ members, Ordinary depth member.2) :
      Ordinary (depth + 1) (.object members)

namespace Reader

open Writer

/-- Whether a text cannot prolong a number in front of it. -/
def Separate (rest : List Char) : Prop :=
  ∀ character ∈ rest.head?,
    character.isDigit = false ∧ character ≠ '.' ∧ character ≠ 'e' ∧ character ≠ 'E'

theorem separate_nil : Separate [] := by simp [Separate]

theorem separate_cons {character : Char} {rest : List Char}
    (mark : character = ',' ∨ character = ']' ∨ character = '\x7d') :
    Separate (character :: rest) := by
  rintro _ ⟨⟩
  rcases mark with rfl | rfl | rfl <;> decide

/-! ## Strings -/

theorem unit?_hexDigit {low : Nat} (small : low < 0x20) :
    unit? '0' '0' (Text.hexDigit (low / 16)) (Text.hexDigit (low % 16)) = some low := by
  revert low
  decide

theorem pushUnit_eq_push {characters : List Char} {character : Char}
    (control : character.toNat < 0x20) :
    (Spelled.mk none (some characters)).pushUnit character.toNat =
      ⟨none, some (character :: characters)⟩ := by
  rw [Spelled.pushUnit, if_neg (by omega), if_neg (by omega), Char.ofNat_toNat]
  rfl

theorem stringBody?_cons (spelled : Spelled) {character : Char} {rest : List Char}
    (notQuote : character ≠ '"') (notBackslash : character ≠ '\\')
    (notControl : ¬ character.toNat < 0x20) :
    stringBody? spelled (character :: rest) = stringBody? (spelled.push character) rest := by
  rw [stringBody?, if_neg (not_or.mpr ⟨notControl, notBackslash⟩)]
  · exact notQuote
  · rintro _ _ _ _ _ same
    exact absurd same notBackslash
  · rintro _ _ same
    exact absurd same notBackslash

/-- A character is read as it was escaped. -/
theorem stringBody?_escape (characters : List Char) (character : Char) (rest : List Char) :
    stringBody? ⟨none, some characters⟩ (escape character ++ rest) =
      stringBody? ⟨none, some (character :: characters)⟩ rest := by
  unfold escape
  split
  case h_1 | h_2 | h_3 | h_4 | h_5 | h_6 | h_7 => rfl
  case h_8 notQuote notBackslash _ _ _ _ _ =>
    split_ifs with control
    · simp only [List.cons_append, List.nil_append]
      rw [stringBody?, unit?_hexDigit control]
      simp only [pushUnit_eq_push control]
    · exact stringBody?_cons _ notQuote notBackslash control

theorem stringBody?_flatMap_escape (characters text rest : List Char) :
    stringBody? ⟨none, some characters⟩ (text.flatMap escape ++ '"' :: rest) =
      some (some (String.ofList (characters.reverse ++ text)), rest) := by
  induction text generalizing characters with
  | nil => simp [stringBody?, Spelled.text?]
  | cons character text ih =>
      rw [List.flatMap_cons, List.append_assoc, stringBody?_escape, ih, List.reverse_cons,
        List.append_assoc]
      rfl

/-- What stands in quotes is read to the closing quote. -/
theorem stringBody?_tail_quoted (text : String) (rest : List Char) :
    stringBody? .empty ((quoted text).tail ++ rest) = some (some text, rest) := by
  have spelled := stringBody?_flatMap_escape [] text.toList rest
  rw [List.reverse_nil, List.nil_append, String.ofList_toList] at spelled
  simpa [quoted, Spelled.empty] using spelled

/-! ## Integers -/

theorem natOfDigits_toDigits (value : Nat) : natOfDigits (Nat.toDigits 10 value) = value := by
  simpa [natOfDigits, Nat.ofDigitChars, Nat.mul_comm] using
    @Nat.ofDigitChars_ten_toDigits value

theorem digits?_toDigits (value : Nat) {rest : List Char} (separate : Separate rest) :
    digits? (Nat.toDigits 10 value ++ rest) = some (Nat.toDigits 10 value, rest) := by
  have allDigits : ∀ digit ∈ Nat.toDigits 10 value, digit.isDigit = true :=
    fun digit member => Nat.isDigit_of_mem_toDigits (by decide) (by decide) member
  have stops : rest.takeWhile Char.isDigit = [] ∧ rest.dropWhile Char.isDigit = rest := by
    cases rest with
    | nil => exact ⟨rfl, rfl⟩
    | cons next rest =>
        have noDigit := (separate next rfl).1
        simp [noDigit]
  have cut : (Nat.toDigits 10 value ++ rest).span Char.isDigit =
      (Nat.toDigits 10 value, rest) := by
    rw [List.span_eq_takeWhile_dropWhile, List.takeWhile_append_of_pos allDigits,
      List.dropWhile_append_of_pos allDigits, stops.1, stops.2, List.append_nil]
  rw [digits?, cut]
  split
  · rename_i same
    exact absurd (congrArg Prod.fst same) Nat.toDigits_ne_nil
  · rfl

/-- No zeros are written in front of the digits that count. -/
theorem head?_toDigits_ne {value : Nat} (positive : 0 < value) :
    (Nat.toDigits 10 value).head? ≠ some '0' := by
  induction value using Nat.strongRecOn with
  | _ value ih =>
      rcases Nat.lt_or_ge value 10 with small | large
      · have counts : ∀ digit < 10, 0 < digit → [Nat.digitChar digit].head? ≠ some '0' := by decide
        rw [Nat.toDigits_of_lt_base small]
        exact counts value small positive
      · rw [Nat.toDigits_of_base_le (by decide) large, List.head?_append]
        have first := ih (value / 10) (by omega) (by omega)
        cases head : (Nat.toDigits 10 (value / 10)).head? with
        | none => exact absurd (List.head?_eq_none_iff.mp head) Nat.toDigits_ne_nil
        | some digit => rwa [head] at first

theorem not_leadingZero (value : Nat) :
    ¬ ((Nat.toDigits 10 value).length > 1 ∧ (Nat.toDigits 10 value).head? = some '0') := by
  rintro ⟨long, zero⟩
  rcases Nat.eq_zero_or_pos value with rfl | positive
  · simp at long
  · exact head?_toDigits_ne positive zero

theorem fraction?_of_separate {rest : List Char} (separate : Separate rest) :
    fraction? rest = some (none, rest) := by
  unfold fraction?
  split
  · exact absurd rfl (separate _ rfl).2.1
  · rfl

theorem exponent?_of_separate {rest : List Char} (separate : Separate rest) :
    exponent? rest = some (none, rest) := by
  unfold exponent?
  split
  · rename_i letter rest
    rcases separate letter rfl with ⟨_, _, notSmall, notCapital⟩
    rw [if_neg (not_or.mpr ⟨notSmall, notCapital⟩)]
  · rfl

theorem unsigned?_toDigits {negative : Bool} {magnitude : Nat} {rest : List Char}
    (separate : Separate rest)
    (fits : if negative then 0 < magnitude ∧ magnitude ≤ 2 ^ 63 else magnitude < 2 ^ 64) :
    unsigned? negative (Nat.toDigits 10 magnitude ++ rest) =
      some (.integer (if negative then -magnitude else magnitude), rest) := by
  rw [unsigned?, digits?_toDigits magnitude separate]
  simp only [Option.bind_eq_bind, Option.bind_some, if_neg (not_leadingZero magnitude),
    fraction?_of_separate separate, exponent?_of_separate separate, natOfDigits_toDigits,
    Option.isSome_none, Bool.false_eq_true, or_self, if_false]
  cases negative with
  | true =>
      rw [if_pos rfl] at fits
      have inside : ¬ (magnitude = 0 ∨ 1 <<< 63 < magnitude) := by
        rw [Nat.one_shiftLeft]
        omega
      rw [if_pos rfl, if_pos rfl, if_neg inside]
      rfl
  | false =>
      have inside : magnitude < UInt64.size := by simpa using fits
      simp [inside]

/-- An integer is read as it was written. -/
theorem number?_integer {value : Int} {rest : List Char} (separate : Separate rest)
    (least : -(2 ^ 63) ≤ value) (greatest : value < 2 ^ 64) :
    number? (Writer.integer value ++ rest) = some (.integer value, rest) := by
  rw [Writer.integer]
  split_ifs with below
  · rw [List.cons_append, number?,
      @unsigned?_toDigits true value.natAbs rest separate (by rw [if_pos rfl]; omega)]
    simp only [if_true]
    congr 3
    omega
  · have unsigned := @unsigned?_toDigits false value.natAbs rest separate
      (by simp only [Bool.false_eq_true, if_false]; omega)
    rw [number?, unsigned]
    · simp only [Bool.false_eq_true, if_false]
      congr 3
      omega
    · intro tail same
      have member : '-' ∈ Nat.toDigits 10 value.natAbs := by
        cases digits : Nat.toDigits 10 value.natAbs with
        | nil => exact absurd digits Nat.toDigits_ne_nil
        | cons first others =>
            rw [digits] at same
            rw [(List.cons.inj same).1]
            exact List.mem_cons_self
      exact absurd (Nat.isDigit_of_mem_toDigits (by decide) (by decide) member) (by decide)

/-! ## Values -/

/-- Whether a value is read as it was written, whatever comes after it. -/
def Reads (depth : Nat) (json : Json) : Prop :=
  ∀ fuel rest, (write json).length < fuel → Separate rest →
    value? fuel depth (write json ++ rest) = some (json, rest)

theorem reads_of_succ {depth : Nat} {json : Json}
    (reads : ∀ fuel rest, (write json).length ≤ fuel → Separate rest →
      value? (fuel + 1) depth (write json ++ rest) = some (json, rest)) : Reads depth json := by
  intro fuel rest enough separate
  cases fuel with
  | zero => exact absurd enough (Nat.not_lt_zero _)
  | succ fuel => exact reads fuel rest (Nat.le_of_lt_succ enough) separate

theorem skipBlanks_cons {character : Char} (visible : isBlank character = false)
    (rest : List Char) : skipBlanks (character :: rest) = character :: rest := by
  simp [skipBlanks, visible]

theorem reads_null (depth : Nat) : Reads depth .null := reads_of_succ fun _ _ _ _ => rfl

theorem reads_bool (depth : Nat) (value : Bool) : Reads depth (.bool value) := by
  refine reads_of_succ fun _ _ _ _ => ?_
  cases value <;> rfl

theorem reads_string (depth : Nat) (text : String) : Reads depth (.string text) := by
  refine reads_of_succ fun fuel rest _ _ => ?_
  have body := stringBody?_tail_quoted text rest
  rw [write]
  change (stringBody? .empty ((quoted text).tail ++ rest)).map _ = _
  rw [body]
  rfl

theorem isBlank_eq_false_of_integer {first : Char}
    (starts : first = '-' ∨ first.isDigit = true) : isBlank first = false := by
  by_contra blank
  rw [Bool.not_eq_false, isBlank] at blank
  simp only [Bool.or_eq_true, beq_iff_eq] at blank
  rcases blank with ((rfl | rfl) | rfl) | rfl <;> simp at starts

/-- Where no other value begins, a number is read. -/
theorem value?_eq_number? {first : Char} (starts : first = '-' ∨ first.isDigit = true)
    (fuel depth : Nat) (rest : List Char) :
    value? (fuel + 1) depth (first :: rest) = number? (first :: rest) := by
  rw [value?, skipBlanks_cons (isBlank_eq_false_of_integer starts)]
  split
  all_goals simp_all

/-- What a written integer begins with. -/
theorem exists_integer_eq_cons (value : Int) :
    ∃ first rest, Writer.integer value = first :: rest ∧ (first = '-' ∨ first.isDigit = true) := by
  rw [Writer.integer]
  split_ifs
  · exact ⟨_, _, rfl, .inl rfl⟩
  · cases digits : Nat.toDigits 10 value.natAbs with
    | nil => exact absurd digits Nat.toDigits_ne_nil
    | cons first rest =>
        refine ⟨first, rest, rfl, .inr ?_⟩
        exact Nat.isDigit_of_mem_toDigits (by decide) (by decide) (digits ▸ List.mem_cons_self)

theorem reads_integer (depth : Nat) {value : Int} (least : -(2 ^ 63) ≤ value)
    (greatest : value < 2 ^ 64) : Reads depth (.integer value) := by
  refine reads_of_succ fun fuel rest _ separate => ?_
  rw [write, ← number?_integer separate least greatest]
  rcases exists_integer_eq_cons value with ⟨first, others, same, starts⟩
  rw [same, List.cons_append]
  exact value?_eq_number? starts fuel depth _

/-- What a written value begins with. -/
theorem exists_write_eq_cons {depth : Nat} {json : Json} (ordinary : Ordinary depth json) :
    ∃ first others, write json = first :: others ∧ isBlank first = false ∧ first ≠ ']' := by
  cases ordinary with
  | null => exact ⟨_, _, rfl, rfl, by decide⟩
  | bool _ value => cases value <;> exact ⟨_, _, rfl, rfl, by decide⟩
  | @integer _ value _ _ =>
      rcases exists_integer_eq_cons value with ⟨first, others, same, starts⟩
      refine ⟨first, others, same, isBlank_eq_false_of_integer starts, ?_⟩
      rintro rfl
      simp at starts
  | string | array | object => exact ⟨_, _, rfl, rfl, by decide⟩

variable {depth : Nat}

/-! ## Lists and objects -/

theorem writeItems_cons_cons (item next : Json) (items : List Json) :
    writeItems (item :: next :: items) = write item ++ ',' :: writeItems (next :: items) := rfl

theorem exists_writeItems_eq_cons {item : Json} (ordinary : Ordinary depth item)
    (items : List Json) :
    ∃ first others, writeItems (item :: items) = first :: others ∧ isBlank first = false ∧
      first ≠ ']' := by
  rcases exists_write_eq_cons ordinary with ⟨first, others, same, visible, open_ne⟩
  cases items with
  | nil => exact ⟨first, others, same, visible, open_ne⟩
  | cons next items =>
      exact ⟨first, others ++ ',' :: writeItems (next :: items),
        by rw [writeItems_cons_cons, same, List.cons_append], visible, open_ne⟩

theorem items?_writeItems {items : List Json} (reads : ∀ item ∈ items, Reads depth item)
    (items_ne : items ≠ []) (read : List Json) {fuel : Nat} (rest : List Char)
    (enough : (writeItems items).length + 1 < fuel) :
    items? fuel depth read (writeItems items ++ ']' :: rest) =
      some (read.reverse ++ items, rest) := by
  induction items generalizing fuel read with
  | nil => exact absurd rfl items_ne
  | cons item items ih =>
      rcases fuel with _ | fuel
      · exact absurd enough (Nat.not_lt_zero _)
      have first := reads item List.mem_cons_self
      cases items with
      | nil =>
          rw [writeItems] at enough ⊢
          rw [items?, first fuel _ (by omega) (separate_cons (.inr (.inl rfl)))]
          simp [skipBlanks_cons (show isBlank ']' = false from rfl)]
      | cons next items =>
          rw [writeItems_cons_cons] at enough ⊢
          rw [List.length_append, List.length_cons] at enough
          rw [List.append_assoc, List.cons_append, items?,
            first fuel _ (by omega) (separate_cons (.inl rfl))]
          simp only [skipBlanks_cons (show isBlank ',' = false from rfl)]
          rw [ih (fun other member => reads other (List.mem_cons_of_mem _ member)) (by simp) _
            (by omega)]
          simp

/-- A list that is not empty is read item by item. -/
theorem value?_list {first : Char} {others : List Char} (visible : isBlank first = false)
    (open_ne : first ≠ ']') (fuel : Nat) :
    value? (fuel + 1) depth ('[' :: first :: others) =
      (items? fuel (depth - 1) [] (first :: others)).map fun (items, rest) =>
        (nested depth (.array items), rest) := by
  rw [value?, skipBlanks_cons (show isBlank '[' = false from rfl)]
  simp only
  rw [skipBlanks_cons visible]
  split
  · rename_i same
    exact absurd (List.cons.inj same).1 open_ne
  · rfl

theorem write_array_append (items : List Json) (rest : List Char) :
    write (.array items) ++ rest = '[' :: (writeItems items ++ ']' :: rest) := by
  simp [write]

theorem reads_array {items : List Json} (ordinary : ∀ item ∈ items, Ordinary depth item)
    (reads : ∀ item ∈ items, Reads depth item) : Reads (depth + 1) (.array items) := by
  refine reads_of_succ fun fuel rest enough _ => ?_
  have long := congrArg List.length (write_array_append items [])
  rw [List.append_nil, List.length_cons, List.length_append, List.length_singleton] at long
  rw [write_array_append]
  cases items with
  | nil => rfl
  | cons item items =>
      have listed := items?_writeItems reads (by simp) [] rest (show _ < fuel by omega)
      rcases exists_writeItems_eq_cons (ordinary item List.mem_cons_self) items with
        ⟨first, others, same, visible, open_ne⟩
      rw [same, List.cons_append] at listed ⊢
      rw [value?_list visible open_ne, Nat.add_sub_cancel, listed]
      rfl

theorem writeMembers_cons_cons (name : String) (value : Json) (next : String × Json)
    (members : List (String × Json)) :
    writeMembers ((name, value) :: next :: members) =
      quoted name ++ ':' :: write value ++ ',' :: writeMembers (next :: members) := rfl

theorem quoted_eq_cons (text : String) : quoted text = '"' :: (quoted text).tail := rfl

/-- A member is read up to what follows its value. -/
theorem members?_quoted {value : Json} (reads : Reads depth value) (name : String)
    (read : List (String × Json)) {fuel : Nat} {mark : Char} (rest : List Char)
    (enough : (write value).length < fuel) (follows : mark = ',' ∨ mark = '\x7d') :
    members? (fuel + 1) depth (some read) (quoted name ++ ':' :: (write value ++ mark :: rest)) =
      if mark = ',' then members? fuel depth (some ((name, value) :: read)) rest
      else some (some ((name, value) :: read).reverse, rest) := by
  have body := stringBody?_tail_quoted name (':' :: (write value ++ mark :: rest))
  have valued := reads fuel (mark :: rest) enough
    (separate_cons (follows.elim .inl fun brace => .inr (.inr brace)))
  have visible : isBlank mark = false := by rcases follows with rfl | rfl <;> rfl
  rw [quoted_eq_cons, List.cons_append, members?,
    skipBlanks_cons (show isBlank '"' = false from rfl)]
  simp only [body, skipBlanks_cons (show isBlank ':' = false from rfl), valued,
    skipBlanks_cons visible]
  rcases follows with rfl | rfl <;> rfl

theorem members?_writeMembers {members : List (String × Json)}
    (reads : ∀ member ∈ members, Reads depth member.2) (members_ne : members ≠ [])
    (read : List (String × Json)) {fuel : Nat} (rest : List Char)
    (enough : (writeMembers members).length + 1 < fuel) :
    members? fuel depth (some read) (writeMembers members ++ '\x7d' :: rest) =
      some (some (read.reverse ++ members), rest) := by
  induction members generalizing fuel read with
  | nil => exact absurd rfl members_ne
  | cons member members ih =>
      rcases member with ⟨name, value⟩
      rcases fuel with _ | fuel
      · exact absurd enough (Nat.not_lt_zero _)
      have first := reads (name, value) List.mem_cons_self
      cases members with
      | nil =>
          rw [writeMembers, List.length_append, List.length_cons] at enough
          rw [writeMembers, List.append_assoc, List.cons_append,
            members?_quoted first name read rest (by simp only; omega) (.inr rfl)]
          simp
      | cons next members =>
          rw [writeMembers_cons_cons] at enough ⊢
          simp only [List.length_append, List.length_cons] at enough
          rw [List.append_assoc, List.append_assoc, List.cons_append, List.cons_append,
            members?_quoted first name read _ (by simp only; omega) (.inl rfl), if_pos rfl,
            ih (fun other member => reads other (List.mem_cons_of_mem _ member)) (by simp) _
              (by omega)]
          simp

/-- An object that is not empty is read member by member. -/
theorem value?_members (fuel : Nat) (text : List Char) :
    value? (fuel + 1) depth ('\x7b' :: '"' :: text) =
      (members? fuel (depth - 1) (some []) ('"' :: text)).map fun (members, rest) =>
        (nested depth (members.elim .unreadable .object), rest) := rfl

theorem write_object_append (members : List (String × Json)) (rest : List Char) :
    write (.object members) ++ rest = '\x7b' :: (writeMembers members ++ '\x7d' :: rest) := by
  simp [write]

theorem exists_writeMembers_eq_cons (member : String × Json) (members : List (String × Json)) :
    ∃ others, writeMembers (member :: members) = '"' :: others := by
  cases members <;> exact ⟨_, rfl⟩

theorem reads_object {members : List (String × Json)}
    (reads : ∀ member ∈ members, Reads depth member.2) : Reads (depth + 1) (.object members) := by
  refine reads_of_succ fun fuel rest enough _ => ?_
  have long := congrArg List.length (write_object_append members [])
  rw [List.append_nil, List.length_cons, List.length_append, List.length_singleton] at long
  rw [write_object_append]
  cases members with
  | nil => rfl
  | cons member members =>
      have listed := members?_writeMembers reads (by simp) [] rest (show _ < fuel by omega)
      rcases exists_writeMembers_eq_cons member members with ⟨others, same⟩
      rw [same, List.cons_append] at listed ⊢
      rw [value?_members, Nat.add_sub_cancel, listed]
      rfl

end Reader

/-- A value is read as it was written. -/
theorem Ordinary.reads {depth : Nat} {json : Json} (ordinary : Ordinary depth json) :
    Reader.Reads depth json := by
  induction ordinary with
  | null depth => exact Reader.reads_null depth
  | bool depth value => exact Reader.reads_bool depth value
  | integer depth least greatest => exact Reader.reads_integer depth least greatest
  | string depth text => exact Reader.reads_string depth text
  | array ordinary reads => exact Reader.reads_array ordinary reads
  | object ordinary reads => exact Reader.reads_object reads

/-- The text of a value gives the value back. -/
theorem parse?_compact {json : Json} (ordinary : Ordinary Reader.greatestDepth json) :
    parse? json.compact = some json := by
  have reads := ordinary.reads ((Writer.write json).length + 1) [] (Nat.lt_succ_self _)
    Reader.separate_nil
  rw [List.append_nil] at reads
  rw [parse?, compact, String.toList_ofList, reads]
  rfl

end Json

end SwapLedger
