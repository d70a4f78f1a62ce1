import Mathlib.Data.List.Induction
import Mathlib.Logic.Function.Basic
import SwapLedger.Proofs.OwnerResolution

/-!
# Tables of balance changes

The changes of balances are looked up account by account. They can as well be put into a table, one
balance after the other, and nothing is asked of the balances for that: an account may be listed
more than once, an amount may be no number, the lists before and after may differ in length, and
they may be longer than there are numbers for accounts. Of the balances of a token account
afterwards the last one that can be read counts, and of those before the first one, even where it
cannot be read.
-/

namespace SwapLedger

/-! ## Entering one value after the other -/

/-- Values for some accounts, by the numbers of the accounts. -/
abbrev BalanceTable (α : Type) := UInt8 → Option α

namespace BalanceTable

variable {α : Type}

/-- Enters a value under a number, in place of what stood there. -/
def enter (table : BalanceTable α) (entry : UInt8 × α) : BalanceTable α :=
  Function.update table entry.1 (some entry.2)

/-- The table that entering one value after the other leaves. -/
def ofEntries (entries : List (UInt8 × α)) : BalanceTable α := entries.foldl enter fun _ => none

/-- The values by their places. Those beyond the last number of an account are left out. -/
def numbered (values : List α) : List (UInt8 × α) :=
  values.zipIdx.filterMap fun (value, place) =>
    if place < UInt8.size then some (UInt8.ofNat place, value) else none

theorem ofEntries_concat (entries : List (UInt8 × α)) (entry : UInt8 × α) :
    ofEntries (entries ++ [entry]) = (ofEntries entries).enter entry :=
  List.foldl_concat ..

/-- What was entered last under a number stands there. -/
theorem ofEntries_apply (entries : List (UInt8 × α)) (account : UInt8) :
    ofEntries entries account = (entries.filterMap fun entry =>
      if entry.1 = account then some entry.2 else none).getLast? := by
  induction entries using List.reverseRecOn with
  | nil => rfl
  | append_singleton earlier entry ih =>
      rw [ofEntries_concat, List.filterMap_append, List.getLast?_append, ← ih, enter]
      by_cases same : entry.1 = account
      · subst same
        simp
      · rw [Function.update_of_ne (Ne.symm same)]
        simp [same]

theorem numbered_concat (values : List α) (value : α) :
    numbered (values ++ [value]) = numbered values ++
      if values.length < UInt8.size then [(UInt8.ofNat values.length, value)] else [] := by
  by_cases fits : values.length < UInt8.size <;>
    simp [numbered, List.zipIdx_append, fits]

/-- Each number has the value at its place. A value beyond the last number does not come back to
an early one. -/
theorem ofEntries_numbered (values : List α) (account : UInt8) :
    ofEntries (numbered values) account = values[account.toNat]? := by
  have bounded := account.toNat_lt
  induction values using List.reverseRecOn with
  | nil => rfl
  | append_singleton earlier value ih =>
      rw [numbered_concat]
      by_cases fits : earlier.length < UInt8.size
      · rw [if_pos fits, ofEntries_concat, enter]
        by_cases same : account.toNat = earlier.length
        · have named : UInt8.ofNat earlier.length = account := by rw [← same, UInt8.ofNat_toNat]
          simp [named, same]
        · have other : account ≠ UInt8.ofNat earlier.length := by
            rintro rfl
            exact same (UInt8.toNat_ofNat_of_lt' fits)
          rw [Function.update_of_ne other, ih]
          rcases Nat.lt_or_gt_of_ne same with inside | beyond
          · rw [List.getElem?_append_left inside]
          · rw [List.getElem?_eq_none (by omega), List.getElem?_eq_none (by simp; omega)]
      · rw [if_neg fits, List.append_nil, ih, List.getElem?_append_left]
        simp only [UInt8.size] at fits
        omega

end BalanceTable

/-! ## Amounts -/

namespace TokenBalance

/-- Whether a text is an amount: decimal digits, the most significant one first, perhaps behind a
plus sign, that make a number below `2 ^ 128`. -/
def Spells (text : String) (units : Nat) : Prop :=
  ∃ digits : List Nat, digits ≠ [] ∧ (∀ digit ∈ digits, digit < 10) ∧
    (text.toList = digits.map Nat.digitChar ∨ text.toList = '+' :: digits.map Nat.digitChar) ∧
    Nat.ofDigits 10 digits.reverse = units ∧ units < 2 ^ 128

/-- Whether a balance tells that a token account holds so many units. -/
def Tells (balance : TokenBalance) (account : UInt8) (units : Nat) : Prop :=
  balance.account = account ∧ Spells balance.amount units

theorem digitChar_of_isDigit {digit : Char} (decimal : digit.isDigit) :
    Nat.digitChar (digit.toNat - '0'.toNat) = digit := by
  have bounds := Char.isDigit_iff_toNat.mp decimal
  simp only [Char.reduceToNat] at bounds ⊢
  rw [← Char.toNat_inj, Nat.toNat_digitChar_of_lt_ten (by omega)]
  omega

theorem all_isDigit_iff {text : List Char} : text.all Char.isDigit = true ↔
    ∃ digits : List Nat, (∀ digit ∈ digits, digit < 10) ∧ text = digits.map Nat.digitChar := by
  rw [List.all_eq_true]
  constructor
  · intro decimal
    refine ⟨text.map (·.toNat - '0'.toNat), ?_, ?_⟩
    · rintro _ member
      rcases List.mem_map.mp member with ⟨digit, listed, rfl⟩
      have bounds := Char.isDigit_iff_toNat.mp (decimal digit listed)
      simp only [Char.reduceToNat] at bounds ⊢
      omega
    · rw [List.map_map, List.map_congr_left (g := id), List.map_id]
      intro digit member
      exact digitChar_of_isDigit (decimal digit member)
  · rintro ⟨digits, small, rfl⟩ _ member
    rcases List.mem_map.mp member with ⟨digit, listed, rfl⟩
    rw [Nat.isDigit_digitChar, decide_eq_true (small digit listed)]

theorem foldl_map_digitChar {digits : List Nat} (small : ∀ digit ∈ digits, digit < 10) :
    (digits.map Nat.digitChar).foldl (fun total digit => total * 10 + (digit.toNat - '0'.toNat)) 0 =
      Nat.ofDigits 10 digits.reverse := by
  rw [← Base58.foldl_reverse_eq_ofDigits, List.reverse_reverse, List.foldl_map]
  refine List.foldl_ext _ _ _ fun total digit member => ?_
  rw [Nat.toNat_digitChar_of_lt_ten (small digit member)]
  simp

/-- No digit is a plus sign, so what is left of a text behind its sign tells the text. -/
theorem unsigned_eq_iff {text : List Char} {digits : List Nat}
    (small : ∀ digit ∈ digits, digit < 10) :
    (match text with
      | '+' :: rest => rest
      | rest => rest) = digits.map Nat.digitChar ↔
      text = digits.map Nat.digitChar ∨ text = '+' :: digits.map Nat.digitChar := by
  split
  · next rest =>
      have signed : '+' :: rest ≠ digits.map Nat.digitChar := by
        intro same
        have decimal := all_isDigit_iff.mpr ⟨digits, small, same⟩
        simp at decimal
      simp [signed]
  · next unsigned =>
      have signed : text ≠ '+' :: digits.map Nat.digitChar := unsigned _
      simp [signed]

theorem units?_eq_some_iff {text : String} {units : Nat} :
    units? text = some units ↔ Spells text units := by
  unfold units?
  extract_lets unsigned value
  have value_eq {digits : List Nat} (small : ∀ digit ∈ digits, digit < 10)
      (spelled : unsigned = digits.map Nat.digitChar) : value = Nat.ofDigits 10 digits.reverse := by
    rw [← foldl_map_digitChar small, ← spelled]
  constructor
  · intro reads
    split_ifs at reads with decimal fits
    rcases all_isDigit_iff.mp decimal.2 with ⟨digits, small, spelled⟩
    rw [value_eq small spelled, Nat.one_shiftLeft] at fits
    rw [value_eq small spelled, Option.some.injEq] at reads
    refine ⟨digits, ?_, small, (unsigned_eq_iff small).mp spelled, reads, reads ▸ fits⟩
    rintro rfl
    exact decimal.1 spelled
  · rintro ⟨digits, filled, small, spelled, rfl, fits⟩
    have same : unsigned = digits.map Nat.digitChar := (unsigned_eq_iff small).mpr spelled
    have decimal : unsigned ≠ [] ∧ unsigned.all Char.isDigit = true :=
      ⟨by simpa [same] using filled, all_isDigit_iff.mpr ⟨digits, small, same⟩⟩
    rw [if_pos decimal, value_eq small same, if_pos (by rwa [Nat.one_shiftLeft])]

theorem exists_tells_iff_isReadable {balance : TokenBalance} {account : UInt8} :
    (∃ units, balance.Tells account units) ↔ balance.account = account ∧ balance.IsReadable := by
  simp [Tells, IsReadable, Option.isSome_iff_exists, units?_eq_some_iff]

/-- A number that fits in a signed word is read back from it. -/
theorem signed_of_lt {value : Int} (least : -2 ^ 127 ≤ value) (greatest : value < 2 ^ 127) :
    signed value = value := by
  have word : (1 <<< 128 : Nat) = 2 * 2 ^ 127 := rfl
  refine Int.bmod_eq_of_le_mul_two ?_ ?_
  · rw [word]
    omega
  · rw [word]
    omega

end TokenBalance

/-! ## Token accounts -/

namespace Transaction

variable (transaction : Transaction)

/-- What a balance afterwards enters, if its amount can be read: the change of its account. -/
def entered? (balance : TokenBalance) : Option (UInt8 × TokenChange) :=
  (TokenBalance.units? balance.amount).map fun units =>
    (balance.account, ⟨balance.mint, balance.owner, balance.decimals,
      TokenBalance.signed (units - transaction.unitsBefore balance.account)⟩)

/-- The changes of all token accounts, as the balances afterwards are entered in their order. -/
def tokenChanges : BalanceTable TokenChange :=
  .ofEntries (transaction.postTokenBalances.filterMap transaction.entered?)

/-- What a token account held before, as far as it is told. The first balance that names the account
counts, and with an amount that cannot be read it counts as nothing. -/
inductive HeldBefore (account : UInt8) : Nat → Prop where
  | told {balance : TokenBalance} {units : Nat}
      (first : IsFirst transaction.preTokenBalances (fun other => other.account = account) balance)
      (tells : balance.Tells account units) : HeldBefore account units
  | unreadable {balance : TokenBalance}
      (first : IsFirst transaction.preTokenBalances (fun other => other.account = account) balance)
      (untold : ∀ units, ¬balance.Tells account units) : HeldBefore account 0
  | unlisted (absent : ∀ balance ∈ transaction.preTokenBalances, balance.account ≠ account) :
      HeldBefore account 0

/-- What the change of a token account comes from: the last balance afterwards that can be read, the
amount in it, and what was held before. -/
structure ChangesBy (account : UInt8) (balance : TokenBalance) (after before : Nat) : Prop where
  last : IsLast transaction.postTokenBalances (fun other => ∃ units, other.Tells account units)
    balance
  tells : balance.Tells account after
  held : transaction.HeldBefore account before

/-- The table of changes holds for each account the change that is looked up for it. Both keep the
last of the same changes, so that they can be compared balance by balance. -/
theorem tokenChanges_apply (account : UInt8) :
    transaction.tokenChanges account = transaction.tokenChange? account := by
  rw [tokenChanges, BalanceTable.ofEntries_apply, List.filterMap_filterMap, tokenChange?,
    ← List.getLast?_map, balancesAfter, List.map_filterMap]
  congr 2
  funext balance
  cases read : TokenBalance.units? balance.amount with
  | none => simp [entered?, read]
  | some units =>
      by_cases same : balance.account = account <;> simp [entered?, read, same]

theorem heldBefore_unitsBefore (account : UInt8) :
    transaction.HeldBefore account (transaction.unitsBefore account) := by
  unfold unitsBefore
  split
  · next absent =>
      refine .unlisted fun balance member => ?_
      simpa using List.find?_eq_none.mp absent balance member
  · next balance found =>
      have first : IsFirst transaction.preTokenBalances
          (fun other => other.account = account) balance := by
        simpa using isFirst_iff_find?.mpr found
      cases read : TokenBalance.units? balance.amount with
      | none =>
          refine .unreadable first fun units tells => ?_
          rw [TokenBalance.units?_eq_some_iff.mpr tells.2] at read
          contradiction
      | some units => exact .told first ⟨first.property, TokenBalance.units?_eq_some_iff.mp read⟩

theorem lastBalance_iff {account : UInt8} {balance : TokenBalance} :
    transaction.LastBalance account balance ↔
      IsLast transaction.postTokenBalances (fun other => ∃ units, other.Tells account units)
        balance := by
  simp only [LastBalance, TokenBalance.exists_tells_iff_isReadable]

theorem changesBy_of_tokenChange? {account : UInt8} {change : TokenChange}
    (changed : transaction.tokenChange? account = some change) :
    ∃ balance after before, transaction.ChangesBy account balance after before ∧
      change = ⟨balance.mint, balance.owner, balance.decimals,
        TokenBalance.signed (after - before)⟩ := by
  rw [tokenChange?, Option.map_eq_some_iff] at changed
  rcases changed with ⟨⟨balance, after⟩, found, rfl⟩
  rcases getLast?_balancesAfter_eq_some_iff.mp found with ⟨last, read⟩
  refine ⟨balance, after, transaction.unitsBefore account, ⟨?_, ?_, ?_⟩, rfl⟩
  · exact transaction.lastBalance_iff.mp last
  · exact ⟨last.property.1, TokenBalance.units?_eq_some_iff.mp read⟩
  · exact transaction.heldBefore_unitsBefore account

/-- There is a last balance that can be read just if there is any. -/
theorem exists_tokenChange?_iff (account : UInt8) :
    (∃ change, transaction.tokenChange? account = some change) ↔
      ∃ balance ∈ transaction.postTokenBalances, ∃ units, balance.Tells account units := by
  constructor
  · rintro ⟨change, changed⟩
    rcases transaction.changesBy_of_tokenChange? changed with ⟨balance, after, _, changesBy, _⟩
    rcases changesBy.last with ⟨earlier, later, listed, _, _⟩
    exact ⟨balance, by simp [listed], after, changesBy.tells⟩
  · rintro ⟨balance, member, tells⟩
    have told : ∃ last, IsFirst transaction.postTokenBalances.reverse
        (fun other => ∃ units, other.Tells account units) last :=
      exists_isFirst (List.mem_reverse.mpr member) tells
    rcases told with ⟨last, first⟩
    have isLast := transaction.lastBalance_iff.mpr (isLast_iff_isFirst_reverse.mpr first)
    rcases transaction.tokenChange?_cases account with ⟨_, none⟩ | ⟨change, _, changed, _⟩
    · exact absurd isLast (none last)
    · exact ⟨change, changed⟩

/-! ## The native currency -/

/-- The changes of all accounts in the native currency, by their places in the two lists. -/
def nativeChanges : BalanceTable Int :=
  .ofEntries <| BalanceTable.numbered <| List.zipWith
    (fun before after : UInt64 => (after.toNat : Int) - before.toNat)
    transaction.preBalances transaction.postBalances

theorem nativeChanges_apply (account : UInt8) :
    transaction.nativeChanges account = transaction.nativeChange? account := by
  rw [nativeChanges, BalanceTable.ofEntries_numbered, List.getElem?_zipWith, nativeChange?]
  cases transaction.preBalances[account.toNat]? <;>
    cases transaction.postBalances[account.toNat]? <;> rfl

theorem nativeChange?_eq_some_iff {account : UInt8} {delta : Int} :
    transaction.nativeChange? account = some delta ↔
      ∃ (_ : account.toNat < transaction.preBalances.length)
        (_ : account.toNat < transaction.postBalances.length),
        delta = (transaction.postBalances[account.toNat].toNat : Int) -
          transaction.preBalances[account.toNat].toNat := by
  unfold nativeChange?
  simp only [Option.bind_eq_bind, Option.bind_eq_some_iff, List.getElem?_eq_some_iff]
  constructor
  · rintro ⟨before, ⟨inBefore, rfl⟩, after, ⟨inAfter, rfl⟩, same⟩
    exact ⟨inBefore, inAfter, (Option.some.inj same).symm⟩
  · rintro ⟨inBefore, inAfter, rfl⟩
    exact ⟨_, ⟨inBefore, rfl⟩, _, ⟨inAfter, rfl⟩, rfl⟩

/-! ## All changes -/

/-- Whatever balances are listed, the changes are well defined, and putting them into tables gives
the same ones as looking them up. A token account has a change just if some balance afterwards tells
what it holds. The last such balance gives the mint, the owner and the decimals, and its amount less
what was held before is the change, as long as both amounts fit in 127 bits. An account has a change
in the native currency just if its number is a place in both lists, and it is exact. -/
theorem changes_exact (transaction : Transaction) (account : UInt8) :
    transaction.tokenChanges account = transaction.tokenChange? account ∧
      transaction.nativeChanges account = transaction.nativeChange? account ∧
      ((∃ change, transaction.tokenChange? account = some change) ↔
        ∃ balance ∈ transaction.postTokenBalances, ∃ units, balance.Tells account units) ∧
      (∀ change, transaction.tokenChange? account = some change →
        ∃ balance after before, transaction.ChangesBy account balance after before ∧
          change.mint = balance.mint ∧ change.owner = balance.owner ∧
          change.decimals = balance.decimals ∧
          (after < 2 ^ 127 → before < 2 ^ 127 → change.delta = (after : Int) - before)) ∧
      ∀ delta, transaction.nativeChange? account = some delta ↔
        ∃ (_ : account.toNat < transaction.preBalances.length)
          (_ : account.toNat < transaction.postBalances.length),
          delta = (transaction.postBalances[account.toNat].toNat : Int) -
            transaction.preBalances[account.toNat].toNat := by
  refine ⟨transaction.tokenChanges_apply account, transaction.nativeChanges_apply account,
    transaction.exists_tokenChange?_iff account, ?_,
    fun delta => transaction.nativeChange?_eq_some_iff⟩
  intro change changed
  rcases transaction.changesBy_of_tokenChange? changed with ⟨balance, after, before, changesBy, rfl⟩
  refine ⟨balance, after, before, changesBy, rfl, rfl, rfl, fun afterFits beforeFits => ?_⟩
  exact TokenBalance.signed_of_lt (by omega) (by omega)

/-- Three balances afterwards of one account, the last of which cannot be read, and two before, of
which the first cannot. The native balances of more accounts than there are numbers. -/
def relisted : Transaction where
  signature := "relisted"
  accountKeys := []
  loadedWritable := []
  loadedReadonly := []
  instructions := []
  innerGroups := []
  preBalances := List.replicate 300 1
  postBalances := (List.range 258).map UInt64.ofNat
  preTokenBalances := [⟨2, "Coin", "Owner", "many", 6⟩, ⟨2, "Coin", "Owner", "10", 6⟩]
  postTokenBalances := [⟨2, "Coin", "Owner", "25", 6⟩, ⟨2, "Token", "Heir", "+030", 9⟩,
    ⟨2, "Coin", "Owner", "-1", 6⟩, ⟨3, "Coin", "Owner", "", 6⟩]

/-- The second of the three balances counts, and nothing before it. The balances at the places 256
and 257 do not take the place of those at 0 and 1. -/
theorem changes_exact_relisted :
    relisted.tokenChanges 2 = some ⟨"Token", "Heir", 9, 30⟩ ∧ relisted.tokenChanges 3 = none ∧
      relisted.nativeChanges 0 = some (-1) ∧ relisted.nativeChanges 255 = some 254 := by
  refine ⟨(changes_exact relisted 2).1.trans ?_, (changes_exact relisted 3).1.trans ?_,
    (changes_exact relisted 0).2.1.trans ?_, (changes_exact relisted 255).2.1.trans ?_⟩
  all_goals decide +kernel

end Transaction

end SwapLedger
