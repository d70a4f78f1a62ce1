import SwapLedger.Transaction

/-!
# Balance changes

How much each account gained, from the balances before and after a transaction. A token account
needs a balance afterwards to have a change; where it had none before, it counts as empty. Where an
account is listed more than once afterwards, the last readable entry stands; before, the first.
-/

namespace SwapLedger

/-- The change of one token account. -/
structure TokenChange where
  mint : Address
  /-- The wallet that owns the account, empty where the node does not tell. -/
  owner : Address
  decimals : UInt8
  /-- The amount afterwards less the amount before, in smallest units, as a signed 128-bit word. -/
  delta : Int
  deriving DecidableEq

namespace TokenBalance

/-- An amount as the node writes it: digits, perhaps behind a plus sign, below `2 ^ 128`. -/
def units? (text : String) : Option Nat :=
  let digits := match text.toList with
    | '+' :: digits => digits
    | digits => digits
  if digits ≠ [] ∧ digits.all Char.isDigit then
    let value := digits.foldl (fun total digit => total * 10 + (digit.toNat - '0'.toNat)) 0
    if value < 1 <<< 128 then some value else none
  else none

/-- A number as a signed 128-bit word, which starts over after the greatest. -/
def signed (value : Int) : Int := value.bmod (1 <<< 128)

end TokenBalance

namespace Transaction

variable (transaction : Transaction)

/-- The readable balances of a token account afterwards. -/
def balancesAfter (account : UInt8) : List (TokenBalance × Nat) :=
  transaction.postTokenBalances.filterMap fun balance =>
    if balance.account = account then (TokenBalance.units? balance.amount).map (balance, ·) else none

/-- What a token account held before; nothing, if that is not told. -/
def unitsBefore (account : UInt8) : Nat :=
  match transaction.preTokenBalances.find? fun balance => balance.account == account with
  | none => 0
  | some balance => (TokenBalance.units? balance.amount).getD 0

/-- The change of the token account with a number. -/
def tokenChange? (account : UInt8) : Option TokenChange :=
  (transaction.balancesAfter account).getLast?.map fun (balance, units) =>
    ⟨balance.mint, balance.owner, balance.decimals,
      TokenBalance.signed (units - transaction.unitsBefore account)⟩

/-- The change in the native currency of the account with a number, where both balances are told. -/
def nativeChange? (account : UInt8) : Option Int := do
  let before ← transaction.preBalances[account.toNat]?
  let after ← transaction.postBalances[account.toNat]?
  return after.toNat - before.toNat

end Transaction

end SwapLedger
