import SwapLedger.Instruction

/-!
# Exchange protocols

The exchanges whose swaps are recognised: the program each one runs as, the label under which its
swaps are recorded, and the shape of account list that its swap instructions have.
-/

namespace SwapLedger

/-- A supported exchange. -/
inductive Protocol where
  | orca
  | raydiumV4
  | raydiumClmm
  | raydiumCpmm
  | phoenix
  | lifinity
  | fluxbeam
  | meteoraDlmm
  | meteoraPools
  | pumpFun
  | pumpFunAmm
  deriving DecidableEq

namespace Protocol

/-- All supported exchanges. -/
def all : List Protocol :=
  [.orca, .raydiumV4, .raydiumClmm, .raydiumCpmm, .phoenix, .lifinity, .fluxbeam, .meteoraDlmm,
    .meteoraPools, .pumpFun, .pumpFunAmm]

/-- The program of the exchange. -/
def program : Protocol → Address
  | .orca => "whirLbMiicVdio4qvUfM5KAg6Ct8VwpYzGff3uctyCc"
  | .raydiumV4 => "675kPX9MHTjS2zt1qfr1NYHuzeLXfQM9H24wFSUt1Mp8"
  | .raydiumClmm => "CAMMCzo5YL8w4VFF8KVHrK22GGUsp5VTaW7grrKgrWqK"
  | .raydiumCpmm => "CPMMoo8L3F4NbTegBCKVNunggL7H1ZpdTHKxQB5qKP1C"
  | .phoenix => "PhoeNiXZ8ByJGLkxNfZRnkUfjvmuYqLR89jjFHGqdXY"
  | .lifinity => "2wT8Yq49kHgDzXuPxZSaeLaH1qbmGXtEyPy64bL7aD3c"
  | .fluxbeam => "FLUXubRmkEi2q6K3Y9kBPg9248ggaZVsoSFhtJHSrm1X"
  | .meteoraDlmm => "LBUZKhRxPF3XUpBCjp4YzTKgLccjZhTSDM9YuVaPwxo"
  | .meteoraPools => "Eo7WjKq67rjJQSZxS6z3YkapzY3eMj6Xy8X5EQVn5UaB"
  | .pumpFun => "6EF8rrecthR5Dkzon8Nwu78hRvfCKubJ14M5uBEwF6P"
  | .pumpFunAmm => "pAMMBay6oceH9fJKBRHGP5D4bD4sWpmSwMn52FMfXEA"

/-- The label under which swaps are recorded. -/
def label : Protocol → String
  | .orca => "orca"
  | .raydiumV4 => "raydium_v4"
  | .raydiumClmm => "raydium_clmm"
  | .raydiumCpmm => "raydium_cpmm"
  | .phoenix => "phoenix"
  | .lifinity => "lifinity"
  | .fluxbeam => "fluxbeam"
  | .meteoraDlmm => "meteora_dlmm"
  | .meteoraPools => "meteora_pools"
  | .pumpFun => "pumpfun"
  | .pumpFunAmm => "pumpfun_amm"

/-- The name of the exchange in JSON. -/
def jsonName : Protocol → String
  | .pumpFun => "pump_fun"
  | .pumpFunAmm => "pump_fun_amm"
  | protocol => protocol.label

/-- The exchange with a label. -/
def ofLabel? (label : String) : Option Protocol := all.find? fun protocol => protocol.label == label

/-- The exchange that runs as a program. -/
def ofProgram? (program : Address) : Option Protocol :=
  all.find? fun protocol => protocol.program == program

end Protocol

/-- The shape of account list that swap instructions have. -/
structure Gate where
  /-- How many accounts there may be; any number, if none is listed. -/
  counts : List Nat
  /-- What the first account has to be, if that matters. -/
  firstAccount : Option Address
  deriving DecidableEq

namespace Gate

/-- The gate that lets everything through. -/
def opened : Gate := ⟨[], none⟩

/-- Whether an instruction has the shape. -/
def permits (gate : Gate) (table : AccountTable) (instruction : Instruction) : Bool :=
  (gate.counts.isEmpty || gate.counts.contains instruction.accounts.length) &&
    match gate.firstAccount with
    | none => true
    | some expected => instruction.account? table 0 == some expected

end Gate

/-- The gate of an exchange. -/
def Protocol.gate : Protocol → Gate
  | .raydiumV4 => ⟨[17, 18], some Address.tokenProgram⟩
  | .pumpFunAmm => ⟨[17, 18, 19, 21, 23], none⟩
  | .raydiumCpmm => ⟨[13], none⟩
  | _ => .opened

end SwapLedger
