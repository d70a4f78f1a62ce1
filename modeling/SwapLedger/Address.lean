import SwapLedger.Base58

/-!
# Addresses

An account of the ledger is named by the base 58 text of its public key. Texts are compared as they
stand. The addresses that this library knows by heart are the ledger's own programs and the assets
that prices are quoted in.
-/

namespace SwapLedger

/-- The name of an account, program or token. -/
abbrev Address := String

namespace Address

/-- The address of a 32-byte public key. -/
def ofBytes (key : Bytes) : Address := Base58.encode key

/-- The program that moves the native currency. -/
def systemProgram : Address := "11111111111111111111111111111111"

/-- The program that moves tokens. -/
def tokenProgram : Address := "TokenkegQfeZyiNwAJbNbGKPFXCWuBvf9Ss623VQ5DA"

/-- The second edition of the program that moves tokens. -/
def tokenProgram2022 : Address := "TokenzQdBNbLqP5VEhdkAS6EPFLC1PHnBqCXEpPxuEb"

/-- The program that creates each wallet's standard token accounts. -/
def associatedTokenProgram : Address := "ATokenGPvbdGVxr1b2hvZbsiqW5xWH25efTNsLJA8knL"

/-- The native currency in its form as a token. -/
def wrappedNative : Address := "So11111111111111111111111111111111111111112"

/-- The dollar tokens that prices are quoted in. -/
def dollarTokens : List Address :=
  ["EPjFWdd5AufqSSqeM2qN1xzybapC8G4wEGGkZwyTDt1v", "Es9vMFrzaCERmJfrF4H2FYD4KCoNkY11McCe8BenwNYB"]

/-- Whether swaps are priced in this asset. The native currency itself has the empty address. -/
def isQuoteAsset (mint : Address) : Bool :=
  mint == "" || mint == wrappedNative || dollarTokens.contains mint

/-- Whether this is one of the two token programs. -/
def isTokenProgram (program : Address) : Bool :=
  program == tokenProgram || program == tokenProgram2022

end Address

end SwapLedger
