import SwapLedger.Json.Shape

/-!
# Execution errors

The errors that the ledger records of transactions that failed. Only whether there is one matters to
the rest of the library, but a record with an error that the ledger does not know is malformed.
-/

namespace SwapLedger

namespace ExecutionError

/-- The errors of whole transactions that carry nothing. -/
def transactionErrors : List String :=
  ["AccountInUse", "AccountLoadedTwice", "AccountNotFound", "ProgramAccountNotFound",
    "InsufficientFundsForFee", "InvalidAccountForFee", "AlreadyProcessed", "BlockhashNotFound",
    "CallChainTooDeep", "MissingSignatureForFee", "InvalidAccountIndex", "SignatureFailure",
    "InvalidProgramForExecution", "SanitizeFailure", "ClusterMaintenance",
    "AccountBorrowOutstanding", "WouldExceedMaxBlockCostLimit", "UnsupportedVersion",
    "InvalidWritableAccount", "WouldExceedMaxAccountCostLimit", "WouldExceedAccountDataBlockLimit",
    "TooManyAccountLocks", "AddressLookupTableNotFound", "InvalidAddressLookupTableOwner",
    "InvalidAddressLookupTableData", "InvalidAddressLookupTableIndex", "InvalidRentPayingAccount",
    "WouldExceedMaxVoteCostLimit", "WouldExceedAccountDataTotalLimit",
    "MaxLoadedAccountsDataSizeExceeded", "InvalidLoadedAccountsDataSizeLimit",
    "ResanitizationNeeded", "UnbalancedTransaction", "ProgramCacheHitMaxLimit", "CommitCancelled"]

/-- The errors of single instructions that carry nothing. -/
def instructionErrors : List String :=
  ["GenericError", "InvalidArgument", "InvalidInstructionData", "InvalidAccountData",
    "AccountDataTooSmall", "InsufficientFunds", "IncorrectProgramId", "MissingRequiredSignature",
    "AccountAlreadyInitialized", "UninitializedAccount", "UnbalancedInstruction",
    "ModifiedProgramId", "ExternalAccountLamportSpend", "ExternalAccountDataModified",
    "ReadonlyLamportChange", "ReadonlyDataModified", "DuplicateAccountIndex", "ExecutableModified",
    "RentEpochModified", "NotEnoughAccountKeys", "AccountDataSizeChanged", "AccountNotExecutable",
    "AccountBorrowFailed", "AccountBorrowOutstanding", "DuplicateAccountOutOfSync", "InvalidError",
    "ExecutableDataModified", "ExecutableLamportChange", "ExecutableAccountNotRentExempt",
    "UnsupportedProgramId", "CallDepth", "MissingAccount", "ReentrancyNotAllowed",
    "MaxSeedLengthExceeded", "InvalidSeeds", "InvalidRealloc", "ComputationalBudgetExceeded",
    "PrivilegeEscalation", "ProgramEnvironmentSetupFailure", "ProgramFailedToComplete",
    "ProgramFailedToCompile", "Immutable", "IncorrectAuthority", "BorshIoError",
    "AccountNotRentExempt", "InvalidAccountOwner", "ArithmeticOverflow", "UnsupportedSysvar",
    "IllegalOwner", "MaxAccountsDataAllocationsExceeded", "MaxAccountsExceeded",
    "MaxInstructionTraceLengthExceeded", "BuiltinProgramsMustConsumeComputeUnits"]

/-- Whether a value is neither a list nor an object, readable or not. -/
def isSimple : Json → Bool
  | .array _ | .object _ | .unreadable => false
  | _ => true

variable (source : Json.Source)

/-- Reads an error of an instruction. What comes with a failed serialization is passed over; in a
text it has to be simple for that. -/
def instructionError? (json : Json) : Option Unit := do
  match ← json.case? with
  | ("Custom", some code) => (code.u32?).map fun _ => ()
  | ("BorshIoError", some reason) =>
    if source ≠ .text ∨ isSimple reason then some () else none
  | _ => if instructionErrors.contains (← json.caseNameFrom? source) then some () else none

/-- Reads the number of an account. Only in a value it may not be a list of fields. -/
def accountIndex? (json : Json) : Option Unit := do
  let fields ← json.fields? ["account_index"]
  if source = .value ∧ fields.positional then none
  else (fields.required "account_index" Json.u8?).map fun _ => ()

/-- Reads an error of a transaction. -/
def ofJson? (json : Json) : Option Unit := do
  match ← json.case? with
  | ("InstructionError", some (.array [index, error])) =>
    let _ ← index.u8?
    instructionError? source error
  | ("DuplicateInstruction", some index) => (index.u8?).map fun _ => ()
  | ("InsufficientFundsForRent", some content) => accountIndex? source content
  | ("ProgramExecutionTemporarilyRestricted", some content) => accountIndex? source content
  | _ => if transactionErrors.contains (← json.caseNameFrom? source) then some () else none

/-- Reads how a transaction ended. -/
def outcome? (json : Json) : Option Unit := do
  match ← json.case? with
  | ("Ok", some content) => if source.isNothing content then some () else none
  | ("Err", some error) => ofJson? source error
  | _ => none

end ExecutionError

end SwapLedger
