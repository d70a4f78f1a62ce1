import SwapLedger.Json.Basic
import SwapLedger.Payload

/-!
# Decoded instruction data as JSON
-/

namespace SwapLedger

namespace Payload

/-- What data mean, as an object that names the family, the kind and its fields. -/
def toJson : Payload → Json
  | .foreign => .object [("family", .string "none")]
  | .system instruction =>
    let kind (name : String) (fields : List (String × Json)) : Json :=
      .object ([("family", .string "system"), ("kind", .string name)] ++ fields)
    match instruction with
    | .createAccount lamports space owner => kind "CreateAccount"
        [("lamports", .ofNat lamports.toNat), ("space", .ofNat space.toNat), ("owner", .string owner)]
    | .assign owner => kind "Assign" [("owner", .string owner)]
    | .transfer lamports => kind "Transfer" [("lamports", .ofNat lamports.toNat)]
    | .allocate space => kind "Allocate" [("space", .ofNat space.toNat)]
    | .unrecognized tag => kind "Unrecognized" [("discriminator", .ofOption (fun tag => .ofNat tag.toNat) tag)]
  | .token instruction =>
    let kind (name : String) (fields : List (String × Json)) : Json :=
      .object ([("family", .string "token"), ("kind", .string name),
        ("initializes_account", .bool instruction.initializesAccount)] ++ fields)
    let amounts (amount : UInt64) := [("amount", .ofNat amount.toNat)]
    let checked (amount : UInt64) (decimals : UInt8) :=
      [("amount", .ofNat amount.toNat), ("decimals", .ofNat decimals.toNat)]
    match instruction with
    | .initializeMint decimals authority => kind "InitializeMint"
        [("decimals", .ofNat decimals.toNat), ("mint_authority", .string authority)]
    | .initializeAccount => kind "InitializeAccount" []
    | .initializeAccount2 owner => kind "InitializeAccount2" [("owner", .string owner)]
    | .initializeAccount3 owner => kind "InitializeAccount3" [("owner", .string owner)]
    | .transfer amount => kind "Transfer" (amounts amount)
    | .transferChecked amount decimals => kind "TransferChecked" (checked amount decimals)
    | .mintTo amount => kind "MintTo" (amounts amount)
    | .mintToChecked amount decimals => kind "MintToChecked" (checked amount decimals)
    | .burn amount => kind "Burn" (amounts amount)
    | .burnChecked amount decimals => kind "BurnChecked" (checked amount decimals)
    | .setAuthority type authority => kind "SetAuthority"
        [("authority_type", .ofNat type.toNat), ("new_authority", Json.ofOption .string authority)]
    | .unrecognized tag => kind "Unrecognized" [("discriminator", .ofOption (fun tag => .ofNat tag.toNat) tag)]
  | .associatedToken instruction =>
    let kind (name : String) (fields : List (String × Json)) : Json :=
      .object ([("family", .string "associated_token"), ("kind", .string name),
        ("creates_account", .bool instruction.createsAccount)] ++ fields)
    match instruction with
    | .create => kind "Create" []
    | .createIdempotent => kind "CreateIdempotent" []
    | .recoverNested => kind "RecoverNested" []
    | .unrecognized tag => kind "Unrecognized" [("discriminator", .ofNat tag.toNat)]

end Payload

end SwapLedger
