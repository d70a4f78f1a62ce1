import SwapLedger.Payload
import SwapLedger.Proofs.Base58Texts

/-!
# Layouts of payloads

What a payload looks like that asks for an instruction: a tag, and the fields behind it at fixed
offsets. Such a payload is read back exactly, whatever follows it. A payload that is cut off behind
its tag still asks for an instruction of the same kind, and of each field it tells either all or
nothing.
-/

namespace SwapLedger

/-! ## Fields -/

namespace Bytes

variable {bytes part rest field : Bytes} {offset width : Nat}

/-- A slice is what stands at its offset, if all of it is there. -/
theorem slice?_eq_some_iff : bytes.slice? offset width = some field ↔
    (bytes.drop offset).take width = field ∧ field.length = width := by
  rw [slice?]
  constructor
  · intro found
    split_ifs at found with fits
    rw [Option.some.injEq] at found
    subst found
    exact ⟨rfl, fits⟩
  · rintro ⟨rfl, fits⟩
    rw [if_pos fits]

/-- The slice at the start is what the bytes start with. -/
theorem slice?_append_left (fits : field.length = width) :
    (field ++ rest).slice? 0 width = some field := by
  rw [slice?_eq_some_iff, List.drop_zero, ← fits, List.take_left]
  exact ⟨rfl, rfl⟩

/-- A slice behind a front part is one of the rest. -/
theorem slice?_append_right {before : Bytes} (skips : before.length ≤ offset) :
    (before ++ rest).slice? offset width = rest.slice? (offset - before.length) width := by
  rw [slice?, slice?, List.drop_append, List.drop_eq_nil_of_le skips, List.nil_append]

@[simp]
theorem slice?_cons_succ (byte : UInt8) :
    slice? (byte :: rest) (offset + 1) width = rest.slice? offset width := rfl

@[simp]
theorem length_ofUInt32 (word : UInt32) : (ofUInt32 word).length = 4 :=
  length_ofNatLittleEndian 4 word.toNat

@[simp]
theorem length_ofUInt64 (word : UInt64) : (ofUInt64 word).length = 8 :=
  length_ofNatLittleEndian 8 word.toNat

theorem toNatLittleEndian_ofUInt32 (word : UInt32) :
    toNatLittleEndian (ofUInt32 word) = word.toNat :=
  toNatLittleEndian_ofNatLittleEndian 4 word.toNat word.toNat_lt

theorem toNatLittleEndian_ofUInt64 (word : UInt64) :
    toNatLittleEndian (ofUInt64 word) = word.toNat :=
  toNatLittleEndian_ofNatLittleEndian 8 word.toNat word.toNat_lt

@[simp]
theorem ofUInt32_ne_nil (word : UInt32) : ofUInt32 word ≠ [] := by
  intro empty
  have length := length_ofUInt32 word
  simp [empty] at length

theorem length_of_slice? (positive : 0 < width) (found : bytes.slice? offset width = some field) :
    offset + width ≤ bytes.length := by
  rcases slice?_eq_some_iff.mp found with ⟨rfl, fits⟩
  rw [List.length_take, List.length_drop] at fits
  omega

/-- There is no slice where the bytes end before its end. -/
theorem slice?_eq_none (positive : 0 < width) (short : bytes.length < offset + width) :
    bytes.slice? offset width = none := by
  rw [Option.eq_none_iff_forall_ne_some]
  intro field found
  have enough := length_of_slice? positive found
  omega

/-- There is a slice wherever the bytes are long enough. -/
theorem exists_slice? (enough : offset + width ≤ bytes.length) :
    ∃ field, bytes.slice? offset width = some field ∧ field.length = width := by
  refine ⟨(bytes.drop offset).take width, slice?_eq_some_iff.mpr ⟨rfl, ?_⟩, ?_⟩ <;>
    rw [List.length_take, List.length_drop] <;> omega

/-- Whatever a byte string tells, it tells when more follows. -/
theorem slice?_of_isPrefix (start : part <+: bytes)
    (found : part.slice? offset width = some field) : bytes.slice? offset width = some field := by
  rcases start with ⟨rest, rfl⟩
  rcases slice?_eq_some_iff.mp found with ⟨rfl, fits⟩
  have enough : width ≤ (part.drop offset).length := by
    rw [List.length_take] at fits
    omega
  rw [slice?_eq_some_iff, List.drop_append, List.take_append_of_le_length enough]
  exact ⟨rfl, fits⟩

theorem u8?_of_isPrefix (start : part <+: bytes) {byte : UInt8}
    (found : part.u8? offset = some byte) : bytes.u8? offset = some byte := by
  rcases start with ⟨rest, rfl⟩
  have inside := (List.getElem?_eq_some_iff.mp found).1
  rw [u8?, List.getElem?_append_left inside]
  exact found

/-- A word that is read from a front part is read from the whole. -/
theorem u64?_of_isPrefix (start : part <+: bytes) {word : UInt64}
    (found : part.u64? offset = some word) : bytes.u64? offset = some word := by
  simp only [u64?, Option.map_eq_some_iff] at found ⊢
  rcases found with ⟨field, sliced, read⟩
  exact ⟨field, slice?_of_isPrefix start sliced, read⟩

end Bytes

/-! ## Keys -/

/-- The key of an account. -/
structure PublicKey where
  bytes : Bytes
  length_eq : bytes.length = 32

namespace PublicKey

/-- The address under which the account of a key is known. -/
def address (key : PublicKey) : Address := .ofBytes key.bytes

/-- Different keys have different addresses. -/
theorem address_injective : Function.Injective address := by
  rintro ⟨bytes, length_eq⟩ ⟨other, other_length_eq⟩ same
  congr 1
  exact Base58.encode_injective same

theorem address_ne_empty (key : PublicKey) : key.address ≠ "" := by
  apply Base58.encode_ne_empty
  intro empty
  have filled := key.length_eq
  simp [empty] at filled

end PublicKey

/-- What a payload that is cut off tells of a field: all of it, or nothing. -/
def AllOrNothing {Value : Type} (blank whole part : Value) : Prop := part = whole ∨ part = blank

/-! ## The system program -/

namespace SystemInstruction

variable {payload part rest : Bytes} {offset : Nat}

/-- The layouts of the system program: which payload asks for an instruction. -/
inductive Encodes : SystemInstruction → Bytes → Prop where
  | createAccount (lamports space : UInt64) (owner : PublicKey) :
      Encodes (.createAccount lamports space owner.address)
        (Bytes.ofUInt32 0 ++ (Bytes.ofUInt64 lamports ++ (Bytes.ofUInt64 space ++ owner.bytes)))
  | assign (owner : PublicKey) : Encodes (.assign owner.address) (Bytes.ofUInt32 1 ++ owner.bytes)
  | transfer (lamports : UInt64) :
      Encodes (.transfer lamports) (Bytes.ofUInt32 2 ++ Bytes.ofUInt64 lamports)
  | allocate (space : UInt64) : Encodes (.allocate space) (Bytes.ofUInt32 8 ++ Bytes.ofUInt64 space)

/-- What is left of an instruction when its payload is cut off behind the tag. -/
inductive CutTo : SystemInstruction → SystemInstruction → Prop where
  | createAccount {lamports space lamportsLeft spaceLeft : UInt64} {owner ownerLeft : Address}
      (ofLamports : AllOrNothing 0 lamports lamportsLeft)
      (ofSpace : AllOrNothing 0 space spaceLeft) (ofOwner : AllOrNothing "" owner ownerLeft) :
      CutTo (.createAccount lamports space owner) (.createAccount lamportsLeft spaceLeft ownerLeft)
  | assign {owner ownerLeft : Address} (ofOwner : AllOrNothing "" owner ownerLeft) :
      CutTo (.assign owner) (.assign ownerLeft)
  | transfer {lamports lamportsLeft : UInt64} (ofLamports : AllOrNothing 0 lamports lamportsLeft) :
      CutTo (.transfer lamports) (.transfer lamportsLeft)
  | allocate {space spaceLeft : UInt64} (ofSpace : AllOrNothing 0 space spaceLeft) :
      CutTo (.allocate space) (.allocate spaceLeft)
  | unrecognized (tag : Option UInt32) : CutTo (.unrecognized tag) (.unrecognized tag)

/-- An amount of which not all is there counts as zero. -/
theorem amountAt_eq_zero (short : payload.length < offset + 8) : amountAt payload offset = 0 := by
  rw [amountAt, Bytes.u64?, Bytes.slice?_eq_none (by decide) short]
  rfl

@[simp]
theorem amountAt_ofUInt64 (word : UInt64) (rest : Bytes) :
    amountAt (Bytes.ofUInt64 word ++ rest) 0 = word := by
  rw [amountAt, Bytes.u64?, Bytes.slice?_append_left (Bytes.length_ofUInt64 word), Option.map_some,
    Bytes.toNatLittleEndian_ofUInt64, UInt64.ofNat_toNat]
  rfl

/-- An amount behind a front part is read from the rest. -/
theorem amountAt_append_right {before : Bytes} (skips : before.length ≤ offset) :
    amountAt (before ++ rest) offset = amountAt rest (offset - before.length) := by
  rw [amountAt, amountAt, Bytes.u64?, Bytes.u64?, Bytes.slice?_append_right skips]

@[simp]
theorem amountAt_cons_succ (byte : UInt8) :
    amountAt (byte :: rest) (offset + 1) = amountAt rest offset := rfl

/-- An address is read from the key that stands at its offset. -/
theorem addressAt_of_slice? {key : PublicKey} (found : payload.slice? offset 32 = some key.bytes) :
    addressAt payload offset = key.address := by
  rw [addressAt, found]
  rfl

@[simp]
theorem addressAt_key (key : PublicKey) (rest : Bytes) :
    addressAt (key.bytes ++ rest) 0 = key.address :=
  addressAt_of_slice? (Bytes.slice?_append_left key.length_eq)

theorem addressAt_append_right {before : Bytes} (skips : before.length ≤ offset) :
    addressAt (before ++ rest) offset = addressAt rest (offset - before.length) := by
  rw [addressAt, addressAt, Bytes.slice?_append_right skips]

@[simp]
theorem addressAt_cons_succ (byte : UInt8) :
    addressAt (byte :: rest) (offset + 1) = addressAt rest offset := rfl

/-- A payload that starts with a word has it as its tag. -/
theorem tag_append (word : UInt32) : tag (Bytes.ofUInt32 word ++ rest) = word.toNat := by
  have first : (Bytes.ofUInt32 word ++ rest).take 4 = Bytes.ofUInt32 word := by
    rw [← Bytes.length_ofUInt32 word, List.take_left]
  rw [tag, first, Bytes.toNatLittleEndian_ofUInt32]

/-- An amount is read from a cut payload as from the whole, or is zero. -/
theorem allOrNothing_amountAt (start : part <+: payload) (offset : Nat) :
    AllOrNothing 0 (amountAt payload offset) (amountAt part offset) := by
  cases found : part.u64? offset with
  | none =>
      right
      rw [amountAt, found]
      rfl
  | some word =>
      left
      rw [amountAt, amountAt, found, Bytes.u64?_of_isPrefix start found]

/-- An address is read from a cut payload as from the whole, or is empty. -/
theorem allOrNothing_addressAt (start : part <+: payload) (offset : Nat) :
    AllOrNothing "" (addressAt payload offset) (addressAt part offset) := by
  cases found : part.slice? offset 32 with
  | none =>
      right
      rw [addressAt, found]
      rfl
  | some field =>
      left
      rw [addressAt, addressAt, found, Bytes.slice?_of_isPrefix start found]

theorem tag_of_isPrefix (start : part <+: payload) (tagged : 4 ≤ part.length) :
    tag part = tag payload := by
  rcases start with ⟨rest, rfl⟩
  rw [tag, tag, List.take_append_of_le_length tagged]

theorem decode_of_encodes {instruction : SystemInstruction} (encodes : Encodes instruction payload)
    (trailing : Bytes) : decode (payload ++ trailing) = instruction := by
  cases encodes with
  | createAccount lamports space owner =>
      simp [decode, tag_append, amountAt_append_right, addressAt_append_right]
  | assign owner => simp [decode, tag_append, addressAt_append_right]
  | transfer lamports => simp [decode, tag_append, amountAt_append_right]
  | allocate space => simp [decode, tag_append, amountAt_append_right]

theorem cutTo_decode (start : part <+: payload) (tagged : 4 ≤ part.length) :
    (decode payload).CutTo (decode part) := by
  have partFilled : part ≠ [] := by
    rintro rfl
    simp at tagged
  have filled : payload ≠ [] := by
    rintro rfl
    exact partFilled (List.prefix_nil.mp start)
  rw [decode, decode, if_neg filled, if_neg partFilled, tag_of_isPrefix start tagged]
  generalize tag payload = number
  split
  · exact .createAccount (allOrNothing_amountAt start 4) (allOrNothing_amountAt start 12)
      (allOrNothing_addressAt start 20)
  · exact .assign (allOrNothing_addressAt start 4)
  · exact .transfer (allOrNothing_amountAt start 4)
  · exact .allocate (allOrNothing_amountAt start 4)
  · exact .unrecognized _

end SystemInstruction

/-! ## The token programs -/

namespace TokenInstruction

open SystemInstruction

variable {payload part rest : Bytes} {offset : Nat}

/-- The layouts of the token programs: which payload asks for an instruction. -/
inductive Encodes : TokenInstruction → Bytes → Prop where
  | initializeMint (decimals : UInt8) (authority : PublicKey) :
      Encodes (.initializeMint decimals authority.address) (0 :: decimals :: authority.bytes)
  | initializeAccount : Encodes .initializeAccount [1]
  | transfer (amount : UInt64) : Encodes (.transfer amount) (3 :: Bytes.ofUInt64 amount)
  | dropAuthority (kind : UInt8) : Encodes (.setAuthority kind none) [6, kind, 0]
  | setAuthority (kind : UInt8) (authority : PublicKey) :
      Encodes (.setAuthority kind (some authority.address)) (6 :: kind :: 1 :: authority.bytes)
  | mintTo (amount : UInt64) : Encodes (.mintTo amount) (7 :: Bytes.ofUInt64 amount)
  | burn (amount : UInt64) : Encodes (.burn amount) (8 :: Bytes.ofUInt64 amount)
  | transferChecked (amount : UInt64) (decimals : UInt8) :
      Encodes (.transferChecked amount decimals) (12 :: (Bytes.ofUInt64 amount ++ [decimals]))
  | mintToChecked (amount : UInt64) (decimals : UInt8) :
      Encodes (.mintToChecked amount decimals) (14 :: (Bytes.ofUInt64 amount ++ [decimals]))
  | burnChecked (amount : UInt64) (decimals : UInt8) :
      Encodes (.burnChecked amount decimals) (15 :: (Bytes.ofUInt64 amount ++ [decimals]))
  | initializeAccount2 (owner : PublicKey) :
      Encodes (.initializeAccount2 owner.address) (16 :: owner.bytes)
  | initializeAccount3 (owner : PublicKey) :
      Encodes (.initializeAccount3 owner.address) (18 :: owner.bytes)
  /-- The second edition of `initializeMint` asks for the same. -/
  | initializeMint2 (decimals : UInt8) (authority : PublicKey) :
      Encodes (.initializeMint decimals authority.address) (20 :: decimals :: authority.bytes)

/-- What is left of an instruction when its payload is cut off behind the tag. -/
inductive CutTo : TokenInstruction → TokenInstruction → Prop where
  | initializeMint {decimals decimalsLeft : UInt8} {authority authorityLeft : Address}
      (ofDecimals : AllOrNothing 0 decimals decimalsLeft)
      (ofAuthority : AllOrNothing "" authority authorityLeft) :
      CutTo (.initializeMint decimals authority) (.initializeMint decimalsLeft authorityLeft)
  | initializeAccount : CutTo .initializeAccount .initializeAccount
  | initializeAccount2 {owner ownerLeft : Address} (ofOwner : AllOrNothing "" owner ownerLeft) :
      CutTo (.initializeAccount2 owner) (.initializeAccount2 ownerLeft)
  | initializeAccount3 {owner ownerLeft : Address} (ofOwner : AllOrNothing "" owner ownerLeft) :
      CutTo (.initializeAccount3 owner) (.initializeAccount3 ownerLeft)
  | transfer {amount amountLeft : UInt64} (ofAmount : AllOrNothing 0 amount amountLeft) :
      CutTo (.transfer amount) (.transfer amountLeft)
  | transferChecked {amount amountLeft : UInt64} {decimals decimalsLeft : UInt8}
      (ofAmount : AllOrNothing 0 amount amountLeft)
      (ofDecimals : AllOrNothing 0 decimals decimalsLeft) :
      CutTo (.transferChecked amount decimals) (.transferChecked amountLeft decimalsLeft)
  | mintTo {amount amountLeft : UInt64} (ofAmount : AllOrNothing 0 amount amountLeft) :
      CutTo (.mintTo amount) (.mintTo amountLeft)
  | mintToChecked {amount amountLeft : UInt64} {decimals decimalsLeft : UInt8}
      (ofAmount : AllOrNothing 0 amount amountLeft)
      (ofDecimals : AllOrNothing 0 decimals decimalsLeft) :
      CutTo (.mintToChecked amount decimals) (.mintToChecked amountLeft decimalsLeft)
  | burn {amount amountLeft : UInt64} (ofAmount : AllOrNothing 0 amount amountLeft) :
      CutTo (.burn amount) (.burn amountLeft)
  | burnChecked {amount amountLeft : UInt64} {decimals decimalsLeft : UInt8}
      (ofAmount : AllOrNothing 0 amount amountLeft)
      (ofDecimals : AllOrNothing 0 decimals decimalsLeft) :
      CutTo (.burnChecked amount decimals) (.burnChecked amountLeft decimalsLeft)
  | setAuthority {kind kindLeft : UInt8} {authority authorityLeft : Option Address}
      (ofKind : AllOrNothing 0 kind kindLeft)
      (ofAuthority : AllOrNothing none authority authorityLeft) :
      CutTo (.setAuthority kind authority) (.setAuthority kindLeft authorityLeft)
  | unrecognized (tag : Option UInt8) : CutTo (.unrecognized tag) (.unrecognized tag)

/-- The decimals stand right behind the amount. -/
theorem byteAt_behind_amount (tag : UInt8) (amount : UInt64) (decimals : UInt8) :
    byteAt (tag :: (Bytes.ofUInt64 amount ++ decimals :: rest)) 9 = decimals := by
  simp [byteAt, Bytes.u8?]

theorem decode_of_encodes {instruction : TokenInstruction} (encodes : Encodes instruction payload)
    (trailing : Bytes) : decode (payload ++ trailing) = instruction := by
  cases encodes with
  | initializeMint decimals authority => simp [decode, byteAt, Bytes.u8?]
  | initializeAccount => rfl
  | transfer amount => simp [decode]
  | dropAuthority kind => rfl
  | setAuthority kind authority =>
      simp [decode, byteAt, Bytes.u8?, Bytes.slice?_append_left authority.length_eq,
        PublicKey.address]
  | mintTo amount => simp [decode]
  | burn amount => simp [decode]
  | transferChecked amount decimals => simp [decode, byteAt_behind_amount]
  | mintToChecked amount decimals => simp [decode, byteAt_behind_amount]
  | burnChecked amount decimals => simp [decode, byteAt_behind_amount]
  | initializeAccount2 owner => simp [decode]
  | initializeAccount3 owner => simp [decode]
  | initializeMint2 decimals authority => simp [decode, byteAt, Bytes.u8?]

/-- A byte is read from a cut payload as from the whole, or is zero. -/
theorem allOrNothing_byteAt (start : part <+: payload) (offset : Nat) :
    AllOrNothing 0 (byteAt payload offset) (byteAt part offset) := by
  cases found : part.u8? offset with
  | none =>
      right
      rw [byteAt, found]
      rfl
  | some byte =>
      left
      rw [byteAt, byteAt, found, Bytes.u8?_of_isPrefix start found]

/-- The key behind an option byte is told only if that byte is there too. -/
theorem allOrNothing_authority (start : part <+: payload) :
    AllOrNothing none
      (if payload.u8? 2 = some 1 then (payload.slice? 3 32).map Address.ofBytes else none)
      (if part.u8? 2 = some 1 then (part.slice? 3 32).map Address.ofBytes else none) := by
  by_cases given : part.u8? 2 = some 1
  · rw [if_pos given, if_pos (Bytes.u8?_of_isPrefix start given)]
    cases found : part.slice? 3 32 with
    | none => exact Or.inr rfl
    | some field =>
        left
        rw [Bytes.slice?_of_isPrefix start found]
  · right
    rw [if_neg given]

theorem cutTo_decode (start : part <+: payload) (tagged : 1 ≤ part.length) :
    (decode payload).CutTo (decode part) := by
  rcases part with _ | ⟨tag, left⟩
  · simp at tagged
  rcases payload with _ | ⟨other, rest⟩
  · simp at start
  rcases List.cons_prefix_cons.mp start with ⟨rfl, _⟩
  rw [decode, decode]
  generalize tag.toNat = number
  split
  · exact .initializeMint (allOrNothing_byteAt start 1) (allOrNothing_addressAt start 2)
  · exact .initializeMint (allOrNothing_byteAt start 1) (allOrNothing_addressAt start 2)
  · exact .initializeAccount
  · exact .transfer (allOrNothing_amountAt start 1)
  · exact .setAuthority (allOrNothing_byteAt start 1) (allOrNothing_authority start)
  · exact .mintTo (allOrNothing_amountAt start 1)
  · exact .burn (allOrNothing_amountAt start 1)
  · exact .transferChecked (allOrNothing_amountAt start 1) (allOrNothing_byteAt start 9)
  · exact .mintToChecked (allOrNothing_amountAt start 1) (allOrNothing_byteAt start 9)
  · exact .burnChecked (allOrNothing_amountAt start 1) (allOrNothing_byteAt start 9)
  · exact .initializeAccount2 (allOrNothing_addressAt start 1)
  · exact .initializeAccount3 (allOrNothing_addressAt start 1)
  · exact .unrecognized _

end TokenInstruction

/-- A payload for a token program is read as one of its instructions. -/
theorem Payload.decode_token {program : Address} {payload : Bytes}
    (addressed : Address.isTokenProgram program) :
    decode program payload = .token (.decode payload) := by
  have other : program ≠ Address.systemProgram := by
    rintro rfl
    revert addressed
    decide
  rw [decode, if_neg other, if_pos addressed]

/-- The decoders read exactly their layouts. A payload that asks for an instruction is read back
with all its fields, whatever follows it, and different keys are read as different addresses. A
payload that is cut off behind its tag is read as an instruction of the same kind, each of whose
fields is as in the whole payload or zero. -/
theorem layouts_read_exactly :
    (∀ (instruction : SystemInstruction) (payload trailing : Bytes),
      instruction.Encodes payload →
        SystemInstruction.decode (payload ++ trailing) = instruction) ∧
      (∀ (instruction : TokenInstruction) (payload trailing : Bytes),
        instruction.Encodes payload →
          TokenInstruction.decode (payload ++ trailing) = instruction) ∧
      (∀ key other : PublicKey, key.address = other.address → key = other) ∧
      (∀ payload part : Bytes, part <+: payload → 4 ≤ part.length →
        (SystemInstruction.decode payload).CutTo (SystemInstruction.decode part)) ∧
      ∀ payload part : Bytes, part <+: payload → 1 ≤ part.length →
        (TokenInstruction.decode payload).CutTo (TokenInstruction.decode part) := by
  refine ⟨?_, ?_, ?_, ?_, ?_⟩
  · intro instruction payload trailing encodes
    exact SystemInstruction.decode_of_encodes encodes trailing
  · intro instruction payload trailing encodes
    exact TokenInstruction.decode_of_encodes encodes trailing
  · intro key other same
    exact PublicKey.address_injective same
  · intro payload part start tagged
    exact SystemInstruction.cutTo_decode start tagged
  · intro payload part start tagged
    exact TokenInstruction.cutTo_decode start tagged

/-- The creation of an account, whole with more behind it, and cut off within the owner; a change of
authority, whole and cut off within the new key. -/
theorem layouts_read_createAccount :
    let key : PublicKey := ⟨List.replicate 32 7, rfl⟩
    let creation :=
      Bytes.ofUInt32 0 ++ (Bytes.ofUInt64 2039280 ++ (Bytes.ofUInt64 165 ++ key.bytes))
    let change : Bytes := 6 :: 2 :: 1 :: key.bytes
    SystemInstruction.Encodes (.createAccount 2039280 165 key.address) creation ∧
      SystemInstruction.decode (creation ++ [1, 2, 3]) = .createAccount 2039280 165 key.address ∧
      TokenInstruction.Encodes (.setAuthority 2 (some key.address)) change ∧
      TokenInstruction.decode (change ++ [1, 2, 3]) = .setAuthority 2 (some key.address) ∧
      creation.take 22 <+: creation ∧ 4 ≤ (creation.take 22).length ∧
      (SystemInstruction.decode creation).CutTo (SystemInstruction.decode (creation.take 22)) ∧
      change.take 22 <+: change ∧ 1 ≤ (change.take 22).length ∧
      (TokenInstruction.decode change).CutTo (TokenInstruction.decode (change.take 22)) := by
  intro key creation change
  have creates : SystemInstruction.Encodes (.createAccount 2039280 165 key.address) creation :=
    .createAccount 2039280 165 key
  have changes : TokenInstruction.Encodes (.setAuthority 2 (some key.address)) change :=
    .setAuthority 2 key
  have tagged : 4 ≤ (creation.take 22).length := by decide +kernel
  have filled : 1 ≤ (change.take 22).length := by decide +kernel
  rcases layouts_read_exactly with ⟨system, token, _, systemCut, tokenCut⟩
  exact ⟨creates, system _ _ [1, 2, 3] creates, changes, token _ _ [1, 2, 3] changes,
    List.take_prefix 22 creation, tagged, systemCut _ _ (List.take_prefix 22 creation) tagged,
    List.take_prefix 22 change, filled, tokenCut _ _ (List.take_prefix 22 change) filled⟩

example : SystemInstruction.decode
    ((Bytes.ofUInt32 0 ++ (Bytes.ofUInt64 2039280 ++ Bytes.ofUInt64 165)).take 19) =
      .createAccount 2039280 0 "" := by
  decide +kernel

end SwapLedger
