import SwapLedger.Matcher

/-!
# Registries

Which program is read as which exchange. A registry is filled entry by entry; a program that is
entered again is read by its latest entry.
-/

namespace SwapLedger

/-- How the swaps of a program are found. -/
structure RegistryEntry where
  protocol : Protocol
  gate : Gate
  matcher : Matcher

namespace RegistryEntry

/-- The gate and matcher that belong to an exchange. -/
def ofProtocol (protocol : Protocol) : RegistryEntry := ⟨protocol, protocol.gate, protocol.matcher⟩

end RegistryEntry

/-- The programs that are read as exchanges, each once. -/
structure Registry where
  entries : List (Address × RegistryEntry)

namespace Registry

/-- The registry that reads no program. -/
def empty : Registry := ⟨[]⟩

/-- Enters a program, in place of what it was read as before. -/
def register (registry : Registry) (program : Address) (entry : RegistryEntry) : Registry :=
  ⟨(program, entry) :: registry.entries.filter fun known => known.1 != program⟩

/-- The registry of all exchanges under their own programs. -/
def standard : Registry :=
  Protocol.all.foldl (fun registry protocol => registry.register protocol.program (.ofProtocol protocol))
    .empty

/-- A registry of programs that are read as the given exchanges. -/
def ofProtocols (programs : List (Address × Protocol)) : Registry :=
  programs.foldl (fun registry (program, protocol) => registry.register program (.ofProtocol protocol))
    .empty

variable (registry : Registry)

/-- How a program is read. -/
def get? (program : Address) : Option RegistryEntry :=
  (registry.entries.find? fun known => known.1 == program).map (·.2)

/-- Whether a program is read as an exchange. -/
def supports (program : Address) : Bool := (registry.get? program).isSome

/-- Whether any account of a table is the program of an exchange. -/
def touches (table : AccountTable) : Bool := table.any registry.supports

/-- How many programs are entered. -/
def size : Nat := registry.entries.length

end Registry

end SwapLedger
