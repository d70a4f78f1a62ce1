import SwapLedger.Registry

/-!
# Registration

What stands in a registry: the lookup gives only what was entered, and the standard registry reads
each program as the exchange that runs as it.
-/

namespace SwapLedger

namespace Registry

variable {registry : Registry} {program : Address} {entry : RegistryEntry}
  {known : Address × RegistryEntry}

theorem mem_of_get?_eq_some (found : registry.get? program = some entry) :
    (program, entry) ∈ registry.entries := by
  rw [get?, Option.map_eq_some_iff] at found
  rcases found with ⟨⟨knownProgram, knownEntry⟩, found, rfl⟩
  have sameProgram := List.find?_some found
  simp only [beq_iff_eq] at sameProgram
  rw [← sameProgram]
  exact List.mem_of_find?_eq_some found

theorem mem_register (member : known ∈ (registry.register program entry).entries) :
    known = (program, entry) ∨ known ∈ registry.entries := by
  rw [register, List.mem_cons] at member
  exact member.imp_right fun kept => (List.mem_filter.mp kept).1

/-- What stands in a registry that was filled entry by entry was entered at some time. -/
theorem mem_foldl_register {α : Type} {programOf : α → Address} {entryOf : α → RegistryEntry}
    {list : List α}
    (member : known ∈ (list.foldl (fun registry item =>
      registry.register (programOf item) (entryOf item)) registry).entries) :
    known ∈ registry.entries ∨ ∃ item ∈ list, known = (programOf item, entryOf item) := by
  induction list generalizing registry with
  | nil => exact Or.inl member
  | cons item rest ih =>
      rcases ih member with member | ⟨later, laterMem, rfl⟩
      · rcases mem_register member with rfl | member
        · exact Or.inr ⟨item, List.mem_cons_self, rfl⟩
        · exact Or.inl member
      · exact Or.inr ⟨later, List.mem_cons_of_mem _ laterMem, rfl⟩

/-- The standard registry reads the program of an exchange as this exchange, and no other. -/
theorem get?_standard_eq_some (found : standard.get? program = some entry) :
    ∃ protocol : Protocol, program = protocol.program ∧ entry = .ofProtocol protocol := by
  rcases mem_foldl_register (mem_of_get?_eq_some found) with member | ⟨protocol, _, same⟩
  · simp [empty] at member
  · rw [Prod.mk.injEq] at same
    exact ⟨protocol, same⟩

/-- Whatever the programs and their gates are, the matchers of the registry are those of supported
exchanges. -/
def IsBuiltIn (registry : Registry) : Prop :=
  ∀ known ∈ registry.entries, ∃ protocol : Protocol, known.2.matcher = protocol.matcher

theorem IsBuiltIn.exists_matcher_eq (builtIn : registry.IsBuiltIn)
    (found : registry.get? program = some entry) :
    ∃ protocol : Protocol, entry.matcher = protocol.matcher :=
  builtIn _ (mem_of_get?_eq_some found)

theorem isBuiltIn_standard : standard.IsBuiltIn := by
  intro known member
  rcases mem_foldl_register member with member | ⟨protocol, _, rfl⟩
  · simp [empty] at member
  · exact ⟨protocol, rfl⟩

end Registry

end SwapLedger
