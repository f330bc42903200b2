/-!
# Registries of container identifiers

A registry is the set of identifiers that are held. Reserving one is a single step that checks and
sets, so an identifier has at most one holder; who holds it is recorded by a `Lease`.
-/

namespace BeanContainer

/-- Identifiers that are held, each once. -/
structure Registry where
  held : List String := []
  nodup : held.Nodup := by exact List.nodup_nil
  deriving Inhabited

/-- The right to an identifier of a registry, which is known by its number. -/
structure Lease where
  registry : Nat
  id : String
  deriving DecidableEq

namespace Registry

def empty : Registry := {}

def inUse (r : Registry) (id : String) : Bool := r.held.contains id

def size (r : Registry) : Nat := r.held.length

/-- Hold an identifier, unless it is held already. -/
def reserve? (r : Registry) (id : String) : Option Registry :=
  if h : id ∈ r.held then none else some ⟨id :: r.held, List.nodup_cons.2 ⟨h, r.nodup⟩⟩

def release (r : Registry) (id : String) : Registry := ⟨r.held.erase id, r.nodup.erase id⟩

@[simp] theorem inUse_iff {r : Registry} {id : String} : r.inUse id = true ↔ id ∈ r.held := by
  simp [inUse]

/-- An identifier cannot be reserved exactly if it is held. -/
theorem reserve?_eq_none_iff {r : Registry} {id : String} : r.reserve? id = none ↔ id ∈ r.held := by
  rw [reserve?]
  split <;> simp_all

/-- A reservation holds the identifier in addition to the others. -/
theorem held_of_reserve? {r r' : Registry} {id : String} (h : r.reserve? id = some r') :
    id ∉ r.held ∧ r'.held = id :: r.held := by
  rw [reserve?] at h
  split at h
  · cases h
  · next hn => exact ⟨hn, by cases h; rfl⟩

/-- Letting go of what has just been reserved restores the registry. -/
theorem release_of_reserve? {r r' : Registry} {id : String} (h : r.reserve? id = some r') :
    r'.release id = r := by
  obtain ⟨-, hr'⟩ := held_of_reserve? h
  cases r with
  | mk held nodup => simp [release, hr']

/-- A release lets go of the one identifier only. -/
theorem mem_held_release {r : Registry} {id id' : String} :
    id' ∈ (r.release id).held ↔ id' ≠ id ∧ id' ∈ r.held :=
  r.nodup.mem_erase_iff

end Registry

end BeanContainer
