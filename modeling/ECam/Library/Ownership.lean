import Mathlib.Tactic

/-!
# Ownership of numbered resources

A fixed number of resources, each with a flag that says whether it is free, and a list of
the resources that somebody has.  The list and the flags tell the same if no resource is
listed twice and exactly those that are not free are listed.  Passing a resource on only
reorders the list; acquiring and releasing change one flag and one entry.
-/

namespace ECam.Library

/-- The listed resources are those below `count` whose flag is not set, each of them once. -/
structure Tracks (count : Nat) (free : Nat → Bool) (owned : List Nat) : Prop where
  nodup : owned.Nodup
  mem_iff : ∀ resource, resource ∈ owned ↔ resource < count ∧ free resource = false

namespace Tracks

variable {count resource : Nat} {free : Nat → Bool} {owned others : List Nat}

theorem initially (all : ∀ resource, resource < count → free resource = true) :
    Tracks count free [] := by
  constructor
  · exact List.nodup_nil
  · intro resource
    constructor
    · intro listed
      cases listed
    · rintro ⟨inside, taken⟩
      rw [all resource inside] at taken
      cases taken

/-- A resource is passed on. -/
theorem perm (tracks : Tracks count free owned) (same : owned.Perm others) :
    Tracks count free others := by
  constructor
  · exact same.nodup_iff.mp tracks.nodup
  · intro resource
    rw [← same.mem_iff]
    exact tracks.mem_iff resource

theorem not_mem (tracks : Tracks count free owned) (available : free resource = true) :
    resource ∉ owned := by
  intro listed
  have taken := ((tracks.mem_iff resource).mp listed).2
  rw [available] at taken
  cases taken

/-- A free resource is acquired. -/
theorem acquire (tracks : Tracks count free owned) (inside : resource < count)
    (available : free resource = true) :
    Tracks count (Function.update free resource false) (resource :: owned) := by
  constructor
  · exact List.nodup_cons.mpr ⟨tracks.not_mem available, tracks.nodup⟩
  · intro other
    rw [List.mem_cons, Function.update_apply]
    by_cases same : other = resource
    · rw [if_pos same, same]
      exact ⟨fun _ => ⟨inside, rfl⟩, fun _ => Or.inl rfl⟩
    · rw [if_neg same, tracks.mem_iff other]
      exact ⟨fun listed => listed.resolve_left same, Or.inr⟩

/-- An owned resource is released. -/
theorem release (tracks : Tracks count free (resource :: owned)) :
    Tracks count (Function.update free resource true) owned := by
  rcases List.nodup_cons.mp tracks.nodup with ⟨fresh, nodup⟩
  constructor
  · exact nodup
  · intro other
    rw [Function.update_apply]
    by_cases same : other = resource
    · rw [if_pos same, same]
      exact ⟨fun listed => absurd listed fresh, fun taken => absurd taken.2 (by decide)⟩
    · rw [if_neg same, ← tracks.mem_iff other, List.mem_cons]
      exact ⟨Or.inr, fun listed => listed.resolve_left same⟩

/-- There is a free resource as long as not all of them are owned. -/
theorem exists_free (tracks : Tracks count free owned) (fewer : owned.length < count) :
    ∃ resource, resource < count ∧ free resource = true := by
  by_contra none
  have all : List.range count ⊆ owned := by
    intro resource listed
    rw [List.mem_range] at listed
    rw [tracks.mem_iff]
    refine ⟨listed, ?_⟩
    by_contra available
    exact none ⟨resource, listed, by simpa using available⟩
  have length := (List.nodup_range.subperm all).length_le
  rw [List.length_range] at length
  omega

theorem length_le (tracks : Tracks count free owned) : owned.length ≤ count := by
  have all : owned ⊆ List.range count := by
    intro resource listed
    rw [List.mem_range]
    exact ((tracks.mem_iff resource).mp listed).1
  have length := (tracks.nodup.subperm all).length_le
  rwa [List.length_range] at length

end Tracks

end ECam.Library
