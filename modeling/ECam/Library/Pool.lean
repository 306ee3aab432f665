import Mathlib.Data.List.ReduceOption
import Mathlib.Tactic

/-!
# Handles that are acquired and released

A pool grants or refuses requests.  A granted request gives a handle, which is in use until it
is released; releasing a handle that is not in use is a misuse.  Pointers are handles or null.

A list accounts for a pool if it has the handles in use, each of them once, and nothing was
misused.  Requests and releases change the list by one handle.
-/

namespace ECam.Library

/-- The handles in use, the number of the next request, and whether a handle was released that
was not in use. -/
structure Pool where
  live : List Nat
  next : Nat
  misused : Bool
  deriving DecidableEq, Repr

namespace Pool

/-- The pool before the first request. -/
def empty : Pool :=
  ⟨[], 0, false⟩

/-- A request; its handle is its number. -/
def acquire (grants : Nat → Bool) (pool : Pool) : Option Nat × Pool :=
  if grants pool.next = true then
    (some pool.next, { pool with live := pool.next :: pool.live, next := pool.next + 1 })
  else
    (none, { pool with next := pool.next + 1 })

/-- A handle is not in use any more.  Nothing is done for a null pointer. -/
def release (pool : Pool) : Option Nat → Pool
  | none => pool
  | some handle =>
      if handle ∈ pool.live then
        { pool with live := pool.live.erase handle }
      else
        { pool with misused := true }

/-- The releases of several pointers, one after the other. -/
def releaseAll (pool : Pool) (pointers : List (Option Nat)) : Pool :=
  pointers.foldl release pool

/-- The list has the handles in use, each of them once. -/
structure Accounts (pool : Pool) (owned : List Nat) : Prop where
  live : pool.live.Perm owned
  nodup : owned.Nodup
  old : ∀ handle ∈ owned, handle < pool.next
  sound : pool.misused = false

variable {grants : Nat → Bool} {pool : Pool} {owned others : List Nat}

theorem Accounts.empty : empty.Accounts [] :=
  ⟨List.Perm.refl [], List.nodup_nil, List.forall_mem_nil _, rfl⟩

theorem Accounts.perm (accounts : pool.Accounts owned) (same : owned.Perm others) :
    pool.Accounts others :=
  ⟨accounts.live.trans same, same.nodup_iff.mp accounts.nodup,
    fun handle listed => accounts.old handle (same.mem_iff.mpr listed), accounts.sound⟩

/-- A request adds its handle, if it is granted. -/
theorem Accounts.acquire (accounts : pool.Accounts owned) :
    (pool.acquire grants).2.Accounts ((pool.acquire grants).1.toList ++ owned) := by
  have older : ∀ handle ∈ owned, handle < pool.next + 1 :=
    fun handle listed => Nat.lt_succ_of_lt (accounts.old handle listed)
  unfold Pool.acquire
  split
  next =>
    have fresh : pool.next ∉ owned := fun listed => (accounts.old _ listed).false
    exact ⟨accounts.live.cons _, List.nodup_cons.mpr ⟨fresh, accounts.nodup⟩,
      List.forall_mem_cons.mpr ⟨Nat.lt_succ_self _, older⟩, accounts.sound⟩
  next => exact ⟨accounts.live, accounts.nodup, older, accounts.sound⟩

/-- A release removes the handle. -/
theorem Accounts.release {handle : Nat} (accounts : pool.Accounts (handle :: owned)) :
    (pool.release (some handle)).Accounts owned := by
  have used : handle ∈ pool.live := accounts.live.mem_iff.mpr List.mem_cons_self
  have removed : (pool.live.erase handle).Perm owned := by
    have erased := accounts.live.erase handle
    rwa [List.erase_cons_head] at erased
  rw [Pool.release, if_pos used]
  exact ⟨removed, (List.nodup_cons.mp accounts.nodup).2,
    fun other listed => accounts.old other (List.mem_cons_of_mem _ listed), accounts.sound⟩

theorem Accounts.releaseAll {pointers : List (Option Nat)}
    (accounts : pool.Accounts (pointers.reduceOption ++ owned)) :
    (pool.releaseAll pointers).Accounts owned := by
  induction pointers generalizing pool with
  | nil => exact accounts
  | cons pointer pointers ih =>
      cases pointer with
      | none => exact ih accounts
      | some handle => exact ih accounts.release

/-- A null pointer in a list is overwritten. -/
theorem reduceOption_fill (front back : List (Option Nat)) (pointer : Option Nat) :
    (front ++ pointer :: back).reduceOption.Perm
      (pointer.toList ++ (front ++ none :: back).reduceOption) := by
  rw [List.reduceOption_append, List.reduceOption_append, List.reduceOption_cons_of_none]
  cases pointer with
  | none => exact List.Perm.refl _
  | some handle =>
      rw [List.reduceOption_cons_of_some]
      exact List.perm_middle

end Pool

end ECam.Library
