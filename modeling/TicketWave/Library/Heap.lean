import TicketWave.Library.Registry

/-!
# Objects that stay as they are

A program that only writes to objects it has made leaves the others alone.
-/

namespace TicketWave.Library.Registry

universe u

variable {Value : Type u}

/-- Every object of the first registry is in the second one, unchanged. -/
def Keeps (before after : Registry Value) : Prop :=
  ∀ address value, before.get address = some value →
    after.get address = some value

namespace Keeps

variable {before middle after : Registry Value}

theorem refl (before : Registry Value) : before.Keeps before :=
  fun _ _ found => found

theorem trans (first : before.Keeps middle) (second : middle.Keeps after) :
    before.Keeps after :=
  fun address value found => second address value (first address value found)

theorem launch (kept : before.Keeps after) (value : Value) :
    before.Keeps (after.launch value) :=
  fun address old found => get_launch_of_get (kept address old found)

end Keeps

/-- Read the objects at these addresses. -/
def getAll (registry : Registry Value) (addresses : List Nat) :
    Option (List Value) :=
  addresses.mapM registry.get

theorem getAll_cons_eq_some_iff {registry : Registry Value} {address : Nat}
    {rest : List Nat} {values : List Value} :
    registry.getAll (address :: rest) = some values ↔
      ∃ value others, registry.get address = some value ∧
        registry.getAll rest = some others ∧ values = value :: others :=
  mapM_cons_eq_some_iff

theorem length_of_getAll {registry : Registry Value} {addresses : List Nat}
    {values : List Value} (read : registry.getAll addresses = some values) :
    values.length = addresses.length :=
  length_of_mapM read

theorem Keeps.getAll {before after : Registry Value} {addresses : List Nat}
    {values : List Value} (kept : before.Keeps after)
    (read : before.getAll addresses = some values) :
    after.getAll addresses = some values := by
  induction addresses generalizing values with
  | nil =>
      cases read
      rfl
  | cons address rest ih =>
      obtain ⟨value, others, found, readRest, rfl⟩ :=
        getAll_cons_eq_some_iff.mp read
      exact getAll_cons_eq_some_iff.mpr
        ⟨value, others, kept address value found, ih readRest, rfl⟩

end TicketWave.Library.Registry
