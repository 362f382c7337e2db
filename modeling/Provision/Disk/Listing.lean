import Provision.Disk.Basic

namespace Provision.Disk

/-!
# Listings

A listing of a directory names everything below it, depth first: a directory stands before its
content, and the names in one directory are in byte order.
-/

/-- Whether a location stands before another one, depth first. -/
def standsBefore : Location → Location → Bool
  | [], _ => true
  | _ :: _, [] => false
  | first :: rest, other :: others =>
      if first = other then standsBefore rest others else first.before other

/-- What is below a location, by the names that lead from there. -/
def listing (disk : Disk) (location : Location) : List (Location × Entry) :=
  let below := disk.entries.filterMap fun (place, entry) =>
    match Text.after? location place with
    | some (name :: rest) => some (name :: rest, entry)
    | _ => none
  below.mergeSort fun a b => standsBefore a.1 b.1

/-- Whether the directories on the way down from a location all may be used in some way. -/
def allowsBetween (disk : Disk) (location : Location) (access : Access) (below : Location) : Bool :=
  (List.range below.length).all fun depth =>
    (disk.get? (location ++ below.take depth)).any fun entry => entry.allows access

/--
The listing that can be made of a location: what is in directories that cannot be read is left out.
Nothing can be made if something that is listed cannot be reached, or is a file that cannot be read.
-/
def listing? (disk : Disk) (location : Location) : Option (List (Location × Entry)) :=
  let seen := (disk.listing location).filter fun (below, _) =>
    disk.allowsBetween location .read below
  if seen.all fun (below, entry) =>
      disk.allowsBetween location .execute below && (!entry.isFile || entry.allows .read) then
    some seen
  else
    none

/-- A listing names exactly what is below the location. -/
theorem mem_listing_iff
    {disk : Disk}
    {location below : Location}
    {entry : Entry} :
    (below, entry) ∈ disk.listing location ↔
      below ≠ [] ∧ (location ++ below, entry) ∈ disk.entries := by
  simp only [listing, List.mem_mergeSort, List.mem_filterMap]
  constructor
  · rintro ⟨⟨place, found⟩, member, shown⟩
    split at shown
    · rename_i name rest opening
      obtain ⟨rfl, rfl⟩ : name :: rest = below ∧ found = entry := by simpa using shown
      exact ⟨by simp, Text.eq_append_of_after? opening ▸ member⟩
    · simp at shown
  · rintro ⟨isBelow, member⟩
    refine ⟨(location ++ below, entry), member, ?_⟩
    obtain ⟨name, rest, rfl⟩ := List.exists_cons_of_ne_nil isBelow
    simp [Text.after?_append]

end Provision.Disk
