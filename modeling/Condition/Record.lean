import Condition.Text

/-!
# Records

A record lists its members in the order of their names, compared by code point, each name once.
Writing a name that is there replaces the member (`insert`). A member is read by `List.lookup`.
-/

namespace Condition

/-- Members with their names. -/
abbrev Record (α : Type) := List (Text × α)

namespace Record

variable {α : Type}

/-- The record with one member written. -/
def insert (record : Record α) (name : Text) (member : α) : Record α :=
  match record with
  | [] => [(name, member)]
  | (other, kept) :: rest =>
    if name = other then (name, member) :: rest
    else if name < other then (name, member) :: (other, kept) :: rest
    else (other, kept) :: insert rest name member

/-- The record with these members, the later one where two have one name. -/
def ofList (members : List (Text × α)) : Record α :=
  members.foldl (fun record member => insert record member.1 member.2) []

theorem lookup_insert_of_ne (record : Record α) {name sought : Text} (member : α)
    (hne : sought ≠ name) : (insert record name member).lookup sought = record.lookup sought := by
  have hs : (sought == name) = false := by simp [hne]
  induction record with
  | nil => simp [insert, List.lookup_cons, hs]
  | cons head rest ih =>
    obtain ⟨other, kept⟩ := head
    by_cases h : name = other
    · subst h
      simp [insert, List.lookup_cons, hs]
    · by_cases h' : name < other
      · simp [insert, h, h', List.lookup_cons, hs]
      · simp only [insert, if_neg h, if_neg h', List.lookup_cons, ih]

end Record
end Condition
