/-!
# Tables

Pairs of a key and a value in which a key occurs once.

* `Table.insert` — a value put under a key.  A key that is there keeps its place.
* `Table.ofPairs` — the table of a list of pairs.
* `Table.find?` — the value under a key.
* `Table.find?_insert` — what is found after an insertion.
-/

namespace ChipEight

/-- Pairs of a key and a value, in the order in which the keys first came. -/
abbrev Table (α β : Type) := List (α × β)

namespace Table

variable {α β : Type} [DecidableEq α]

/-- The table with a value under a key: in the place of the key if it is there, otherwise last. -/
def insert (table : Table α β) (key : α) (value : β) : Table α β :=
  match table with
  | [] => [(key, value)]
  | (k, v) :: rest =>
    if k = key then (k, value) :: rest else (k, v) :: insert rest key value

/-- The table of some pairs.  A repeated key keeps its first place and takes its last value. -/
def ofPairs (pairs : List (α × β)) : Table α β :=
  pairs.foldl (fun table pair => table.insert pair.1 pair.2) []

/-- The value under a key. -/
def find? (table : Table α β) (key : α) : Option β :=
  match table with
  | [] => none
  | (k, v) :: rest => if k = key then some v else find? rest key

/-- **An insertion changes what is found under its key and nothing else.** -/
theorem find?_insert (table : Table α β) (key other : α) (value : β) :
    (table.insert key value).find? other =
      if key = other then some value else table.find? other := by
  induction table with
  | nil => simp [insert, find?]
  | cons entry rest ih =>
    by_cases hk : entry.1 = key
    · by_cases h : key = other <;> simp [insert, find?, hk, h]
    · by_cases h : entry.1 = other
      · subst h
        simp [insert, find?, hk, Ne.symm hk]
      · simp [insert, find?, hk, h, ih]

end Table

end ChipEight
