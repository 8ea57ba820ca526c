/-!
# Tables

A `Table` holds at most one value for a key, and its keys are in ascending order. The order of the
keys is that of their code points.

## Main definitions

* `Table.set` gives a key a value, `Table.get?` looks one up.
* `Table.ofList` puts keys and values in one after the other, so the last value for a key counts.
-/

namespace LintRun

/-- Values with keys in ascending order. -/
structure Table (α : Type) where
  /-- The keys with their values. -/
  entries : List (String × α)
  /-- Every key is below those behind it. -/
  ascending : entries.Pairwise (·.1 < ·.1)

namespace Table

variable {α : Type}

/-- Gives a key a value in a list of entries. -/
def insert (key : String) (value : α) : List (String × α) → List (String × α)
  | [] => [(key, value)]
  | entry :: rest =>
    if key < entry.1 then (key, value) :: entry :: rest
    else if key = entry.1 then (key, value) :: rest
    else entry :: insert key value rest

/-- The keys after a value was put in are the given key and those that were there. -/
theorem key_of_mem_insert {key : String} {value : α} {entries : List (String × α)}
    {entry : String × α} (h : entry ∈ insert key value entries) :
    entry.1 = key ∨ entry ∈ entries := by
  induction entries with
  | nil => simp_all [insert]
  | cons first rest ih => grind [insert]

/-- Putting a value in keeps the order. -/
theorem pairwise_insert {key : String} {value : α} {entries : List (String × α)}
    (h : entries.Pairwise (·.1 < ·.1)) : (insert key value entries).Pairwise (·.1 < ·.1) := by
  induction entries with
  | nil => simp [insert]
  | cons first rest ih =>
    obtain ⟨hfirst, hrest⟩ := List.pairwise_cons.1 h
    simp only [insert]
    split
    · next hlt =>
      refine List.pairwise_cons.2 ⟨fun entry hentry => ?_, h⟩
      rcases List.mem_cons.1 hentry with rfl | hmem
      · exact hlt
      · exact String.lt_trans hlt (hfirst entry hmem)
    · split
      · next heq =>
        refine List.pairwise_cons.2 ⟨fun entry hentry => ?_, hrest⟩
        exact heq ▸ hfirst entry hentry
      · next hnlt hne =>
        refine List.pairwise_cons.2 ⟨fun entry hentry => ?_, ih hrest⟩
        rcases key_of_mem_insert hentry with hkey | hmem
        · rcases Std.lt_trichotomy key first.1 with hlt | heq | hgt
          · exact absurd hlt hnlt
          · exact absurd heq hne
          · exact hkey ▸ hgt
        · exact hfirst entry hmem

/-- The table without entries. -/
def empty : Table α := ⟨[], List.Pairwise.nil⟩

/-- Gives a key a value. -/
def set (t : Table α) (key : String) (value : α) : Table α :=
  ⟨insert key value t.entries, pairwise_insert t.ascending⟩

/-- The value for a key. -/
def get? (t : Table α) (key : String) : Option α :=
  t.entries.lookup key

/-- The table with the given entries, of which the last for a key counts. -/
def ofList (entries : List (String × α)) : Table α :=
  entries.foldl (fun t entry => t.set entry.1 entry.2) empty

end Table

end LintRun
