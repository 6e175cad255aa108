/-!
# Tables under texts

A table holds one entry for each of its keys, in ascending order of the keys.  Texts are ordered
by code points, which is also the order of their bytes.
-/

namespace RuleMetrics.Text

variable {α : Type}

/-- Put an entry in its place among ascending entries.  It replaces one with the same key. -/
def insertEntry (key : String) (a : α) : List (String × α) → List (String × α)
  | [] => [(key, a)]
  | e :: rest =>
    if key < e.1 then (key, a) :: e :: rest
    else if key = e.1 then (key, a) :: rest
    else e :: insertEntry key a rest

/-- Only the new key comes to the keys that were there. -/
theorem key_of_mem_insertEntry {key : String} {a : α} {entries : List (String × α)}
    {e : String × α} (h : e ∈ insertEntry key a entries) : e.1 = key ∨ e ∈ entries := by
  induction entries with
  | nil => simp_all [insertEntry]
  | cons d rest ih =>
    unfold insertEntry at h
    split at h
    · rcases List.mem_cons.mp h with rfl | h
      · exact .inl rfl
      · exact .inr h
    · split at h
      · rcases List.mem_cons.mp h with rfl | h
        · exact .inl rfl
        · exact .inr (List.mem_cons_of_mem _ h)
      · rcases List.mem_cons.mp h with rfl | h
        · exact .inr (List.mem_cons_self ..)
        · exact (ih h).imp id (List.mem_cons_of_mem _)

/-- Keys stay in ascending order. -/
theorem insertEntry_ascending {entries : List (String × α)} (key : String) (a : α)
    (h : entries.Pairwise fun d e => d.1 < e.1) :
    (insertEntry key a entries).Pairwise fun d e => d.1 < e.1 := by
  induction entries with
  | nil => simp [insertEntry]
  | cons d rest ih =>
    obtain ⟨hd, hrest⟩ := List.pairwise_cons.mp h
    unfold insertEntry
    split
    · rename_i hlt
      refine List.pairwise_cons.mpr ⟨fun e he => ?_, h⟩
      rcases List.mem_cons.mp he with rfl | he
      · exact hlt
      · exact String.lt_trans hlt (hd e he)
    · split
      · rename_i heq
        exact List.pairwise_cons.mpr ⟨fun e he => heq ▸ hd e he, hrest⟩
      · rename_i hlt hne
        refine List.pairwise_cons.mpr ⟨fun e he => ?_, ih hrest⟩
        rcases key_of_mem_insertEntry he with hkey | he
        · rw [hkey]
          exact Std.lt_of_le_of_ne (String.not_lt.mp hlt) (Ne.symm hne)
        · exact hd e he

/-- Entries under distinct keys, in ascending order. -/
structure Table (α : Type) where
  entries : List (String × α)
  ascending : entries.Pairwise fun d e => d.1 < e.1

namespace Table

/-- No entries. -/
def empty : Table α := ⟨[], .nil⟩

/-- Put an entry into the table. -/
def insert (t : Table α) (key : String) (a : α) : Table α :=
  ⟨insertEntry key a t.entries, insertEntry_ascending key a t.ascending⟩

/-- The entry under a key. -/
def get? (t : Table α) (key : String) : Option α :=
  t.entries.lookup key

/-- The table of some entries.  Of entries under one key the last counts. -/
def ofList (entries : List (String × α)) : Table α :=
  entries.foldl (fun t e => t.insert e.1 e.2) empty

/-- How often each text occurs. -/
def counts (texts : List String) : Table Nat :=
  texts.foldl (fun t text => t.insert text ((t.get? text).getD 0 + 1)) empty

end Table

end RuleMetrics.Text
