/-! # Maps from names

`NameMap α` is a finite map from names to values, held as its entries in ascending order of the
name. The order is part of the type, so two maps that answer every look-up alike are equal, and a
map keeps no trace of the order in which it was filled. -/

namespace CubeAssessment

/-- Put an entry into ascending entries; an entry of the same name is replaced. -/
def insertEntry {α : Type} (name : String) (value : α) :
    List (String × α) → List (String × α)
  | [] => [(name, value)]
  | entry :: rest =>
      if name < entry.1 then (name, value) :: entry :: rest
      else if entry.1 < name then entry :: insertEntry name value rest
      else (name, value) :: rest

/-- The names of `insertEntry` are the given one and those already there. -/
theorem fst_of_mem_insertEntry {α : Type} {name : String} {value : α} {entry : String × α}
    {entries : List (String × α)} (h : entry ∈ insertEntry name value entries) :
    entry.1 = name ∨ entry ∈ entries := by
  induction entries with
  | nil =>
      rw [insertEntry, List.mem_singleton] at h
      exact Or.inl (by rw [h])
  | cons head rest ih =>
      rw [insertEntry] at h
      split at h
      · rcases List.mem_cons.mp h with rfl | h
        · exact Or.inl rfl
        · exact Or.inr h
      · split at h
        · rcases List.mem_cons.mp h with rfl | h
          · exact Or.inr List.mem_cons_self
          · exact (ih h).imp_right (List.mem_cons_of_mem _)
        · rcases List.mem_cons.mp h with rfl | h
          · exact Or.inl rfl
          · exact Or.inr (List.mem_cons_of_mem _ h)

/-- Inserting keeps the names strictly ascending. -/
theorem pairwise_insertEntry {α : Type} (name : String) (value : α)
    {entries : List (String × α)} (h : entries.Pairwise (fun a b => a.1 < b.1)) :
    (insertEntry name value entries).Pairwise (fun a b => a.1 < b.1) := by
  induction entries with
  | nil => exact List.pairwise_singleton _ _
  | cons head rest ih =>
      obtain ⟨hhead, hrest⟩ := List.pairwise_cons.mp h
      rw [insertEntry]
      split
      · next hlt =>
        refine List.pairwise_cons.mpr ⟨fun entry hmem => ?_, h⟩
        rcases List.mem_cons.mp hmem with rfl | hmem
        · exact hlt
        · exact String.lt_trans hlt (hhead entry hmem)
      · next hnlt =>
        split
        · next hgt =>
          refine List.pairwise_cons.mpr ⟨fun entry hmem => ?_, ih hrest⟩
          rcases fst_of_mem_insertEntry hmem with heq | hmem
          · rw [heq]; exact hgt
          · exact hhead entry hmem
        · next hngt =>
          have heq : name = head.1 :=
            String.le_antisymm (String.not_lt.mp hngt) (String.not_lt.mp hnlt)
          refine List.pairwise_cons.mpr ⟨fun entry hmem => ?_, hrest⟩
          rw [heq]
          exact hhead entry hmem

/-- **A finite map from names**, held as its entries in ascending order of the name. -/
structure NameMap (α : Type) where
  /-- The entries, one for each name of the map. -/
  entries : List (String × α)
  /-- The names ascend strictly, hence none occurs twice. -/
  pairwise_entries : entries.Pairwise (fun a b => a.1 < b.1)
  deriving DecidableEq, Repr

namespace NameMap

variable {α : Type}

/-- The map without entries. -/
def empty : NameMap α := ⟨[], List.Pairwise.nil⟩

instance : Inhabited (NameMap α) := ⟨empty⟩

/-- The value of a name. -/
def find? (m : NameMap α) (name : String) : Option α := m.entries.lookup name

/-- Give a name a value, in place of the one it may have. -/
def insert (m : NameMap α) (name : String) (value : α) : NameMap α :=
  ⟨insertEntry name value m.entries, pairwise_insertEntry name value m.pairwise_entries⟩

/-- The names of the map, ascending. -/
def names (m : NameMap α) : List String := m.entries.map (·.1)

/-- The values of the map, in the order of their names. -/
def values (m : NameMap α) : List α := m.entries.map (·.2)

/-- The number of names. -/
def size (m : NameMap α) : Nat := m.entries.length

/-- The map of a list of pairs; of several pairs with one name the last counts. -/
def ofList (pairs : List (String × α)) : NameMap α :=
  pairs.foldl (fun m pair => m.insert pair.1 pair.2) empty

@[ext] theorem ext {m m' : NameMap α} (h : m.entries = m'.entries) : m = m' := by
  cases m; cases m'; cases h; rfl

@[simp] theorem entries_empty : (empty : NameMap α).entries = [] := rfl

@[simp] theorem entries_insert (m : NameMap α) (name : String) (value : α) :
    (m.insert name value).entries = insertEntry name value m.entries := rfl

end NameMap

end CubeAssessment
