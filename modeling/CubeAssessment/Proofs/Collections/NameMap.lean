import CubeAssessment.Collections.NameMap
import CubeAssessment.Proofs.Collections.Ascending
import CubeAssessment.Proofs.Collections.Last
import Mathlib.Data.List.Induction
import Mathlib.Data.String.Basic

/-! # Name maps as finite maps

A name map is determined by what it answers to look-ups (`eq_of_find?_eq`), and inserting changes
the answer for one name (`find?_insert`). So entries of different names can be inserted in any
order, and of several entries inserted for a name the last is found (`find?_foldl_insert`). -/

namespace CubeAssessment

/-- The first entry answers for its name. -/
theorem lookup_cons_eq_ite {α : Type} (entry : String × α) (rest : List (String × α)) (k : String) :
    (entry :: rest).lookup k = if k = entry.1 then some entry.2 else rest.lookup k := by
  rw [List.lookup_cons]
  by_cases h : k = entry.1
  · rw [if_pos h, beq_iff_eq.mpr h]
  · rw [if_neg h, beq_eq_false_iff_ne.mpr h]

/-- Inserting an entry changes what is found for its name. -/
theorem lookup_insertEntry {α : Type} (name : String) (value : α) (entries : List (String × α))
    (k : String) : (insertEntry name value entries).lookup k =
      if k = name then some value else entries.lookup k := by
  induction entries with
  | nil => exact lookup_cons_eq_ite (name, value) [] k
  | cons head rest ih =>
      rw [insertEntry]
      split
      · exact lookup_cons_eq_ite (name, value) (head :: rest) k
      · next hnlt =>
        split
        · next hgt =>
          rw [lookup_cons_eq_ite, ih, lookup_cons_eq_ite]
          by_cases hname : k = name
          · rw [if_pos hname, if_pos hname, if_neg]
            rw [hname]
            exact (ne_of_lt hgt).symm
          · rw [if_neg hname, if_neg hname]
        · next hngt =>
          -- neither below nor above the head, the name is that of the head
          have heq : name = head.1 := le_antisymm (not_lt.mp hngt) (not_lt.mp hnlt)
          rw [lookup_cons_eq_ite, lookup_cons_eq_ite, heq]
          by_cases hname : k = head.1
          · rw [if_pos hname, if_pos hname]
          · rw [if_neg hname, if_neg hname, if_neg hname]

/-- An entry whose name is above all others is put last. -/
theorem insertEntry_of_forall_lt {α : Type} {name : String} {value : α}
    {entries : List (String × α)} (h : ∀ entry ∈ entries, entry.1 < name) :
    insertEntry name value entries = entries ++ [(name, value)] := by
  induction entries with
  | nil => rfl
  | cons head rest ih =>
      obtain ⟨hhead, hrest⟩ := List.forall_mem_cons.mp h
      rw [insertEntry, if_neg (lt_asymm hhead), if_pos hhead, ih hrest, List.cons_append]

namespace NameMap

variable {α : Type}

/-- **Inserting changes the answer for one name.** -/
theorem find?_insert (m : NameMap α) (name : String) (value : α) (k : String) :
    (m.insert name value).find? k = if k = name then some value else m.find? k :=
  lookup_insertEntry name value m.entries k

/-- A name is found with the value it has among the entries. -/
theorem find?_eq_some_iff {m : NameMap α} {name : String} {value : α} :
    m.find? name = some value ↔ (name, value) ∈ m.entries := by
  rw [find?, List.lookup_eq_some_iff]
  constructor
  · rintro ⟨front, back, hentries, -⟩
    rw [hentries]
    exact List.mem_append_right _ List.mem_cons_self
  · intro hmem
    obtain ⟨front, back, hentries⟩ := List.append_of_mem hmem
    refine ⟨front, back, hentries, fun entry hentry => ?_⟩
    -- names in front are smaller, so the entry is the first of its name
    have hlt : entry.1 < name := by
      have hpairwise := m.pairwise_entries
      rw [hentries] at hpairwise
      exact (List.pairwise_append.mp hpairwise).2.2 entry hentry _ List.mem_cons_self
    exact bne_iff_ne.mpr (ne_of_lt hlt).symm

/-- The names of a map are those for which a value is found. -/
theorem mem_names_iff {m : NameMap α} {name : String} :
    name ∈ m.names ↔ ∃ value, m.find? name = some value := by
  simp only [names, find?_eq_some_iff, List.mem_map, Prod.exists, exists_and_right,
    exists_eq_right]

/-- **Maps that answer every look-up alike are equal.** -/
theorem eq_of_find?_eq {m m' : NameMap α} (h : ∀ name, m.find? name = m'.find? name) : m = m' := by
  refine ext (eq_of_pairwise (fun a b hab hba => lt_asymm hab hba) m.pairwise_entries
    m'.pairwise_entries fun entry => ?_)
  rw [← find?_eq_some_iff, ← find?_eq_some_iff, h]

/-! ## Many insertions -/

/-- **Of several values inserted for a name the last is found.** -/
theorem find?_foldl_insert {β : Type} (name : β → String) (value : β → α) (xs : List β)
    (m : NameMap α) (k : String) :
    (xs.foldl (fun m x => m.insert (name x) (value x)) m).find? k =
      ((xs.findRev? fun x => name x == k).map value).or (m.find? k) := by
  induction xs using List.reverseRecOn with
  | nil => rfl
  | append_singleton xs x ih =>
      rw [List.foldl_concat, find?_insert, findRev?_concat, ih]
      by_cases hk : k = name x
      · simp [hk]
      · have hne : ¬ (name x == k) = true := fun h => hk (eq_of_beq h).symm
        rw [if_neg hk, if_neg hne]

/-- Pairs in ascending order of their names are the entries of their map. -/
theorem entries_ofList {pairs : List (String × α)} (h : pairs.Pairwise fun a b => a.1 < b.1) :
    (ofList pairs).entries = pairs := by
  induction pairs using List.reverseRecOn with
  | nil => rfl
  | append_singleton pairs pair ih =>
      obtain ⟨hpairs, -, hlast⟩ := List.pairwise_append.mp h
      have hlt : ∀ entry ∈ pairs, entry.1 < pair.1 := fun entry hentry =>
        hlast entry hentry pair List.mem_cons_self
      rw [ofList, List.foldl_concat, ← ofList, entries_insert, ih hpairs,
        insertEntry_of_forall_lt hlt]

/-- **A map is the map of its entries.** -/
@[simp] theorem ofList_entries (m : NameMap α) : ofList m.entries = m :=
  ext (entries_ofList m.pairwise_entries)

/-! ## The order of insertions -/

/-- Entries of different names can be inserted in either order. -/
theorem insert_comm (m : NameMap α) {name name' : String} (h : name ≠ name') (value value' : α) :
    (m.insert name value).insert name' value' = (m.insert name' value').insert name value := by
  refine eq_of_find?_eq fun k => ?_
  rw [find?_insert, find?_insert, find?_insert, find?_insert]
  by_cases hk : k = name
  · rw [if_pos hk, if_pos hk, if_neg (hk.trans_ne h)]
  · rw [if_neg hk, if_neg hk]

/-- **Entries of pairwise different names can be inserted in any order.** -/
theorem foldl_insert_perm {β : Type} {name : β → String} {value : β → α} {xs ys : List β}
    (h : xs.Perm ys) (hnames : (xs.map name).Nodup) (m : NameMap α) :
    xs.foldl (fun m x => m.insert (name x) (value x)) m =
      ys.foldl (fun m x => m.insert (name x) (value x)) m := by
  refine h.foldl_eq' (fun x hx y hy m => ?_) m
  by_cases hxy : name x = name y
  · rw [List.inj_on_of_nodup_map hnames hx hy hxy]
  · exact insert_comm m hxy (value x) (value y)

/-- A map does not keep the order of the pairs it is made of. -/
theorem ofList_perm {pairs pairs' : List (String × α)} (h : pairs.Perm pairs')
    (hnames : (pairs.map Prod.fst).Nodup) : ofList pairs = ofList pairs' :=
  foldl_insert_perm h hnames empty

end NameMap

end CubeAssessment
