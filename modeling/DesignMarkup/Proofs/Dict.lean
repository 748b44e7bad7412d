import DesignMarkup.Dict
/-!
What stands in a map: an entry is found under its key if keys ascend, entries that are inserted one
after another add their keys and are all kept if these are distinct, and a value can be changed in its
place. Of the entries of a kind, the last one is that with none of the kind after it.
-/
namespace DesignMarkup.Dict
variable {α : Type}

theorem get?_of_mem {d : Dict α} (sorted : d.Sorted) {key : String} {value : α}
    (member : (key, value) ∈ d) : d.get? key = some value := by
  induction d with
  | nil => exact nomatch member
  | cons entry rest ih =>
    obtain ⟨k, v⟩ := entry
    obtain ⟨before, sorted⟩ := List.pairwise_cons.1 sorted
    rw [get?]
    rcases List.mem_cons.1 member with same | later
    · obtain ⟨rfl, rfl⟩ := Prod.mk.inj same
      rw [if_pos rfl]
    · have lower : k < key := before key (List.mem_map_of_mem later)
      rw [if_neg fun same => String.lt_irrefl _ (same ▸ lower)]
      exact ih sorted later

theorem mem_of_get? {d : Dict α} {key : String} {value : α} (found : d.get? key = some value) :
    (key, value) ∈ d := by
  induction d with
  | nil => exact nomatch found
  | cons entry rest ih =>
    obtain ⟨k, v⟩ := entry
    rw [get?] at found
    split at found
    · rename_i same
      obtain rfl := Option.some.inj found
      rw [same]
      exact List.mem_cons_self
    · exact List.mem_cons_of_mem _ (ih found)

theorem contains_iff {d : Dict α} {key : String} : d.contains key = true ↔ key ∈ d.keys := by
  induction d with
  | nil => simp [contains, get?, keys]
  | cons entry rest ih =>
    obtain ⟨k, v⟩ := entry
    by_cases here : k = key
    · simp [contains, get?, keys, here]
    · simpa [contains, get?, keys, here, Ne.symm here] using ih

theorem mem_keys_insert_iff {d : Dict α} {key other : String} {value : α} :
    other ∈ (d.insert key value).keys ↔ other = key ∨ other ∈ d.keys := by
  rw [← contains_iff, ← contains_iff, contains, contains, get?_insert]
  by_cases same : key = other
  · simp [same]
  · simp [same, Ne.symm same]

theorem mem_keys_insertions (d : Dict α) (entries : List (String × α)) {key : String} :
    key ∈ (entries.foldl (fun d entry => d.insert entry.1 entry.2) d).keys ↔
      key ∈ d.keys ∨ key ∈ entries.map Prod.fst := by
  induction entries generalizing d with
  | nil => simp
  | cons entry rest ih =>
    rw [List.foldl_cons, ih, mem_keys_insert_iff, List.map_cons, List.mem_cons, or_assoc, or_left_comm]

theorem get?_eq_none_iff {d : Dict α} {key : String} : d.get? key = none ↔ key ∉ d.keys := by
  rw [← contains_iff, contains]
  cases d.get? key <;> simp

theorem get?_insertions {entries : List (String × α)} (distinct : (keys entries).Nodup) (d : Dict α)
    (key : String) :
    get? (entries.foldl (fun d entry => d.insert entry.1 entry.2) d) key =
      (get? entries key).or (d.get? key) := by
  induction entries generalizing d with
  | nil => rfl
  | cons entry rest ih =>
    obtain ⟨k, v⟩ := entry
    obtain ⟨apart, later⟩ := List.nodup_cons.1 distinct
    rw [List.foldl_cons, ih later, get?_insert, get?]
    by_cases here : k = key
    · have none : get? rest key = none := get?_eq_none_iff.2 (here ▸ apart)
      rw [if_pos here, if_pos here, none]
      rfl
    · rw [if_neg here, if_neg here]

theorem get?_insertions_const (ks : List String) (value : α) (d : Dict α) (key : String) :
    get? ((ks.map (·, value)).foldl (fun d entry => d.insert entry.1 entry.2) d) key =
      if key ∈ ks then some value else d.get? key := by
  induction ks generalizing d with
  | nil => simp
  | cons k rest ih =>
    rw [List.map_cons, List.foldl_cons, ih, get?_insert]
    by_cases later : key ∈ rest
    · simp [later]
    · simp [later, eq_comm]

theorem get?_filter_key (keeps : String → Bool) (d : Dict α) (key : String) :
    get? (d.filter fun entry => keeps entry.1) key = if keeps key then d.get? key else none := by
  induction d with
  | nil => simp [get?]
  | cons entry rest ih =>
    obtain ⟨k, v⟩ := entry
    by_cases kept : keeps k
    · by_cases here : k = key
      · simp [get?, here, here ▸ kept]
      · simp [get?, kept, here, ih]
    · by_cases here : k = key
      · simp [kept, ih, here ▸ kept]
      · simp [get?, kept, here, ih]

theorem Sorted.keys_nodup {d : Dict α} (sorted : d.Sorted) : d.keys.Nodup := by
  apply List.Pairwise.imp _ sorted
  intro k other lower same
  exact String.lt_irrefl _ (same ▸ lower)

theorem Sorted.filter_key {d : Dict α} (sorted : d.Sorted) (key : String) :
    d.filter (·.1 = key) = ((d.get? key).map (key, ·)).toList := by
  induction d with
  | nil => rfl
  | cons entry rest ih =>
    obtain ⟨k, v⟩ := entry
    obtain ⟨below, later⟩ := List.pairwise_cons.1 sorted
    by_cases here : k = key
    · have none : get? rest key = none := by
        rw [get?_eq_none_iff]
        intro again
        exact String.lt_irrefl _ (here ▸ below key again)
      simp [get?, here, ih later, none]
    · simp [get?, here, ih later]

theorem get?_mapValues {β : Type} (f : α → β) (d : Dict α) (key : String) :
    (d.mapValues f).get? key = (d.get? key).map f := by
  induction d with
  | nil => rfl
  | cons entry rest ih =>
    rw [mapValues, List.map_cons, get?, get?]
    by_cases here : entry.1 = key
    · rw [if_pos here, if_pos here]
      rfl
    · rw [if_neg here, if_neg here]
      exact ih

theorem insert_perm {d : Dict α} {key : String} (value : α) (new : key ∉ d.keys) :
    (d.insert key value).Perm ((key, value) :: d) := by
  induction d with
  | nil => exact .refl _
  | cons entry rest ih =>
    obtain ⟨k, v⟩ := entry
    rw [keys, List.map_cons, List.mem_cons, not_or] at new
    rw [insert]
    split
    · exact .refl _
    · rw [if_neg new.1]
      exact ((ih new.2).cons (k, v)).trans (.swap ..)

theorem insertions_perm {d : Dict α} {entries : List (String × α)}
    (distinct : (keys (d ++ entries)).Nodup) :
    (entries.foldl (fun d entry => d.insert entry.1 entry.2) d).Perm (d ++ entries) := by
  induction entries generalizing d with
  | nil => rw [List.foldl_nil, List.append_nil]
  | cons entry rest ih =>
    have moved : (entry :: d ++ rest).Perm (d ++ entry :: rest) := List.perm_middle.symm
    have apart : (keys (entry :: d ++ rest)).Nodup := (moved.map Prod.fst).nodup_iff.2 distinct
    have new : entry.1 ∉ d.keys := by
      intro old
      have here : d.keys ⊆ keys (d ++ rest) := List.map_subset _ (List.subset_append_left d rest)
      exact (List.nodup_cons.1 apart).1 (here old)
    have added : (d.insert entry.1 entry.2 ++ rest).Perm (entry :: d ++ rest) :=
      (insert_perm entry.2 new).append_right rest
    rw [List.foldl_cons]
    exact (ih ((added.map Prod.fst).nodup_iff.2 apart)).trans (added.trans moved)

theorem ofList_perm {entries : List (String × α)} (distinct : (keys entries).Nodup) :
    (ofList entries).Perm entries :=
  insertions_perm (d := []) distinct

theorem sorted_insertions {d : Dict α} (sorted : d.Sorted) (entries : List (String × α)) :
    (entries.foldl (fun d entry => d.insert entry.1 entry.2) d).Sorted := by
  induction entries generalizing d with
  | nil => exact sorted
  | cons entry rest ih => exact ih (sorted.insert entry.1 entry.2)

theorem ofList_sorted (entries : List (String × α)) : (ofList entries).Sorted :=
  sorted_insertions (d := []) List.Pairwise.nil entries

def adjust (key : String) (f : α → α) (d : Dict α) : Dict α :=
  d.map fun entry => (entry.1, if entry.1 = key then f entry.2 else entry.2)

theorem keys_adjust (key : String) (f : α → α) (d : Dict α) : (d.adjust key f).keys = d.keys := by
  simp [keys, adjust]

theorem get?_adjust (key : String) (f : α → α) (d : Dict α) (k : String) :
    (d.adjust key f).get? k = (d.get? k).map fun v => if k = key then f v else v := by
  induction d with
  | nil => rfl
  | cons entry rest ih =>
    simp only [adjust, List.map_cons, get?]
    by_cases here : entry.1 = k
    · rw [if_pos here, if_pos here, here]
      rfl
    · rw [if_neg here, if_neg here]
      exact ih

theorem adjust_id (key : String) (d : Dict α) : d.adjust key id = d := by
  simp [adjust]

end DesignMarkup.Dict
