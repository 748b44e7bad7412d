/-!
Maps from strings as lists in ascending key order. `insert` keeps the order and one entry per key,
so a map built by `insert` does not show the order in which it was filled.
-/
namespace DesignMarkup

abbrev Dict (α : Type) := List (String × α)

namespace Dict
variable {α β : Type}

def get? : Dict α → String → Option α
  | [], _ => none
  | (k, v) :: rest, key => if k = key then some v else get? rest key

def contains (d : Dict α) (key : String) : Bool := (get? d key).isSome

def insert : Dict α → String → α → Dict α
  | [], key, value => [(key, value)]
  | (k, v) :: rest, key, value =>
    if key < k then (key, value) :: (k, v) :: rest
    else if key = k then (key, value) :: rest
    else (k, v) :: insert rest key value

def erase : Dict α → String → Dict α
  | [], _ => []
  | (k, v) :: rest, key => if k = key then rest else (k, v) :: erase rest key

/-- Of several entries with one key the last counts. -/
def ofList (entries : List (String × α)) : Dict α :=
  entries.foldl (fun d entry => insert d entry.1 entry.2) []

def keys (d : Dict α) : List String := d.map Prod.fst

def mapValues (f : α → β) (d : Dict α) : Dict β := d.map fun entry => (entry.1, f entry.2)

def Sorted (d : Dict α) : Prop := (keys d).Pairwise (· < ·)

theorem get?_insert (d : Dict α) (key other : String) (value : α) :
    get? (insert d key value) other = if key = other then some value else get? d other := by
  induction d with
  | nil => simp [insert, get?]
  | cons entry rest ih =>
    obtain ⟨k, v⟩ := entry
    simp only [insert]
    split
    · simp [get?]
    · split <;> grind [get?]

theorem mem_insert {d : Dict α} {key : String} {value : α} {entry : String × α}
    (h : entry ∈ insert d key value) : entry = (key, value) ∨ entry ∈ d := by
  induction d with
  | nil => simpa [insert] using h
  | cons first rest ih =>
    obtain ⟨k, v⟩ := first
    simp only [insert] at h
    split at h
    · simpa using h
    · split at h <;> grind

theorem mem_keys_insert {d : Dict α} {key other : String} {value : α}
    (h : other ∈ keys (insert d key value)) : other = key ∨ other ∈ keys d := by
  induction d with
  | nil => simpa [insert, keys] using h
  | cons entry rest ih =>
    obtain ⟨k, v⟩ := entry
    simp only [insert] at h
    split at h
    · simpa [keys] using h
    · split at h <;> grind [keys]

theorem Sorted.insert {d : Dict α} (h : Sorted d) (key : String) (value : α) :
    Sorted (insert d key value) := by
  induction d with
  | nil => simp [Sorted, Dict.insert, keys]
  | cons entry rest ih =>
    obtain ⟨k, v⟩ := entry
    simp only [Sorted, keys, List.map_cons, List.pairwise_cons] at h
    obtain ⟨below, sorted⟩ := h
    simp only [Dict.insert, Sorted, keys]
    split
    · rename_i lt
      simp only [List.map_cons, List.pairwise_cons, List.mem_cons]
      exact ⟨fun b hb => hb.elim (· ▸ lt) fun hb => String.lt_trans lt (below b hb), below, sorted⟩
    · split
      · rename_i eq
        subst eq
        exact List.pairwise_cons.2 ⟨below, sorted⟩
      · rename_i notLt ne
        have lt : k < key :=
          String.not_le.1 fun le => ne (String.le_antisymm le (String.not_lt.1 notLt))
        refine List.pairwise_cons.2 ⟨fun b hb => ?_, ih sorted⟩
        rcases mem_keys_insert hb with rfl | hb
        · exact lt
        · exact below b hb

end Dict
end DesignMarkup
