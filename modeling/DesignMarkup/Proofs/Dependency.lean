import DesignMarkup.Dependency
import DesignMarkup.Proofs.Lists
/-!
What a set of dependencies holds after any insertions: of each identity the first dependency that was
inserted, in the order in which the identities came first. What was inserted once more is answered for
by that first one, and a set is the same when it is built again from what it holds.
-/
namespace DesignMarkup

theorem Dependency.eq_of_identity {d : Dependency} {key : Identity} (same : d.identity = key) :
    d = ⟨key.component, key.package, d.isDefault⟩ := by
  subst same
  rfl

namespace DependencySet
variable {s t : DependencySet} {d : Dependency} {key : Identity}

theorem eq_of_entries (same : s.entries = t.entries) : s = t := by
  cases s
  cases t
  cases same
  rfl

theorem find?_eq_some : s.find? key = some d ↔ d ∈ s.entries ∧ d.identity = key := by
  have one := filter_key s.unique key
  rw [find?, ← Option.mem_toList, ← one, List.mem_filter, decide_eq_true_eq]

theorem find?_eq_none : s.find? key = none ↔ key ∉ s.entries.map Dependency.identity := by
  simp [find?]

theorem insert_new (new : s.find? d.identity = none) :
    (s.insert d).1.entries = s.entries ++ [d] ∧ (s.insert d).2 = .inserted := by
  unfold insert
  split
  · exact ⟨rfl, rfl⟩
  · rename_i found
    rw [new] at found
    cases found

theorem insert_again {e : Dependency} (found : s.find? d.identity = some e) :
    s.insert d = (s, if e.isDefault = d.isDefault then .duplicate else .conflict e.isDefault) := by
  unfold insert
  split
  · rename_i new
    rw [found] at new
    cases new
  · rename_i other
    rw [found] at other
    cases other
    rfl

theorem find?_insert (s : DependencySet) (d : Dependency) (key : Identity) :
    (s.insert d).1.find? key = (s.find? key).or ([d].find? (·.identity = key)) := by
  cases found : s.find? d.identity with
  | none =>
    rw [find?, (insert_new found).1, List.find?_append]
    rfl
  | some e =>
    rw [insert_again found]
    by_cases same : d.identity = key
    · rw [← same, found]
      rfl
    · simp [same]

theorem identities_insert (s : DependencySet) (d : Dependency) :
    (s.insert d).1.entries.map Dependency.identity =
      if d.identity ∈ s.entries.map Dependency.identity then s.entries.map Dependency.identity
      else s.entries.map Dependency.identity ++ [d.identity] := by
  cases found : s.find? d.identity with
  | none => rw [(insert_new found).1, if_neg (find?_eq_none.1 found), List.map_append]; rfl
  | some e =>
    have known : d.identity ∈ s.entries.map Dependency.identity := by
      by_contra absent
      rw [find?_eq_none.2 absent] at found
      cases found
    rw [insert_again found, if_pos known]

def insertAll (s : DependencySet) (more : List Dependency) : DependencySet :=
  more.foldl (fun s d => (s.insert d).1) s

theorem ofList_eq (ds : List Dependency) : ofList ds = empty.insertAll ds := rfl

theorem ofList_append (ds more : List Dependency) : ofList (ds ++ more) = (ofList ds).insertAll more :=
  List.foldl_append

theorem find?_insertAll (s : DependencySet) (more : List Dependency) (key : Identity) :
    (s.insertAll more).find? key = (s.find? key).or (more.find? (·.identity = key)) := by
  induction more generalizing s with
  | nil => exact (Option.or_none).symm
  | cons d rest ih =>
    calc (s.insertAll (d :: rest)).find? key
      _ = ((s.insert d).1.find? key).or (rest.find? (·.identity = key)) := ih (s.insert d).1
      _ = (s.find? key).or (([d].find? (·.identity = key)).or (rest.find? (·.identity = key))) := by
        rw [find?_insert, Option.or_assoc]
      _ = (s.find? key).or ((d :: rest).find? (·.identity = key)) := by
        rw [← List.find?_append, List.singleton_append]

theorem insertAll_again {more : List Dependency} (known : ∀ d ∈ more, s.find? d.identity ≠ none) :
    s.insertAll more = s := by
  induction more with
  | nil => rfl
  | cons d rest ih =>
    rw [List.forall_mem_cons] at known
    obtain ⟨e, found⟩ := Option.ne_none_iff_exists'.1 known.1
    calc s.insertAll (d :: rest)
      _ = (s.insert d).1.insertAll rest := rfl
      _ = s.insertAll rest := by rw [insert_again found]
      _ = s := ih known.2

theorem insertAll_new {more : List Dependency}
    (unique : ((s.entries ++ more).map Dependency.identity).Nodup) :
    (s.insertAll more).entries = s.entries ++ more := by
  induction more generalizing s with
  | nil => exact (List.append_nil _).symm
  | cons d rest ih =>
    have new : d.identity ∉ s.entries.map Dependency.identity := by
      rw [List.map_append, List.nodup_append] at unique
      exact fun old => unique.2.2 _ old _ (by simp) rfl
    have entries := (insert_new (find?_eq_none.2 new)).1
    calc (s.insertAll (d :: rest)).entries
      _ = (s.insert d).1.entries ++ rest := ih (by rw [entries]; simpa using unique)
      _ = s.entries ++ d :: rest := by rw [entries, List.append_assoc, List.singleton_append]

theorem ofList_entries (s : DependencySet) : ofList s.entries = s :=
  eq_of_entries (insertAll_new (s := empty) s.unique)

theorem find?_ofList (ds : List Dependency) (key : Identity) :
    (ofList ds).find? key = ds.find? (·.identity = key) := by
  rw [ofList_eq, find?_insertAll]
  rfl

theorem identities_ofList (ds : List Dependency) :
    (ofList ds).entries.map Dependency.identity = (ds.map Dependency.identity).eraseDups := by
  -- Whether a dependency is new is decided by those before it: the induction takes the last one off.
  induction ds using List.reverseRecOn with
  | nil => rfl
  | append_singleton ds d ih =>
    have last : ofList (ds ++ [d]) = ((ofList ds).insert d).1 := ofList_append ds [d]
    rw [last, identities_insert, List.map_append, List.map_singleton, eraseDups_snoc, ih]
    simp only [List.mem_eraseDups]

end DependencySet

open Json Decode Shape

theorem itemsFrom_map {α : Type} {decode : Decoder α} {encode : α → Json} {o : Origin} {items : List α}
    (reads : ∀ a ∈ items, decode o (encode a) = .ok a) (i : Nat) :
    itemsFrom decode o i (items.map encode) = .ok items := by
  induction items generalizing i with
  | nil => rfl
  | cons a rest ih =>
    rw [List.forall_mem_cons] at reads
    rw [List.map_cons, itemsFrom, reads.1, ih reads.2]
    rfl

theorem Dependency.decode_encode (d : Dependency) (o : Origin) : decode o d.encode = .ok d := rfl

namespace DependencySet

theorem decode_list (ds : List Dependency) (o : Origin) :
    decode o (.array (ds.map Dependency.encode)) = .ok (ofList ds) := by
  have read := itemsFrom_map (fun d (_ : d ∈ ds) => d.decode_encode o) 0
  rw [decode, list, read, Except.map]

theorem decode_encode (s : DependencySet) (o : Origin) : decode o s.encode = .ok s := by
  rw [encode, decode_list, ofList_entries]

/-- What the insertion of `d` answers and does, after the insertions of `before`. -/
structure Answers (before : List Dependency) (d : Dependency) : Prop where
  inserted : ((ofList before).insert d).2 = .inserted ↔
    d.identity ∉ before.map Dependency.identity
  duplicate : ((ofList before).insert d).2 = .duplicate ↔
    ∃ kept, before.find? (·.identity = d.identity) = some kept ∧ kept.isDefault = d.isDefault
  conflict : ∀ keptDefault, ((ofList before).insert d).2 = .conflict keptDefault ↔
    ∃ kept, before.find? (·.identity = d.identity) = some kept ∧
      kept.isDefault = keptDefault ∧ kept.isDefault ≠ d.isDefault
  unchanged : ((ofList before).insert d).2 ≠ .inserted → ((ofList before).insert d).1 = ofList before

theorem answers (before : List Dependency) (d : Dependency) : Answers before d := by
  have found := find?_ofList before d.identity
  cases first : before.find? (·.identity = d.identity) with
  | none =>
    rw [first] at found
    have new : d.identity ∉ before.map Dependency.identity := by simpa using first
    have answer := (insert_new found).2
    constructor <;> simp [answer, new, first]
  | some kept =>
    rw [first] at found
    have old : d.identity ∈ before.map Dependency.identity :=
      List.mem_map.2 ⟨kept, List.mem_of_find?_eq_some first, by simpa using List.find?_some first⟩
    have answer := insert_again found
    by_cases same : kept.isDefault = d.isDefault <;>
      constructor <;> simp [answer, old, first, same]

theorem find?_ne_none_of_mem {ds : List Dependency} {d : Dependency} (member : d ∈ ds) :
    (ofList ds).find? d.identity ≠ none := by
  rw [find?_ofList, Ne, List.find?_eq_none]
  intro absent
  exact absent d member (decide_eq_true rfl)

/-- The set holds the first of the dependencies with each identity, in their order. -/
structure KeepsFirst (ds : List Dependency) (s : DependencySet) : Prop where
  order : s.entries.map Dependency.identity = (ds.map Dependency.identity).eraseDups
  first : ∀ d ∈ s.entries, ds.find? (·.identity = d.identity) = some d
  answers : ∀ before d after, ds = before ++ d :: after → Answers before d
  rebuilt : ∀ again, (∀ d ∈ again, d ∈ ds) → ofList (s.entries ++ again) = s
  read : ∀ o v, list Dependency.decode o v = .ok ds → decode o v = .ok s

end DependencySet

/-- After any insertions a set holds, of each component of a package, the first dependency that was
inserted, in the order of these first ones; each insertion answers by what came before it, and neither what
the set holds nor what was inserted before changes it when it is inserted again. -/
theorem dependencies_keep_first (ds : List Dependency) :
    DependencySet.KeepsFirst ds (DependencySet.ofList ds) where
  order := DependencySet.identities_ofList ds
  first d member := by
    rw [← DependencySet.find?_ofList]
    exact DependencySet.find?_eq_some.2 ⟨member, rfl⟩
  answers before d _ _ := DependencySet.answers before d
  rebuilt again among := by
    rw [DependencySet.ofList_append, DependencySet.ofList_entries]
    exact DependencySet.insertAll_again fun d member =>
      DependencySet.find?_ne_none_of_mem (among d member)
  read o v items := by
    rw [DependencySet.decode, items]
    rfl

example : (DependencySet.ofList
    [⟨"Tag", "ui", false⟩, ⟨"Card", "ui", true⟩, ⟨"Tag", "ui", true⟩]).entries =
      [⟨"Tag", "ui", false⟩, ⟨"Card", "ui", true⟩] := by
  decide

end DesignMarkup
