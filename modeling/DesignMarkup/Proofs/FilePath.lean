import DesignMarkup.FilePath
import DesignMarkup.Proofs.Dict
import DesignMarkup.Proofs.Lists
import DesignMarkup.Proofs.Text.Pieces
/-!
Paths by their segments, the pieces between slashes. All components of a path are names exactly if it is
relative, does not begin with a dot segment and goes up nowhere; its name is the last segment that is
none of the idle ones.
-/
namespace DesignMarkup.FilePath

def segments (path : String) : List String := Text.split path '/'

/-- The name at the end of the path is a part that is not empty, a point and the extension. -/
def HasExtension (path extension : String) : Prop :=
  ∃ before stem after, segments path = before ++ (stem ++ "." ++ extension) :: after ∧
    stem ≠ "" ∧ '.' ∉ extension.toList ∧ ∀ segment ∈ after, isIdle segment = true

theorem startsWith_slash (path : String) :
    Text.startsWith path "/" = true ↔ path.toList.head? = some '/' := Text.startsWith_char rfl path

theorem headD_segments (path : String) :
    (segments path).headD "" = "." ↔ (segments path).head? = some "." := by
  cases segments path with
  | nil => simp
  | cons first rest => simp

theorem componentOf_isNormal (name : String) : (componentOf name).isNormal = true ↔ name ≠ ".." := by
  unfold componentOf
  split
  · rename_i up
    simp [Component.isNormal, up]
  · rename_i other
    simp [Component.isNormal, other]

theorem components_normal_iff (path : String) :
    (components path).all (·.isNormal) = true ↔
      path.toList.head? ≠ some '/' ∧ (segments path).head? ≠ some "." ∧ ".." ∉ segments path := by
  have names : (((segments path).filter (!isIdle ·)).map componentOf).all (·.isNormal) = true ↔
      ".." ∉ segments path := by
    rw [List.all_map, List.all_eq_true]
    constructor
    · intro normal up
      have kept : ".." ∈ (segments path).filter (!isIdle ·) := List.mem_filter.2 ⟨up, rfl⟩
      exact (componentOf_isNormal "..").1 (normal ".." kept) rfl
    · intro level name kept
      apply (componentOf_isNormal name).2
      intro up
      exact level (up ▸ (List.mem_filter.1 kept).1)
  rw [components, List.all_append, Bool.and_eq_true, ← segments, names, Ne, ← startsWith_slash]
  by_cases absolute : Text.startsWith path "/" = true
  · simp [absolute, Component.isNormal]
  · rw [if_neg absolute]
    by_cases dot : (segments path).head? = some "."
    · rw [if_pos ((headD_segments path).2 dot)]
      simp [dot, Component.isNormal]
    · rw [if_neg (mt (headD_segments path).1 dot)]
      simp [absolute, dot]

theorem fileName?_eq (path : String) : fileName? path =
    ((segments path).filter (!isIdle ·)).getLast?.filter (· ≠ "..") := by
  unfold fileName? components
  dsimp only
  rw [← segments, List.getLast?_append, List.getLast?_map]
  cases ((segments path).filter (!isIdle ·)).getLast? with
  | none =>
    -- Without a name the path ends in the root or in a dot.
    split
    · rename_i other
      split at other
      · simp at other
      · split at other <;> simp at other
    · rfl
  | some name =>
    rw [Option.map_some, Option.some_or]
    by_cases up : name = ".."
    · simp [componentOf, up, Option.filter_some]
    · simp [componentOf, up, Option.filter_some]

theorem fileName?_eq_some {path name : String} :
    fileName? path = some name ↔
      ∃ before after, segments path = before ++ name :: after ∧ isIdle name = false ∧ name ≠ ".." ∧
        ∀ segment ∈ after, isIdle segment = true := by
  rw [fileName?_eq, Option.filter_eq_some_iff, getLast?_filter_eq_some]
  simp only [Bool.not_eq_true', Bool.not_eq_false', decide_eq_true_eq]
  constructor
  · intro ⟨⟨before, after, split, busy, idle⟩, level⟩
    exact ⟨before, after, split, busy, level, idle⟩
  · intro ⟨before, after, split, busy, level, idle⟩
    exact ⟨⟨before, after, split, busy, idle⟩, level⟩

theorem named_with_extension {stem extension : String} (filled : stem ≠ "") (extended : extension ≠ "") :
    isIdle (stem ++ "." ++ extension) = false ∧ stem ++ "." ++ extension ≠ ".." := by
  obtain ⟨c, front, chars⟩ : ∃ c front, stem.toList = c :: front :=
    List.exists_cons_of_ne_nil fun none => filled (String.toList_eq_nil_iff.1 none)
  obtain ⟨d, back, others⟩ : ∃ d back, extension.toList = d :: back :=
    List.exists_cons_of_ne_nil fun none => extended (String.toList_eq_nil_iff.1 none)
  have dot : ".".toList = ['.'] := rfl
  have long : 3 ≤ (stem ++ "." ++ extension).toList.length := by
    simp [chars, others, dot]
    omega
  have apart (name : String) (short : name.toList.length < 3) : stem ++ "." ++ extension ≠ name := by
    intro same
    rw [same] at long
    omega
  constructor
  · rw [isIdle, Bool.or_eq_false_iff, beq_eq_false_iff_ne]
    constructor
    · rw [← Bool.not_eq_true, String.isEmpty_iff]
      exact apart "" (by decide)
    · exact apart "." (by decide)
  · exact apart ".." (by decide)

theorem extension?_eq_some {path extension : String} (extended : extension ≠ "") :
    extension? path = some extension ↔ HasExtension path extension := by
  have cut (name stem : String) : Text.splitLast? name '.' = some (stem, extension) ↔
      name = stem ++ "." ++ extension ∧ '.' ∉ extension.toList := by
    rw [Text.splitLast?_eq_some, ← String.toList_inj]
    simp
  constructor
  · intro found
    unfold extension? at found
    split at found
    · rename_i stem last split
      obtain ⟨name, named, parts⟩ := Option.bind_eq_some_iff.1 split
      split at found
      · cases found
      · rename_i filled
        obtain rfl := Option.some.inj found
        obtain ⟨rfl, free⟩ := (cut name stem).1 parts
        obtain ⟨before, after, whole, _, _, idle⟩ := fileName?_eq_some.1 named
        exact ⟨before, stem, after, whole, fun none => filled (by simp [none]), free, idle⟩
    · cases found
  · intro ⟨before, stem, after, whole, filled, free, idle⟩
    obtain ⟨busy, level⟩ := named_with_extension filled extended
    have named := fileName?_eq_some.2 ⟨before, after, whole, busy, level, idle⟩
    have parts := (cut (stem ++ "." ++ extension) stem).2 ⟨rfl, free⟩
    have kept : stem.isEmpty = false := by
      rw [← Bool.not_eq_true, String.isEmpty_iff]
      exact filled
    rw [extension?, named, Option.bind_some, parts]
    simp [kept]

theorem segments_slash (front back : List Char) :
    segments (String.ofList (front ++ '/' :: back)) =
      segments (String.ofList front) ++ segments (String.ofList back) := by
  simp only [segments, Text.split, String.toList_ofList, ← List.map_append]
  rw [Text.splitBy_append front rfl]

theorem segments_join {directory path : String} (named : directory ≠ "")
    (relative : path.toList.head? ≠ some '/') :
    ∃ front, segments (join directory path) = front ++ segments path ∧
      (segments directory = front ∨ segments directory = front ++ [""]) ∧
      (join directory path).toList.head? = directory.toList.head? := by
  have slash : "/".toList = ['/'] := rfl
  have notRooted : ¬ (Text.startsWith path "/" = true ∨ directory = "") := by
    rw [startsWith_slash]
    exact not_or_intro relative named
  unfold join
  rw [if_neg notRooted]
  by_cases ended : Text.endsWith directory "/" = true
  · rw [if_pos ended]
    rw [Text.endsWith, slash, List.isSuffixOf_iff_suffix] at ended
    obtain ⟨front, chars⟩ := ended
    have folder : directory = String.ofList (front ++ '/' :: []) := by
      rw [chars, String.ofList_toList]
    have joined : directory ++ path = String.ofList (front ++ '/' :: path.toList) := by
      rw [← String.toList_inj]
      simp [← chars]
    refine ⟨segments (String.ofList front), ?_, ?_, ?_⟩
    · rw [joined, segments_slash, String.ofList_toList]
    · right
      rw [folder, segments_slash]
      rfl
    · rw [joined, ← chars]
      cases front <;> simp
  · rw [if_neg ended]
    have joined : directory ++ "/" ++ path = String.ofList (directory.toList ++ '/' :: path.toList) := by
      rw [← String.toList_inj]
      simp
    refine ⟨segments directory, ?_, .inl rfl, ?_⟩
    · rw [joined, segments_slash, String.ofList_toList, String.ofList_toList]
    · rw [joined]
      cases chars : directory.toList with
      | nil => exact absurd (String.toList_eq_nil_iff.1 chars) named
      | cons c rest => simp

end DesignMarkup.FilePath
