import DesignMarkup.Command.Run
/-!
A storage that keeps a journal of the changes that are asked of it. A task in it gives what it gives
without a journal, and what it notes is known from its steps.
-/
namespace DesignMarkup

inductive Change where
  | write (path : SystemPath) (text : String)
  | folders (path : SystemPath)
deriving DecidableEq, Repr

structure Note where
  change : Change
  made : Bool
deriving DecidableEq, Repr

abbrev Journaled (m : Type → Type) := StateT (List Note) m

section
variable {m : Type → Type} [Monad m]

def Change.noted (change : Change) (action : m (Except String Unit)) :
    Journaled m (Except String Unit) := fun notes => do
  let told ← action
  return (told, notes ++ [⟨change, told.isOk⟩])

instance [Storage m] : Storage (Journaled m) where
  readText path := StateT.lift (Storage.readText path)
  isFile path := StateT.lift (Storage.isFile path)
  writeText path text := (Change.write path text).noted (Storage.writeText path text)
  createFolders path := (Change.folders path).noted (Storage.createFolders path)

end

namespace Command

def Made (notes : List Note) : Prop := ∀ note ∈ notes, note.made = true

/-- All files that were asked for were written; folders may have been refused. -/
def Written (notes : List Note) : Prop := ∀ path text, ⟨.write path text, false⟩ ∉ notes

theorem made_append {notes more : List Note} : Made (notes ++ more) ↔ Made notes ∧ Made more :=
  List.forall_mem_append

theorem Written.of_append {notes more : List Note} (written : Written (notes ++ more)) :
    Written notes ∧ Written more :=
  ⟨fun path text member => written path text (List.mem_append_left more member),
    fun path text member => written path text (List.mem_append_right notes member)⟩

theorem Written.folder_refused {notes : List Note} (written : Written notes) (unmade : ¬ Made notes) :
    ∃ path, ⟨.folders path, false⟩ ∈ notes := by
  obtain ⟨⟨change, made⟩, unmade⟩ := Classical.not_forall.1 unmade
  obtain ⟨member, refused⟩ := Classical.not_imp.1 unmade
  obtain rfl : made = false := eq_false_of_ne_true refused
  cases change with
  | write path text => exact absurd member (written path text)
  | folders path => exact ⟨path, member⟩

section
variable {σ α β : Type}

/-- With a journal the action gives what it gives without one, and what it notes fits that. -/
def Tracks (x : Journaled (StateM σ) α) (y : StateM σ α) (Fits : List Note → α → Prop) : Prop :=
  ∀ notes s, ∃ more,
    (x.run notes).run s = (((y.run s).1, notes ++ more), (y.run s).2) ∧ Fits more (y.run s).1

theorem tracks_pure {Fits : List Note → α → Prop} (a : α) (fits : Fits [] a) :
    Tracks (pure a : Journaled (StateM σ) α) (pure a) Fits :=
  fun notes _ => ⟨[], by rw [List.append_nil]; rfl, fits⟩

theorem Tracks.mono {x : Journaled (StateM σ) α} {y : StateM σ α}
    {Fits Fits' : List Note → α → Prop} (tracks : Tracks x y Fits)
    (weaker : ∀ notes a, Fits notes a → Fits' notes a) : Tracks x y Fits' := by
  intro notes s
  obtain ⟨more, ran, fits⟩ := tracks notes s
  exact ⟨more, ran, weaker more _ fits⟩

theorem Tracks.bind {x : Journaled (StateM σ) α} {y : StateM σ α} {f : α → Journaled (StateM σ) β}
    {g : α → StateM σ β} {Fits : List Note → α → Prop} {N : α → List Note → β → Prop}
    {After : List Note → β → Prop} (first : Tracks x y Fits)
    (next : ∀ notes a, Fits notes a → Tracks (f a) (g a) (N a))
    (both : ∀ a notes more b, Fits notes a → N a more b → After (notes ++ more) b) :
    Tracks (x >>= f) (y >>= g) After := by
  intro notes s
  obtain ⟨own, ran, fits⟩ := first notes s
  obtain ⟨more, ran', fits'⟩ := next own _ fits (notes ++ own) (y.run s).2
  refine ⟨own ++ more, ?_, both _ own more _ fits fits'⟩
  rw [StateT.run_bind, StateT.run_bind, ran, ← List.append_assoc]
  exact ran'

def Follows (x : Task (Journaled (StateM σ)) α) (y : Task (StateM σ) α)
    (Fits : List Note → Except Failure α → Prop) : Prop := Tracks x.run y.run Fits

def Quiet (x : Task (Journaled (StateM σ)) α) (y : Task (StateM σ) α) : Prop :=
  Follows x y fun notes _ => notes = []

/-- The task fails only if a change is not made. -/
def Earnest (Post : α → Prop) (notes : List Note) : Except Failure α → Prop
  | .error _ => ¬ Made notes
  | .ok a => Post a

/-- The task fails before it changes anything, or if a change is not made. -/
def Careful (Post : α → Prop) (notes : List Note) : Except Failure α → Prop
  | .error _ => notes = [] ∨ ¬ Made notes
  | .ok a => Post a

section rules
variable {x : Task (Journaled (StateM σ)) α} {y : Task (StateM σ) α}
  {f : α → Task (Journaled (StateM σ)) β} {g : α → Task (StateM σ) β}
  {Fits : List Note → Except Failure α → Prop} {After : List Note → Except Failure β → Prop}
  {Post : α → Prop} {Last : β → Prop}

theorem Follows.bind {N : α → List Note → Except Failure β → Prop} (first : Follows x y Fits)
    (next : ∀ notes a, Fits notes (.ok a) → Follows (f a) (g a) (N a))
    (failed : ∀ notes e, Fits notes (.error e) → After notes (.error e))
    (done : ∀ a notes more r, Fits notes (.ok a) → N a more r → After (notes ++ more) r) :
    Follows (x >>= f) (y >>= g) After := by
  let Rest : Except Failure α → List Note → Except Failure β → Prop
    | .ok a => N a
    | .error e => fun notes r => notes = [] ∧ r = Except.error e
  unfold Follows
  rw [ExceptT.run_bind, ExceptT.run_bind]
  refine Tracks.bind (N := Rest) first ?_ ?_
  · intro notes r fits
    cases r with
    | error e => exact tracks_pure (Except.error e) ⟨rfl, rfl⟩
    | ok a => exact next notes a fits
  · intro r notes more result fits rest
    cases r with
    | error e =>
      obtain ⟨rfl, rfl⟩ := rest
      rw [List.append_nil]
      exact failed notes e fits
    | ok a => exact done a notes more result fits rest

theorem Follows.map (first : Follows x y Fits) {last : α → β}
    (kept : ∀ notes r, Fits notes r → After notes (r.map last)) :
    Follows (x >>= fun a => pure (last a)) (y >>= fun a => pure (last a)) After := by
  let Rest (a : α) (notes : List Note) (r : Except Failure β) : Prop := notes = [] ∧ r = .ok (last a)
  refine Follows.bind (N := Rest) first ?_ ?_ ?_
  · exact fun _ a _ => tracks_pure (Except.ok (last a)) ⟨rfl, rfl⟩
  · exact fun notes e fits => kept notes _ fits
  · rintro a notes _ _ fits ⟨rfl, rfl⟩
    rw [List.append_nil]
    exact kept notes _ fits

theorem Quiet.bind (first : Quiet x y) (next : ∀ a, Follows (f a) (g a) After)
    (failed : ∀ e, After [] (.error e)) : Follows (x >>= f) (y >>= g) After := by
  refine Follows.bind first (fun _ a _ => next a) ?_ ?_
  · rintro _ e rfl
    exact failed e
  · rintro a _ more r rfl after
    exact after

theorem Quiet.seq (first : Quiet x y) (next : ∀ a, Quiet (f a) (g a)) :
    Quiet (x >>= f) (y >>= g) := first.bind next fun _ => rfl

theorem Quiet.careful (first : Quiet x y) (next : ∀ a, Follows (f a) (g a) (Careful Last)) :
    Follows (x >>= f) (y >>= g) (Careful Last) :=
  first.bind next fun _ => .inl rfl

theorem follows_earnest (first : Follows x y (Earnest Post))
    (next : ∀ a, Post a → Follows (f a) (g a) (Earnest Last)) :
    Follows (x >>= f) (y >>= g) (Earnest Last) := by
  refine Follows.bind first (fun _ a post => next a post) (fun notes e unmade => unmade) ?_
  intro a notes more r _ earnest
  cases r with
  | error e => exact fun made => earnest (made_append.1 made).2
  | ok b => exact earnest

theorem careful_map (first : Follows x y (Careful Post)) {last : α → β}
    (kept : ∀ a, Post a → Last (last a)) :
    Follows (x >>= fun a => pure (last a)) (y >>= fun a => pure (last a)) (Careful Last) := by
  refine first.map fun notes r careful => ?_
  cases r with
  | error e => exact careful
  | ok a => exact kept a careful

theorem careful_of_earnest (follows : Follows x y (Earnest Post)) : Follows x y (Careful Post) := by
  refine Tracks.mono follows fun notes r earnest => ?_
  cases r with
  | error e => exact .inr earnest
  | ok a => exact earnest

end rules

section steps

theorem follows_except {Fits : List Note → Except Failure α → Prop} (r : Except Failure α)
    (fits : Fits [] r) :
    Follows (liftM r : Task (Journaled (StateM σ)) α) (liftM r : Task (StateM σ) α) Fits :=
  tracks_pure r fits

theorem follows_pure {Fits : List Note → Except Failure α → Prop} (a : α) (fits : Fits [] (.ok a)) :
    Follows (pure a : Task (Journaled (StateM σ)) α) (pure a : Task (StateM σ) α) Fits :=
  follows_except (.ok a) fits

theorem earnest_pure {Post : α → Prop} (a : α) (post : Post a) :
    Follows (pure a : Task (Journaled (StateM σ)) α) (pure a : Task (StateM σ) α) (Earnest Post) :=
  follows_pure a post

theorem quiet_except (r : Except Failure α) :
    Quiet (liftM r : Task (Journaled (StateM σ)) α) (liftM r : Task (StateM σ) α) :=
  follows_except r rfl

theorem except_bind {r : Except Failure α} {f : α → Task (Journaled (StateM σ)) β}
    {g : α → Task (StateM σ) β} {After : List Note → Except Failure β → Prop}
    (next : ∀ a, r = .ok a → Follows (f a) (g a) After)
    (failed : ∀ e, r = .error e → After [] (.error e)) :
    Follows (liftM r >>= f) (liftM r >>= g) After := by
  cases r with
  | error e => exact follows_except (.error e) (failed e rfl)
  | ok a => exact next a rfl

theorem quiet_pure (a : α) :
    Quiet (pure a : Task (Journaled (StateM σ)) α) (pure a : Task (StateM σ) α) :=
  follows_pure a rfl

theorem quiet_throw (e : Failure) :
    Quiet (throw e : Task (Journaled (StateM σ)) α) (throw e : Task (StateM σ) α) :=
  follows_except (.error e) rfl

theorem follows_operation {x : Journaled (StateM σ) (Except String α)}
    {y : StateM σ (Except String α)} (note : Bool → List Note)
    (noted : Tracks x y fun notes r => notes = note r.isOk) :
    Follows (orIoFailure x) (orIoFailure y) fun notes r => notes = note r.isOk := by
  let Rest : Except String α → List Note → Except Failure α → Prop := fun r notes told =>
    notes = [] ∧ told.isOk = r.isOk
  unfold Follows orIoFailure
  rw [ExceptT.run_mk, ExceptT.run_mk]
  refine Tracks.bind (N := Rest) noted ?_ ?_
  · intro _ r _
    cases r with
    | ok a => exact tracks_pure (Except.ok a) ⟨rfl, rfl⟩
    | error text => exact tracks_pure (Except.error (Failure.io text)) ⟨rfl, rfl⟩
  · rintro r _ _ told rfl ⟨rfl, same⟩
    rw [List.append_nil, same]

theorem earnest_of_noted {change : Change} {x : Task (Journaled (StateM σ)) Unit}
    {y : Task (StateM σ) Unit} (noted : Follows x y fun notes r => notes = [⟨change, r.isOk⟩]) :
    Follows x y (Earnest fun _ => True) := by
  refine Tracks.mono noted ?_
  rintro _ r rfl
  cases r with
  | error e => exact fun made => nomatch made _ List.mem_cons_self
  | ok => trivial

variable [Storage (StateM σ)]

theorem quiet_readText (path : SystemPath) :
    Quiet (readText path : Task (Journaled (StateM σ)) String) (readText path) :=
  follows_operation (fun _ => []) fun notes s => ⟨[], by rw [List.append_nil]; rfl, rfl⟩

theorem quiet_isFile (path : SystemPath) :
    Quiet (isFile path : Task (Journaled (StateM σ)) Bool) (isFile path) := by
  intro notes s
  exact ⟨[], by rw [List.append_nil]; rfl, rfl⟩

theorem follows_writeText (path : SystemPath) (text : String) :
    Follows (writeText path text : Task (Journaled (StateM σ)) Unit) (writeText path text)
      fun notes r => notes = [⟨.write path text, r.isOk⟩] :=
  follows_operation (fun made => [⟨.write path text, made⟩]) fun _ _ => ⟨_, rfl, rfl⟩

theorem follows_createFolders (path : SystemPath) :
    Follows (createFolders path : Task (Journaled (StateM σ)) Unit) (createFolders path)
      fun notes r => notes = [⟨.folders path, r.isOk⟩] :=
  follows_operation (fun made => [⟨.folders path, made⟩]) fun _ _ => ⟨_, rfl, rfl⟩

end steps
end

end Command
end DesignMarkup
