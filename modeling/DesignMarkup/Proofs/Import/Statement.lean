import DesignMarkup.Proofs.Import.Aggregation
/-!
The statements that bring imports into a module: each binding of a package stands in exactly one
statement from that package, and each statement is a line of its own.
-/
namespace DesignMarkup

structure ImportStatement where
  package : String
  /-- The name for the default export of the package. -/
  default? : Option String
  named : List String

namespace ImportStatement

def names (s : ImportStatement) : List String := s.default?.toList ++ s.named

def bindings (s : ImportStatement) : List ImportBinding :=
  s.default?.toList.map (⟨·, true⟩) ++ s.named.map (⟨·, false⟩)

theorem bindings_names (s : ImportStatement) : s.bindings.map ImportBinding.name = s.names := by
  simp [bindings, names, Function.comp_def]

def clauses (s : ImportStatement) : List String :=
  s.default?.toList ++
    if s.named.isEmpty then [] else ["\x7b " ++ ", ".intercalate s.named ++ " \x7d"]

def text (s : ImportStatement) : String := importStatement (", ".intercalate s.clauses) s.package

theorem clauses_eq_nil {s : ImportStatement} : s.clauses = [] ↔ s.names = [] := by
  cases named : s.named <;> simp [clauses, names, named]

end ImportStatement

def defaultNames (bindings : List ImportBinding) : List String :=
  (bindings.filter (·.isDefault)).map (·.name)

def memberNames (bindings : List ImportBinding) : List String :=
  (bindings.filter (!·.isDefault)).map (·.name)

def mainStatement (package : String) (bindings : List ImportBinding) : ImportStatement :=
  ⟨package, (defaultNames bindings).head?, memberNames bindings⟩

def statementsOf (package : String) (bindings : List ImportBinding) : List ImportStatement :=
  (if (mainStatement package bindings).names = [] then [] else [mainStatement package bindings]) ++
    (defaultNames bindings).tail.map fun name => ⟨package, some name, []⟩

theorem packageStatements_eq (package : String) (bindings : List ImportBinding) :
    packageStatements package bindings = (statementsOf package bindings).map ImportStatement.text := by
  have clauses : (mainStatement package bindings).clauses = (defaultNames bindings).take 1 ++
      if (memberNames bindings).isEmpty then []
      else ["\x7b " ++ ", ".intercalate (memberNames bindings) ++ " \x7d"] := by
    rw [ImportStatement.clauses, mainStatement, List.take_one]
  have main : (if (mainStatement package bindings).clauses.isEmpty then []
      else [(mainStatement package bindings).text]) =
      (if (mainStatement package bindings).names = [] then []
        else [mainStatement package bindings]).map ImportStatement.text := by
    simp only [List.isEmpty_iff, ImportStatement.clauses_eq_nil]
    split <;> rfl
  rw [statementsOf, List.map_append, ← main, ImportStatement.text, clauses, List.map_map,
    ← List.drop_one]
  rfl

theorem statementsOf_package {package : String} {bindings : List ImportBinding} {s : ImportStatement}
    (member : s ∈ statementsOf package bindings) : s.package = package := by
  rcases List.mem_append.1 member with main | further
  · split at main
    · cases main
    · rw [List.mem_singleton.1 main, mainStatement]
  · obtain ⟨_, _, rfl⟩ := List.mem_map.1 further
    rfl

theorem mainStatement_names_eq_nil {package : String} {bindings : List ImportBinding} :
    (mainStatement package bindings).names = [] ↔ bindings = [] := by
  constructor
  · intro none
    obtain ⟨first, members⟩ := List.append_eq_nil_iff.1 none
    refine List.eq_nil_iff_forall_not_mem.2 fun b member => ?_
    cases kind : b.isDefault with
    | true =>
      have defaults : defaultNames bindings = [] := by simpa [mainStatement] using first
      rw [defaultNames, List.map_eq_nil_iff, List.filter_eq_nil_iff] at defaults
      exact defaults b member kind
    | false =>
      rw [mainStatement, memberNames, List.map_eq_nil_iff, List.filter_eq_nil_iff] at members
      exact members b member (by simp [kind])
  · rintro rfl
    rfl

theorem statementsOf_length (package : String) (bindings : List ImportBinding) :
    (statementsOf package bindings).length =
      if bindings = [] then 0 else max 1 (bindings.countP (·.isDefault)) := by
  have defaults : (defaultNames bindings).length = bindings.countP (·.isDefault) := by
    rw [defaultNames, List.length_map, List.countP_eq_length_filter]
  simp only [statementsOf, mainStatement_names_eq_nil, List.length_append, List.length_map,
    List.length_tail, defaults]
  split
  · rename_i none
    simp [none]
  · rw [List.length_singleton]
    omega

theorem names_of_mem {package : String} {bindings : List ImportBinding} {s : ImportStatement}
    (member : s ∈ statementsOf package bindings) : s.names ≠ [] := by
  rcases List.mem_append.1 member with main | further
  · split at main
    · cases main
    · rename_i names
      rw [List.mem_singleton.1 main]
      exact names
  · obtain ⟨_, _, rfl⟩ := List.mem_map.1 further
    exact List.cons_ne_nil _ _

theorem bindings_of_names {bindings : List ImportBinding} {kind : Bool}
    (all : ∀ b ∈ bindings, b.isDefault = kind) :
    (bindings.map ImportBinding.name).map (⟨·, kind⟩) = bindings := by
  rw [List.map_map]
  refine (List.map_congr_left fun b member => ?_).trans (List.map_id _)
  rw [← all b member]
  rfl

theorem statementsOf_bindings (package : String) (bindings : List ImportBinding) :
    ((statementsOf package bindings).flatMap ImportStatement.bindings).Perm bindings := by
  let first := (defaultNames bindings).head?.toList.map fun name => (⟨name, true⟩ : ImportBinding)
  let further := (defaultNames bindings).tail.map fun name => (⟨name, true⟩ : ImportBinding)
  let members := (memberNames bindings).map fun name => (⟨name, false⟩ : ImportBinding)
  have main : (if (mainStatement package bindings).names = [] then []
      else [mainStatement package bindings]).flatMap ImportStatement.bindings = first ++ members := by
    split
    · rename_i none
      have unnamed := (mainStatement package bindings).bindings_names.trans none
      exact (List.map_eq_nil_iff.1 unnamed).symm
    · exact List.flatMap_singleton ..
  have own : ((defaultNames bindings).tail.map fun name =>
      (⟨package, some name, []⟩ : ImportStatement)).flatMap ImportStatement.bindings = further := by
    rw [List.flatMap_map]
    exact List.flatMap_pure_eq_map _ _
  have defaults : first ++ further = bindings.filter (·.isDefault) := by
    have whole : (defaultNames bindings).head?.toList ++ (defaultNames bindings).tail =
        defaultNames bindings := by
      cases defaultNames bindings <;> rfl
    rw [← List.map_append, whole]
    exact bindings_of_names fun b member => (List.mem_filter.1 member).2
  have others : members = bindings.filter (!·.isDefault) :=
    bindings_of_names fun b member => by simpa using (List.mem_filter.1 member).2
  calc (statementsOf package bindings).flatMap ImportStatement.bindings
    _ = first ++ members ++ further := by rw [statementsOf, List.flatMap_append, main, own]
    _ |>.Perm (first ++ further ++ members) := by
      rw [List.append_assoc, List.append_assoc]
      exact List.perm_append_comm.append_left _
    _ = bindings.filter (·.isDefault) ++ bindings.filter (!·.isDefault) := by
      rw [defaults, others]
    _ |>.Perm bindings := List.filter_append_perm _ _

theorem statementsOf_names (package : String) (bindings : List ImportBinding) :
    ((statementsOf package bindings).flatMap ImportStatement.names).Perm
      (bindings.map ImportBinding.name) := by
  have names : (statementsOf package bindings).flatMap ImportStatement.names =
      ((statementsOf package bindings).flatMap ImportStatement.bindings).map ImportBinding.name := by
    rw [List.map_flatMap]
    exact List.flatMap_congr fun s _ => s.bindings_names.symm
  rw [names]
  exact (statementsOf_bindings package bindings).map _

namespace Imports

def statements (imports : Imports) : List ImportStatement :=
  imports.flatMap fun entry => statementsOf entry.1 entry.2

theorem render_eq (imports : Imports) :
    imports.render = "\n".intercalate (imports.statements.map ImportStatement.text) := by
  rw [render, statements, List.map_flatMap]
  simp only [packageStatements_eq]

def Shows (imports : Imports) (s : ImportStatement) : Prop :=
  ∃ before after, imports.render = "\n".intercalate (before ++ s.text :: after)

theorem shows_of_mem {imports : Imports} {s : ImportStatement} (member : s ∈ imports.statements) :
    imports.Shows s := by
  obtain ⟨before, after, split⟩ := List.append_of_mem member
  refine ⟨before.map ImportStatement.text, after.map ImportStatement.text, ?_⟩
  rw [render_eq, split, List.map_append, List.map_cons]

theorem bound_of_mem {imports : Imports} {package : String} {bindings : List ImportBinding}
    (entry : (package, bindings) ∈ imports) {b : ImportBinding} (member : b ∈ bindings) :
    ∃ s ∈ imports.statements, s.package = package ∧ b.name ∈ s.names := by
  have bound := (statementsOf_names package bindings).mem_iff.2 (List.mem_map_of_mem member)
  obtain ⟨s, among, names⟩ := List.mem_flatMap.1 bound
  exact ⟨s, List.mem_flatMap.2 ⟨_, entry, among⟩, statementsOf_package among, names⟩

end Imports
end DesignMarkup
