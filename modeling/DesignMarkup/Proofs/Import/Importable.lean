import DesignMarkup.Proofs.Import.Binding
import DesignMarkup.Proofs.Text.Script
/-!
Tags, bindings and packages as a script reads them. All three are taken from mappings unchanged, and
a checked configuration promises only that they are not blank: whether a module can import its
components is up to the names in the mappings.
-/
namespace DesignMarkup
open Markup

namespace ImportStatement

theorem text_quoted (s : ImportStatement) : s.text.toList =
    ("import " ++ ", ".intercalate s.clauses ++ " from ").toList ++
      '\'' :: (s.package.toList ++ ['\'', ';']) := by
  unfold text importStatement
  simp

/-- The package is read back from between the quotes, whatever comes after the statement. -/
def ReadsBack (s : ImportStatement) : Prop :=
  ∀ more, Script.read (s.package.toList ++ '\'' :: ';' :: more) =
    some (Script.units s.package.toList, ';' :: more)

theorem readsBack_iff {s : ImportStatement} : s.ReadsBack ↔ Script.Plain s.package.toList := by
  constructor
  · intro reads
    exact Script.read_iff.1 (reads [])
  · intro plain more
    exact Script.read_iff.2 plain

end ImportStatement

section
variable {c : Config} {root : Layer}

theorem mapping_of_use (checked : c.check = .ok ()) {m : ComponentMapping} (uses : root.Uses c m) :
    m ∈ c.components ∧ Text.isBlankText m.exportName = false ∧
      Text.isBlankText m.package = false := by
  obtain ⟨l, _, form⟩ := uses
  have member := Layer.mapping_of_form form
  obtain ⟨seen, sound⟩ := c.mappings_sound checked m member
  exact ⟨member, ComponentMapping.exportName_filled sound,
    (ComponentMapping.fault?_eq_none.1 sound).2.1⟩

theorem mapping_of_tag {e : Element} (visited : e ∈ (transform c root).tree.visit) {package : String}
    (component : e.package = some package) :
    ∃ m, root.Uses c m ∧ e.tag = m.exportName ∧ package = m.package := by
  have among : (e.tag, e.package) ∈ (root.emitted c).map (Layer.tagAndPackage c) := by
    rw [← Layer.visit_tagAndPackage c none root]
    exact List.mem_map_of_mem visited
  obtain ⟨l, emitted, same⟩ := List.mem_map.1 among
  rw [component, Layer.tagAndPackage] at same
  cases form : l.form c with
  | component m =>
    rw [form] at same
    obtain ⟨tag, package⟩ := Prod.mk.inj same
    exact ⟨m, ⟨l, emitted, form⟩, tag.symm, (Option.some.inj package).symm⟩
  | _ =>
    rw [form] at same
    simp at same

theorem mapping_of_statement {s : ImportStatement}
    (member : s ∈ (transform c root).imports.statements) :
    ∃ m, root.Uses c m ∧ m.package = s.package := by
  obtain ⟨entry, _, statement⟩ := List.mem_flatMap.1 member
  obtain ⟨name, named⟩ := List.exists_mem_of_ne_nil _ (names_of_mem statement)
  have bound : ⟨s.package, name⟩ ∈ (transform c root).imports.bound :=
    List.mem_flatMap.2 ⟨s, member, List.mem_map_of_mem named⟩
  obtain ⟨m, uses, same⟩ := mem_bound.1 bound
  exact ⟨m, uses, congrArg Identity.package same⟩

theorem statement_of_use {m : ComponentMapping} (uses : root.Uses c m) :
    ∃ s ∈ (transform c root).imports.statements, s.package = m.package := by
  have bound : m.identity ∈ (transform c root).imports.bound := mem_bound.2 ⟨m, uses, rfl⟩
  obtain ⟨s, member, own⟩ := List.mem_flatMap.1 bound
  obtain ⟨name, _, same⟩ := List.mem_map.1 own
  exact ⟨s, member, congrArg Identity.package same⟩

structure NamedByMappings (c : Config) (root : Layer) : Prop where
  mapping : ∀ m, root.Uses c m → m ∈ c.components ∧ Text.isBlankText m.exportName = false ∧
    Text.isBlankText m.package = false
  tag : ∀ e ∈ (transform c root).tree.visit, ∀ package, e.package = some package →
    ∃ m, root.Uses c m ∧ e.tag = m.exportName ∧ package = m.package
  binding : ∀ key ∈ (transform c root).imports.bound, ∃ m, root.Uses c m ∧ m.identity = key
  package : ∀ s ∈ (transform c root).imports.statements, ∃ m, root.Uses c m ∧ m.package = s.package

theorem namedByMappings (checked : c.check = .ok ()) (root : Layer) : NamedByMappings c root where
  mapping _ := mapping_of_use checked
  tag _ visited _ := mapping_of_tag visited
  binding _ := mem_bound.1
  package _ := mapping_of_statement

/-- Tags and bindings are the export names of mappings, and identifiers if these are; the packages of
the statements are those of mappings, and read back if no quote, backslash or line break is in them. -/
theorem importable_iff (checked : c.check = .ok ()) (root : Layer) (classes : Script.NameClasses) :
    let t := transform c root
    NamedByMappings c root ∧
    ((∀ e ∈ t.tree.visit, e.package.isSome → classes.isIdentifier e.tag) ∧
      (∀ key ∈ t.imports.bound, classes.isIdentifier key.component) ↔
        ∀ m, root.Uses c m → classes.isIdentifier m.exportName) ∧
    (t.imports.render = "\n".intercalate (t.imports.statements.map ImportStatement.text) ∧
      ∀ s ∈ t.imports.statements, ∃ clause,
        s.text.toList = clause ++ '\'' :: (s.package.toList ++ ['\'', ';'])) ∧
    ((∀ s ∈ t.imports.statements, s.ReadsBack) ↔
      ∀ m, root.Uses c m → Script.Plain m.package.toList) := by
  have named := namedByMappings checked root
  refine ⟨named, ⟨?_, ?_⟩, ⟨Imports.render_eq _, fun s _ => ⟨_, s.text_quoted⟩⟩, ⟨?_, ?_⟩⟩
  · rintro ⟨-, identifiers⟩ m uses
    exact identifiers m.identity (mem_bound.2 ⟨m, uses, rfl⟩)
  · intro identifiers
    constructor
    · intro e visited component
      obtain ⟨package, component⟩ := Option.isSome_iff_exists.1 component
      obtain ⟨m, uses, tag, -⟩ := named.tag e visited package component
      rw [tag]
      exact identifiers m uses
    · intro key member
      obtain ⟨m, uses, rfl⟩ := named.binding key member
      exact identifiers m uses
  · intro read m uses
    obtain ⟨s, member, same⟩ := statement_of_use uses
    rw [← same]
    exact ImportStatement.readsBack_iff.1 (read s member)
  · intro plain s member
    obtain ⟨m, uses, same⟩ := named.package s member
    rw [ImportStatement.readsBack_iff, ← same]
    exact plain m uses

end

theorem toolbar_importable : toolbarConfig.check = .ok () ∧
    ∀ classes : Script.NameClasses,
      (∀ key ∈ (transform toolbarConfig (toolbar "1:3")).imports.bound,
        classes.isIdentifier key.component) ∧
      ∀ s ∈ (transform toolbarConfig (toolbar "1:3")).imports.statements, s.ReadsBack := by
  have named : ∀ m ∈ toolbarConfig.components, m.exportName = "Chip" ∧ m.package = "ui" := by decide
  refine ⟨rfl, fun classes => ?_⟩
  obtain ⟨_, identifiers, _, reads⟩ :=
    importable_iff toolbarConfig_checked (toolbar "1:3") classes
  constructor
  · apply (identifiers.2 ?_).2
    rintro m ⟨l, _, form⟩
    rw [(named m (Layer.mapping_of_form form)).1]
    rfl
  · apply reads.2
    rintro m ⟨l, _, form⟩
    rw [(named m (Layer.mapping_of_form form)).2]
    decide

/-- A component that is named by its place in a library, of a package with a quote in its name. -/
def slashedMapping : ComponentMapping := ⟨"Button/Primary", "it's", none, false⟩

def slashedConfig : Config where
  components := [slashedMapping]

def slashed : Layer := placed "INSTANCE" "Button/Primary" "1:1" []

theorem slashed_not_importable :
    slashedConfig.check = .ok () ∧
    (∃ e ∈ (transform slashedConfig slashed).tree.visit, e.package = some "it's" ∧
      ∀ classes : Script.NameClasses, ¬ classes.isIdentifier e.tag) ∧
    (∃ key ∈ (transform slashedConfig slashed).imports.bound,
      ∀ classes : Script.NameClasses, ¬ classes.isIdentifier key.component) ∧
    ∃ s ∈ (transform slashedConfig slashed).imports.statements, ∀ after,
      Script.read (s.package.toList ++ '\'' :: after) ≠
        some (Script.units s.package.toList, after) := by
  have emitted : slashed ∈ slashed.emitted slashedConfig := by
    rw [Layer.emitted_eq]
    exact List.mem_cons_self
  have uses : slashed.Uses slashedConfig slashedMapping := ⟨slashed, emitted, rfl⟩
  have broken : ∀ classes : Script.NameClasses, ¬ classes.isIdentifier "Button/Primary" := by
    intro classes
    rw [Bool.not_eq_true]
    rfl
  refine ⟨rfl, ⟨_, Element.mem_visit_self _, rfl, broken⟩,
    ⟨_, mem_bound.2 ⟨_, uses, rfl⟩, broken⟩, ?_⟩
  obtain ⟨s, member, same⟩ := statement_of_use uses
  refine ⟨s, member, fun after => ?_⟩
  rw [Ne, Script.read_iff, same]
  decide

end DesignMarkup
