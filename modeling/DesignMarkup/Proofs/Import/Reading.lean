import DesignMarkup.Proofs.Dict
import DesignMarkup.Proofs.Import.Statement
import DesignMarkup.Proofs.Text.Framing
import DesignMarkup.Proofs.Text.Script
/-!
Import statements as a module reads them: first the tokens of the text, then the statements that these
make up. What imports are written as is read to the statements of each package, so that no binding is
lost, added or taken for one of the other kind. A package is read as it is spelled between its quotes.
-/
namespace DesignMarkup
open Text

namespace Script

inductive Token where
  | name (text : String)
  | mark (c : Char)
  | quoted (text : String)
deriving DecidableEq, Repr

def marks : List Char := ['\x7b', '\x7d', ',', ';']

/-- A literal neither ends nor goes on over a line end here. -/
def staysQuoted (c : Char) : Bool := c != '\'' && c != '\n'

def tokens (classes : NameClasses) : List Char → Option (List Token)
  | [] => some []
  | c :: rest =>
    if c = ' ' ∨ c = '\n' then tokens classes rest
    else if c ∈ marks then (tokens classes rest).map (.mark c :: ·)
    else if c = '\'' then
      let text := String.ofList (rest.takeWhile staysQuoted)
      match _closed : rest.dropWhile staysQuoted with
      | '\'' :: after => (tokens classes after).map (.quoted text :: ·)
      | _ => none
    else if classes.startsName c then
      let text := String.ofList (c :: rest.takeWhile classes.continuesName)
      (tokens classes (rest.dropWhile classes.continuesName)).map (.name text :: ·)
    else none
termination_by text => text.length
decreasing_by
  · simp
  · simp
  · have shorter := List.length_dropWhile_le staysQuoted rest
    rw [_closed, List.length_cons] at shorter
    rw [List.length_cons]
    omega
  · have shorter := List.length_dropWhile_le classes.continuesName rest
    rw [List.length_cons]
    omega

def names? : List Token → Option (List String × List Token)
  | .mark '\x7d' :: rest => some ([], rest)
  | .name n :: .mark '\x7d' :: rest => some ([n], rest)
  | .name n :: .mark ',' :: rest => (names? rest).map fun (more, rest) => (n :: more, rest)
  | _ => none

def origin? (default? : Option String) (named : List String) :
    List Token → Option (ImportStatement × List Token)
  | .name "from" :: .quoted package :: .mark ';' :: rest => some (⟨package, default?, named⟩, rest)
  | _ => none

def statement? : List Token → Option (ImportStatement × List Token)
  | .name "import" :: .mark '\x7b' :: rest =>
    (names? rest).bind fun (named, rest) => origin? none named rest
  | .name "import" :: .name d :: .mark ',' :: .mark '\x7b' :: rest =>
    (names? rest).bind fun (named, rest) => origin? (some d) named rest
  | .name "import" :: .name d :: rest => origin? (some d) [] rest
  | _ => none

def statements? (ts : List Token) : Option (List ImportStatement) :=
  if ts = [] then some []
  else
    match statement? ts with
    | none => none
    | some (s, rest) =>
      -- A statement takes tokens away; the test says so where the recursion has to know it.
      if rest.length < ts.length then (statements? rest).map (s :: ·) else none
termination_by ts.length

def readImports (classes : NameClasses) (text : String) : Option (List ImportStatement) :=
  (tokens classes text.toList).bind statements?

section tokens
variable {classes : NameClasses} {c : Char} {text more rest : List Char} {ts us : List Token}

theorem startsName_special (special : c ∈ ' ' :: '\n' :: '\'' :: marks) :
    classes.startsName c = false := by
  simp only [marks, List.mem_cons, List.not_mem_nil, or_false] at special
  rcases special with rfl | rfl | rfl | rfl | rfl | rfl | rfl <;> rfl

/-- The text is read to the tokens, whatever comes after it. -/
def Lexes (classes : NameClasses) (text : List Char) (ts : List Token) : Prop :=
  ∀ rest, tokens classes (text ++ rest) = (tokens classes rest).map (ts ++ ·)

theorem Lexes.tokens (lexes : Lexes classes text ts) : tokens classes text = some ts := by
  have whole := lexes []
  rw [List.append_nil, Script.tokens, Option.map_some, List.append_nil] at whole
  exact whole

theorem lexes_nil : Lexes classes [] [] := by
  intro rest
  simp

theorem Lexes.append (first : Lexes classes text ts) (second : Lexes classes more us) :
    Lexes classes (text ++ more) (ts ++ us) := by
  intro rest
  rw [List.append_assoc, first, second, Option.map_map]
  simp [Function.comp_def]

theorem Lexes.flatMap {α : Type} {items : List α} {write : α → List Char} {read : α → List Token}
    (each : ∀ a ∈ items, Lexes classes (write a) (read a)) :
    Lexes classes (items.flatMap write) (items.flatMap read) := by
  induction items with
  | nil => exact lexes_nil
  | cons a rest ih =>
    rw [List.forall_mem_cons] at each
    exact each.1.append (ih each.2)

theorem lexes_blank (blank : c = ' ' ∨ c = '\n') : Lexes classes [c] [] := by
  intro rest
  rw [List.singleton_append, Script.tokens, if_pos blank]
  simp

theorem lexes_mark (mark : c ∈ marks) : Lexes classes [c] [.mark c] := by
  have notBlank : ¬ (c = ' ' ∨ c = '\n') := by
    rintro (rfl | rfl) <;> exact absurd mark (by decide)
  intro rest
  rw [List.singleton_append, Script.tokens, if_neg notBlank, if_pos mark]
  rfl

theorem lexes_quoted (inside : ∀ c ∈ text, staysQuoted c = true) :
    Lexes classes ('\'' :: (text ++ ['\''])) [.quoted (String.ofList text)] := by
  intro rest
  have ends : Stops staysQuoted ('\'' :: rest) := stops_cons rfl
  obtain ⟨take, drop⟩ := takeWhile_token inside ends
  rw [List.cons_append, List.append_assoc, List.singleton_append, Script.tokens,
    if_neg (by decide), if_neg (by decide), if_pos rfl, take]
  split
  · rename_i after closed
    rw [drop] at closed
    cases closed
    rfl
  · rename_i open_
    exact absurd drop (open_ rest)

theorem lexes_name (first : classes.startsName c = true)
    (inside : ∀ d ∈ text, classes.continuesName d = true) {mark : Char}
    (ends : classes.continuesName mark = false) (next : Lexes classes [mark] ts) :
    Lexes classes (c :: (text ++ [mark])) (.name (String.ofList (c :: text)) :: ts) := by
  have other : c ∉ ' ' :: '\n' :: '\'' :: marks := by
    intro special
    rw [startsName_special special] at first
    cases first
  simp only [List.mem_cons, not_or] at other
  obtain ⟨space, newline, quote, noMark⟩ := other
  intro rest
  have read : tokens classes (mark :: rest) = (tokens classes rest).map (ts ++ ·) := next rest
  obtain ⟨take, drop⟩ := takeWhile_token inside (stops_cons (s := rest) ends)
  rw [List.cons_append, List.append_assoc, List.singleton_append, Script.tokens,
    if_neg (not_or.2 ⟨space, newline⟩), if_neg noMark, if_neg quote, if_pos first, take, drop, read,
    Option.map_map]
  rfl

theorem lexes_word {word : String} (first : word.toList.head?.any classes.startsName = true)
    (inside : word.toList.tail.all classes.continuesName = true) {mark : Char}
    (ends : classes.continuesName mark = false) (next : Lexes classes [mark] ts) :
    Lexes classes (word.toList ++ [mark]) (.name word :: ts) := by
  cases whole : word.toList with
  | nil =>
    rw [whole] at first
    cases first
  | cons c text =>
    rw [whole] at first inside
    have same : String.ofList (c :: text) = word := by rw [← whole, String.ofList_toList]
    rw [← same]
    exact lexes_name first (List.all_eq_true.1 inside) ends next

theorem lexes_identifier {name : String} (identifier : classes.isIdentifier name = true) {mark : Char}
    (ends : classes.continuesName mark = false) (next : Lexes classes [mark] ts) :
    Lexes classes (name.toList ++ [mark]) (.name name :: ts) := by
  rw [NameClasses.isIdentifier, Bool.and_eq_true, Bool.and_eq_true] at identifier
  exact lexes_word identifier.1.1 identifier.1.2 ends next

end tokens

def nameTokens : List String → List Token
  | [] => [.mark '\x7d']
  | [n] => [.name n, .mark '\x7d']
  | n :: m :: rest => .name n :: .mark ',' :: nameTokens (m :: rest)

end Script

namespace ImportStatement
open Script

def clauseTokens (s : ImportStatement) : List Token :=
  match s.default?, s.named with
  | some d, [] => [.name d]
  | some d, named => .name d :: .mark ',' :: .mark '\x7b' :: nameTokens named
  | none, named => .mark '\x7b' :: nameTokens named

def tokens (s : ImportStatement) : List Token :=
  .name "import" :: (s.clauseTokens ++ [.name "from", .quoted s.package, .mark ';'])

/-- It binds something, under names that can be read, from a package that can be quoted. -/
structure Readable (classes : NameClasses) (s : ImportStatement) : Prop where
  binds : s.names ≠ []
  identifiers : ∀ n ∈ s.names, classes.isIdentifier n = true
  spelled : ∀ c ∈ s.package.toList, staysQuoted c = true

section
variable {classes : NameClasses} {s : ImportStatement}

theorem lexes_names {named : List String}
    (identifiers : ∀ n ∈ named, classes.isIdentifier n = true) :
    Lexes classes ((", ".intercalate named).toList ++ [' ', '\x7d']) (nameTokens named) := by
  have space : Lexes classes [' '] [] := lexes_blank (.inl rfl)
  have brace : Lexes classes ['\x7d'] [.mark '\x7d'] := lexes_mark (by decide)
  have comma : Lexes classes [','] [.mark ','] := lexes_mark (by decide)
  induction named with
  | nil => simpa [nameTokens] using space.append brace
  | cons n rest ih =>
    rw [List.forall_mem_cons] at identifiers
    cases rest with
    | nil => simpa [nameTokens] using (lexes_identifier identifiers.1 rfl space).append brace
    | cons m rest =>
      have later := ih identifiers.2
      have first := (lexes_identifier identifiers.1 rfl comma).append space
      have text : (", ".intercalate (n :: m :: rest)).toList =
          n.toList ++ [','] ++ [' '] ++ (", ".intercalate (m :: rest)).toList := by
        simp [String.toList_intercalate]
      rw [text, List.append_assoc]
      exact first.append later

theorem lexes_clauses (readable : s.Readable classes) :
    Lexes classes ((", ".intercalate s.clauses).toList ++ [' ']) s.clauseTokens := by
  obtain ⟨package, default?, named⟩ := s
  obtain ⟨binds, identifiers, -⟩ := readable
  have space : Lexes classes [' '] [] := lexes_blank (.inl rfl)
  have comma : Lexes classes [','] [.mark ','] := lexes_mark (by decide)
  have brace : Lexes classes ['\x7b'] [.mark '\x7b'] := lexes_mark (by decide)
  have group {more : List String} (inside : ∀ n ∈ more, classes.isIdentifier n = true) :
      Lexes classes ("\x7b " ++ ", ".intercalate more ++ " \x7d").toList
        (.mark '\x7b' :: nameTokens more) := by
    simpa using (brace.append space).append (lexes_names inside)
  cases default? with
  | none =>
    cases named with
    | nil => exact absurd rfl binds
    | cons n rest =>
      have inside : ∀ m ∈ n :: rest, classes.isIdentifier m = true := identifiers
      have alone := (group inside).append space
      simpa [clauses, clauseTokens] using alone
  | some d =>
    obtain ⟨own, others⟩ := List.forall_mem_cons.1 identifiers
    cases named with
    | nil => simpa [clauses, clauseTokens] using lexes_identifier own rfl space
    | cons n rest =>
      have first := (lexes_identifier own rfl comma).append space
      have both := first.append ((group others).append space)
      simpa [clauses, clauseTokens] using both

theorem lexes_text (readable : s.Readable classes) : Lexes classes s.text.toList s.tokens := by
  have space : Lexes classes [' '] [] := lexes_blank (.inl rfl)
  have keyword : Lexes classes ("import".toList ++ [' ']) [.name "import"] :=
    lexes_word rfl rfl rfl space
  have from_ : Lexes classes ("from".toList ++ [' ']) [.name "from"] := lexes_word rfl rfl rfl space
  have package : Lexes classes ('\'' :: (s.package.toList ++ ['\''])) [.quoted s.package] := by
    have quoted : Lexes classes _ [.quoted (String.ofList s.package.toList)] :=
      lexes_quoted readable.spelled
    rwa [String.ofList_toList] at quoted
  have ends : Lexes classes [';'] [.mark ';'] := lexes_mark (by decide)
  have whole := (keyword.append (lexes_clauses readable)).append
    ((from_.append package).append ends)
  simpa [text, importStatement, tokens] using whole

theorem names?_nameTokens (named : List String) (more : List Token) :
    names? (nameTokens named ++ more) = some (named, more) := by
  induction named with
  | nil => rfl
  | cons n rest ih =>
    cases rest with
    | nil => rfl
    | cons m rest =>
      rw [nameTokens, List.cons_append, List.cons_append, names?, ih]
      rfl

theorem statement?_tokens (binds : s.names ≠ []) (more : List Token) :
    statement? (s.tokens ++ more) = some (s, more) := by
  obtain ⟨package, default?, named⟩ := s
  have listed := names?_nameTokens named (.name "from" :: .quoted package :: .mark ';' :: more)
  cases default? with
  | none =>
    cases named with
    | nil => exact absurd rfl binds
    | cons n rest =>
      simp only [tokens, clauseTokens, List.cons_append, List.append_assoc, List.nil_append,
        statement?, listed]
      rfl
  | some d =>
    cases named with
    | nil => rfl
    | cons n rest =>
      simp only [tokens, clauseTokens, List.cons_append, List.append_assoc, List.nil_append,
        statement?, listed]
      rfl

theorem statements?_tokens {ss : List ImportStatement} (bind : ∀ s ∈ ss, s.names ≠ []) :
    statements? (ss.flatMap tokens) = some ss := by
  induction ss with
  | nil => rw [List.flatMap_nil, statements?, if_pos rfl]
  | cons s rest ih =>
    rw [List.forall_mem_cons] at bind
    have nonempty : s.tokens ++ rest.flatMap tokens ≠ [] := List.cons_ne_nil _ _
    have shorter : (rest.flatMap tokens).length < (s.tokens ++ rest.flatMap tokens).length := by
      rw [List.length_append]
      exact Nat.lt_add_of_pos_left (Nat.succ_pos _)
    rw [List.flatMap_cons, statements?, if_neg nonempty, statement?_tokens bind.1]
    simp only [if_pos shorter, ih bind.2, Option.map_some]

theorem lexes_lines {ss : List ImportStatement} (readable : ∀ s ∈ ss, s.Readable classes) :
    Lexes classes ("\n".intercalate (ss.map text)).toList (ss.flatMap tokens) := by
  cases ss with
  | nil => exact lexes_nil
  | cons s rest =>
    rw [List.forall_mem_cons] at readable
    have later : Lexes classes (rest.flatMap fun t => '\n' :: t.text.toList) (rest.flatMap tokens) :=
      .flatMap fun t member => (lexes_blank (.inr rfl)).append (lexes_text (readable.2 t member))
    have lines : ("\n".intercalate ((s :: rest).map text)).toList =
        s.text.toList ++ rest.flatMap fun t => '\n' :: t.text.toList := by
      rw [String.toList_intercalate, List.map_cons, List.map_cons, intercalate_cons]
      simp [List.flatMap_map]
    rw [lines]
    exact (lexes_text readable.1).append later

theorem readImports_lines {ss : List ImportStatement} (readable : ∀ s ∈ ss, s.Readable classes) :
    readImports classes ("\n".intercalate (ss.map text)) = some ss := by
  rw [readImports, (lexes_lines readable).tokens]
  exact statements?_tokens fun s member => (readable s member).binds

end
end ImportStatement

namespace Imports
open Script

theorem statements_filter {imports : Imports} (sorted : Dict.Sorted imports) (package : String) :
    imports.statements.filter (·.package = package) =
      statementsOf package ((imports.get? package).getD []) := by
  have each : ∀ entry ∈ imports, (statementsOf entry.1 entry.2).filter (·.package = package) =
      if decide (entry.1 = package) then statementsOf entry.1 entry.2 else [] := by
    intro entry _
    simp only [decide_eq_true_eq]
    split
    · rename_i same
      exact List.filter_eq_self.2 fun s own => by simp [statementsOf_package own, same]
    · rename_i other
      exact List.filter_eq_nil_iff.2 fun s own => by simp [statementsOf_package own, other]
  calc imports.statements.filter (·.package = package)
    _ = (imports.filter (·.1 = package)).flatMap fun entry => statementsOf entry.1 entry.2 := by
      rw [statements, List.filter_flatMap, List.flatMap_congr each, flatMap_filter]
    _ = statementsOf package ((imports.get? package).getD []) := by
      rw [sorted.filter_key]
      cases imports.get? package with
      | none => rfl
      | some bindings => exact List.flatMap_singleton ..

theorem statements_readable {classes : NameClasses} {imports : Imports}
    (identifiers : ∀ entry ∈ imports, ∀ b ∈ entry.2, classes.isIdentifier b.name = true)
    (quotable : ∀ entry ∈ imports, '\'' ∉ entry.1.toList ∧ '\n' ∉ entry.1.toList) :
    ∀ s ∈ imports.statements, s.Readable classes := by
  intro s member
  obtain ⟨⟨package, bindings⟩, entry, own⟩ := List.mem_flatMap.1 member
  refine ⟨names_of_mem own, fun n named => ?_, fun c inside => ?_⟩
  · have listed := (statementsOf_names package bindings).mem_iff.1 (List.mem_flatMap.2 ⟨s, own, named⟩)
    obtain ⟨b, among, rfl⟩ := List.mem_map.1 listed
    exact identifiers _ entry b among
  · rw [statementsOf_package own] at inside
    obtain ⟨quote, line⟩ := quotable _ entry
    have notQuote : c ≠ '\'' := fun same => quote (same ▸ inside)
    have notLine : c ≠ '\n' := fun same => line (same ▸ inside)
    simp [staysQuoted, notQuote, notLine]

theorem render_filter (imports : Imports) :
    render (imports.filter fun entry => !entry.2.isEmpty) = imports.render := by
  have each : ∀ entry ∈ imports, (if !entry.2.isEmpty then packageStatements entry.1 entry.2 else []) =
      packageStatements entry.1 entry.2 := by
    intro entry _
    split
    · rfl
    · rename_i none
      have empty : entry.2 = [] := by simpa using none
      rw [empty]
      rfl
  rw [render, flatMap_filter, List.flatMap_congr each]
  rfl

end Imports

/-- The text of imports is read back to statements that bind, of each package, what is listed of it, each
name as often and with the kinds that it is listed with. A package has one statement, or as many as it has
default bindings; one of which nothing is listed has none and leaves the text as it is without it. -/
theorem imports_read_back (classes : Script.NameClasses) {imports : Imports}
    (sorted : Dict.Sorted imports)
    (identifiers : ∀ entry ∈ imports, ∀ b ∈ entry.2, classes.isIdentifier b.name = true)
    (quotable : ∀ entry ∈ imports, '\'' ∉ entry.1.toList ∧ '\n' ∉ entry.1.toList) :
    (∃ statements, Script.readImports classes imports.render = some statements ∧
      ∀ package, let bindings := (imports.get? package).getD []
        let own := statements.filter (·.package = package)
        (own.flatMap ImportStatement.bindings).Perm bindings ∧
        own.length = if bindings = [] then 0 else max 1 (bindings.countP (·.isDefault))) ∧
    Imports.render (imports.filter fun entry => !entry.2.isEmpty) = imports.render := by
  refine ⟨⟨imports.statements, ?_, fun package => ?_⟩, imports.render_filter⟩
  · rw [Imports.render_eq]
    exact ImportStatement.readImports_lines (Imports.statements_readable identifiers quotable)
  · rw [Imports.statements_filter sorted]
    exact ⟨statementsOf_bindings _ _, statementsOf_length _ _⟩

def asciiNames : Script.NameClasses := ⟨fun _ => false, fun _ => false⟩

def shopImports : Imports :=
  [("./Logo", [⟨"Logo", true⟩]),
    ("antd", [⟨"Card", false⟩, ⟨"Antd", true⟩, ⟨"Tag", false⟩, ⟨"Design", true⟩]), ("icons", [])]

theorem shop_imports_read_back :
    Dict.Sorted shopImports ∧
    (∀ entry ∈ shopImports, ∀ b ∈ entry.2, asciiNames.isIdentifier b.name = true) ∧
    (∀ entry ∈ shopImports, '\'' ∉ entry.1.toList ∧ '\n' ∉ entry.1.toList) ∧
    ∃ statements, Script.readImports asciiNames shopImports.render = some statements ∧
      (statements.filter (·.package = "antd")).length = 2 ∧
      ((statements.filter (·.package = "antd")).flatMap ImportStatement.bindings).Perm
        [⟨"Card", false⟩, ⟨"Antd", true⟩, ⟨"Tag", false⟩, ⟨"Design", true⟩] ∧
      statements.filter (·.package = "icons") = [] := by
  have sorted : Dict.Sorted shopImports := by
    unfold Dict.Sorted
    decide
  have identifiers : ∀ entry ∈ shopImports, ∀ b ∈ entry.2,
      asciiNames.isIdentifier b.name = true := by decide
  have quotable : ∀ entry ∈ shopImports, '\'' ∉ entry.1.toList ∧ '\n' ∉ entry.1.toList := by decide
  obtain ⟨⟨statements, read, packages⟩, _⟩ :=
    imports_read_back asciiNames sorted identifiers quotable
  refine ⟨sorted, identifiers, quotable, statements, read, (packages "antd").2, (packages "antd").1, ?_⟩
  exact List.length_eq_zero_iff.1 (packages "icons").2

end DesignMarkup
