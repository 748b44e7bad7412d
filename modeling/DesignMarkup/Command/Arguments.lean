import DesignMarkup.Config
import DesignMarkup.Sandbox.Params
import DesignMarkup.Storage
/-!
The command line. Options stand before the subcommand or behind it, each at most once at either
place, and the inner place wins. The value of an option is checked when the next option starts. Words
are read here as far as they are text; what is to be run may have any paths.
-/
namespace DesignMarkup.Command

inductive OutputFormat where
  | json
  | pretty
deriving DecidableEq, Repr

instance : Keyword OutputFormat := ⟨[("json", .json), ("pretty", .pretty)]⟩

inductive LogLevel where
  | warn
  | debug
deriving DecidableEq, Repr

instance : Keyword LogLevel := ⟨[("WARN", .warn), ("DEBUG", .debug)]⟩

def LogLevel.ofVerbose (verbose : Bool) : LogLevel := if verbose then .debug else .warn

inductive Usage where
  | help
  | version
  /-- There are no arguments at all. -/
  | nothing
  | missingSubcommand
  | invalidSubcommand
  | unknownArgument
  | repeated
  | invalidValue
  | refusedValue
  | valueForSwitch
  | missingInput
deriving DecidableEq, Repr

/-- To ask for help is no mistake. -/
def Usage.exitCode : Usage → Nat
  | help => 0
  | version => 0
  | _ => 2

inductive Subcommand where
  | transform
  | render
  | sandbox
deriving DecidableEq, Repr

instance : Keyword Subcommand :=
  ⟨[("transform", .transform), ("render", .render), ("export", .sandbox)]⟩

inductive Switch where
  | verbose
  | keepInvisible
  | parallel
  | strict
  | help
  | version
deriving DecidableEq, Repr

inductive Setting where
  | config
  | input
  | mode
  | format
  | output
  | component
  | template
  | title
  | out
  | dir
deriving DecidableEq, Repr

/-- Why the value cannot be used; paths are not empty. -/
def Setting.refusal? (s : Setting) (value : String) : Option Usage :=
  match s with
  | .mode => if (TransformMode.ofText value).isOk then none else some .refusedValue
  | .template => if (SandboxTemplate.ofText value).isOk then none else some .refusedValue
  | .format =>
    if (Keyword.ofText? value : Option OutputFormat).isSome then none else some .invalidValue
  | .component => none
  | .title => none
  | _ => if value = "" then some .invalidValue else none

inductive Parameter where
  | switch (s : Switch)
  | setting (s : Setting)
deriving DecidableEq, Repr

structure Grammar where
  long : List (String × Parameter)
  short : List (Char × Parameter)
  /-- The mistake that a word of its own is; `escaped` tells of one behind two hyphens. -/
  stray : (escaped : Bool) → String → Usage

def commonLong : List (String × Parameter) :=
  [("verbose", .switch .verbose), ("config", .setting .config), ("help", .switch .help),
    ("version", .switch .version)]

def commonShort : List (Char × Parameter) := [('h', .switch .help), ('V', .switch .version)]

def isSubcommandName (word : String) : Bool :=
  word == "help" || (Keyword.ofText? word : Option Subcommand).isSome

def outerGrammar : Grammar where
  long := commonLong
  short := commonShort
  stray escaped word :=
    if escaped && isSubcommandName word then .unknownArgument else .invalidSubcommand

def Subcommand.long : Subcommand → List (String × Parameter)
  | transform => []
  | render => [("component", .setting .component), ("out", .setting .out)]
  | sandbox =>
    [("template", .setting .template), ("title", .setting .title), ("out", .setting .out),
      ("dir", .setting .dir)]

def innerGrammar (c : Subcommand) : Grammar where
  long := commonLong ++
    [("input", .setting .input), ("mode", .setting .mode),
      ("keep-invisible", .switch .keepInvisible), ("parallel", .switch .parallel),
      ("strict", .switch .strict), ("format", .setting .format), ("output", .setting .output)] ++
    c.long
  short := commonShort ++ [('i', .setting .input), ('o', .setting .output)]
  stray _ _ := .unknownArgument

/-- What was read at one place. A pending setting is not checked yet and may wait for its value. -/
structure Level where
  switches : List Switch := []
  settings : List (Setting × String) := []
  pending : Option (Setting × Option String) := none
  escaped : Bool := false

namespace Level

def settle (l : Level) : Except Usage Level :=
  match l.pending with
  | none => .ok l
  | some (_, none) => .error .invalidValue
  | some (s, some value) =>
    if (l.settings.lookup s).isSome then .error .repeated
    else
      match s.refusal? value with
      | some usage => .error usage
      | none => .ok { l with pending := none, settings := l.settings ++ [(s, value)] }

def isWaiting (l : Level) : Bool :=
  match l.pending with
  | some (_, none) => true
  | _ => false

def useSwitch (s : Switch) (l : Level) : Except Usage Level := do
  let l ← l.settle
  match s with
  | .help => throw .help
  | .version => throw .version
  | _ =>
    if l.switches.contains s then throw .repeated
    else return { l with switches := s :: l.switches }

/-- A value that is attached to its option is checked at once. -/
def startSetting (s : Setting) (attached : Option String) (l : Level) : Except Usage Level := do
  let l := { (← l.settle) with pending := some (s, attached) }
  if attached.isSome then l.settle else return l

def acceptLong (g : Grammar) (text : List Char) (l : Level) : Except Usage Level :=
  let name := String.ofList (text.takeWhile (· != '='))
  let value := match text.dropWhile (· != '=') with
    | [] => none
    | _ :: rest => some (String.ofList rest)
  match g.long.lookup name with
  | none => .error .unknownArgument
  | some (.setting s) => l.startSetting s value
  | some (.switch s) => if value.isSome then .error .valueForSwitch else l.useSwitch s

/-- Short options stand together up to one that takes the rest as its value. -/
def acceptShort (g : Grammar) : List Char → Level → Except Usage Level
  | [], l => .ok l
  | c :: rest, l =>
    match g.short.lookup c with
    | none => .error .unknownArgument
    | some (.switch s) => do acceptShort g rest (← l.useSwitch s)
    | some (.setting s) =>
      let value := match rest with
        | [] => none
        | '=' :: value => some (String.ofList value)
        | value => some (String.ofList value)
      l.startSetting s value

def acceptWord (g : Grammar) (word : String) (l : Level) : Except Usage Level :=
  match l.pending with
  | some (s, none) => .ok { l with pending := some (s, some word) }
  | _ => .error (g.stray false word)

def accept (g : Grammar) (l : Level) (word : String) : Except Usage Level :=
  if l.escaped then .error (g.stray true word)
  else
    match word.toList with
    | ['-', '-'] => .ok { l with escaped := true }
    | '-' :: '-' :: text => l.acceptLong g text
    | '-' :: c :: rest => l.acceptShort g (c :: rest)
    | _ => l.acceptWord g word

end Level

structure InputOptions where
  input : SystemPath
  overrides : Overrides
  format : OutputFormat
  output : Option SystemPath

inductive Action where
  | transform
  | render (component : String) (out : Option SystemPath)
  | sandbox (template : Option SandboxTemplate) (title : Option String) (out dir : Option SystemPath)

structure Invocation where
  verbose : Bool
  configPath : Option SystemPath
  options : InputOptions
  action : Action

def readInner (c : Subcommand) (words : List String) : Except Usage (String × Level) := do
  let l ← (← words.foldlM (Level.accept (innerGrammar c)) {}).settle
  match l.settings.lookup .input with
  | some input => return (input, l)
  | none => throw .missingInput

def mode? (l : Level) : Option TransformMode :=
  (l.settings.lookup .mode).bind fun text => (TransformMode.ofText text).toOption

def template? (l : Level) : Option SandboxTemplate :=
  (l.settings.lookup .template).bind fun text => (SandboxTemplate.ofText text).toOption

def format? (l : Level) : Option OutputFormat :=
  (l.settings.lookup .format).bind Keyword.ofText?

def path? (l : Level) (s : Setting) : Option SystemPath := (l.settings.lookup s).map .ofText

def invocation (outer inner : Level) (c : Subcommand) (input : String) : Invocation where
  verbose := outer.switches.contains .verbose || inner.switches.contains .verbose
  configPath := (path? inner .config).or (path? outer .config)
  options :=
    { input
      overrides :=
        { mode := mode? inner
          keepInvisible := inner.switches.contains .keepInvisible
          parallel := inner.switches.contains .parallel
          strict := inner.switches.contains .strict }
      format := (format? inner).getD .json
      output := path? inner .output }
  action :=
    match c with
    | .transform => .transform
    | .render =>
      .render ((inner.settings.lookup .component).getD "App") (path? inner .out)
    | .sandbox =>
      .sandbox (template? inner) (inner.settings.lookup .title) (path? inner .out)
        (path? inner .dir)

def helpUsage : List String → Usage
  | [] => .help
  | [word] => if isSubcommandName word then .help else .invalidSubcommand
  | _ => .invalidSubcommand

def readOuter : Level → List String → Except Usage Invocation
  | l, [] => do
    let l ← l.settle
    throw (if l.switches.isEmpty && l.settings.isEmpty then .nothing else .missingSubcommand)
  | l, word :: rest =>
    if l.escaped || l.isWaiting then do readOuter (← l.accept outerGrammar word) rest
    else if word = "help" then .error (helpUsage rest)
    else
      match Keyword.ofText? word with
      | none => do readOuter (← l.accept outerGrammar word) rest
      | some c => do
        let (input, inner) ← readInner c rest
        return invocation (← l.settle) inner c input

def Invocation.ofArguments (words : List String) : Except Usage Invocation := readOuter {} words

end DesignMarkup.Command
