import DesignMarkup.Command.Run
/-!
The program: arguments in, files and text out.
-/
namespace DesignMarkup

def systemText (code : UInt32) (details : String) : String :=
  details ++ " (os error " ++ toString code.toNat ++ ")"

def faultText : IO.Error → String
  | .noFileOrDirectory _ code details => systemText code details
  | .alreadyExists _ code details => systemText code details
  | .inappropriateType _ code details => systemText code details
  | .permissionDenied _ code details => systemText code details
  | e => toString e

def attempt {α : Type} (action : IO α) : IO (Except String α) := do
  match ← action.toBaseIO with
  | .ok a => return .ok a
  | .error e => return .error (faultText e)

def decoded (bytes : ByteArray) : Except String String :=
  match String.fromUTF8? bytes with
  | some text => .ok text
  | none => .error "stream did not contain valid UTF-8"

def spelling (path : SystemPath) : ExceptT String IO String :=
  match path.text? with
  | some text => return text
  | none => throw "Invalid or incomplete multibyte or wide character (os error 84)"

instance : Storage IO where
  readText path := ExceptT.run do
    decoded (← ExceptT.mk (attempt (IO.FS.readBinFile (← spelling path))))
  isFile path := do
    match path.text? with
    | some text => return (← attempt (IO.FS.readBinFile text)).isOk
    | none => return false
  writeText path text := ExceptT.run do
    ExceptT.mk (attempt (IO.FS.writeFile (← spelling path) text))
  createFolders path := ExceptT.run do
    let text ← spelling path
    if !text.isEmpty then ExceptT.mk (attempt (IO.FS.createDirAll text))

def helpText : String :=
  "Design-to-code - turn design node trees into a generated-code IR\n\n" ++
    "Usage: d2c [OPTIONS] <COMMAND>\n\nCommands:\n" ++
    "  transform  Transform a design tree into the IR\n" ++
    "  render     Render the IR as a JSX module\n" ++
    "  export     Export sandbox parameters for the rendered module\n"

def tellUsage (usage : Command.Usage) : IO Unit :=
  match usage with
  | .help => IO.print helpText
  | .version => IO.println ("d2c " ++ reportVersion)
  | _ => IO.eprint helpText

def runArguments (words : List String) : IO UInt32 := do
  match Command.Invocation.ofArguments words with
  | .error usage =>
    tellUsage usage
    return usage.exitCode.toUInt32
  | .ok v =>
    let home := (← IO.getEnv "HOME").map SystemPath.ofText
    let around := { home, terminal := ← (← IO.getStdout).isTty }
    let outcome ← v.run around
    IO.print outcome.output
    IO.eprint outcome.errors
    return outcome.exitCode.toUInt32

end DesignMarkup

def main (words : List String) : IO UInt32 := DesignMarkup.runArguments words
