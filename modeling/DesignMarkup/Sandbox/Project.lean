import DesignMarkup.Config
import DesignMarkup.Import
import DesignMarkup.Json.Printer
import DesignMarkup.Sandbox.Bundle
import DesignMarkup.Sandbox.Params
/-!
A runnable project around a rendered module, as sandbox parameters.
-/
namespace DesignMarkup

structure SandboxProject where
  mode : TransformMode
  title : Option String := none
  description : Option String := none
  template : SandboxTemplate := .createReactApp
  /-- Versions to pin packages to. -/
  versions : Dict String := []

namespace SandboxProject

def ofSettings (mode : TransformMode) (s : SandboxSettings) : Except Failure SandboxProject := do
  let template ← match s.template with
    | some text => SandboxTemplate.ofText text
    | none => pure .createReactApp
  return { mode, template, title := s.title, description := s.description, versions := s.versions }

def framework : List (String × String) :=
  [("react", "^18.2.0"), ("react-dom", "^18.2.0"), ("react-scripts", "5.0.1")]

/-- Modules of the project itself are no packages. -/
def isLocal (package : String) : Bool :=
  Text.startsWith package "." || Text.startsWith package "/"

def insertAll (d : Dict String) (entries : List (String × String)) : Dict String :=
  entries.foldl (fun d (package, version) => d.insert package version) d

/-- A version is pinned only if its package is needed. -/
def dependencies (p : SandboxProject) (imports : Imports) : Dict String :=
  let imported := (imports.keys.filter (!isLocal ·)).map (·, "latest")
  let needed := insertAll (insertAll (insertAll [] framework) p.mode.runtimePackages) imported
  insertAll needed (p.versions.filter fun pin => needed.contains pin.1)

def manifest (p : SandboxProject) (imports : Imports) : Json :=
  .object [("dependencies", .object ((p.dependencies imports).mapValues .string)),
    ("main", .string "src/index.jsx"), ("name", .string "d2c-sandbox"), ("private", .bool true),
    ("scripts", .object [("build", .string "react-scripts build"),
      ("start", .string "react-scripts start")]),
    ("version", .string "0.0.0")]

def entrySource : String :=
  "import React from 'react';\nimport \x7b createRoot \x7d from 'react-dom/client';\n" ++
    "import App from './App';\n\n" ++
    "createRoot(document.getElementById('root')).render(<App />);\n"

def pageSource (title : String) : String :=
  "<!DOCTYPE html>\n<html lang=\"en\">\n  <head>\n    <meta charset=\"utf-8\" />\n    <title>" ++
    title ++ "</title>\n  </head>\n  <body>\n    <div id=\"root\"></div>\n  </body>\n</html>\n"

def files (p : SandboxProject) (source : String) (imports : Imports) (tree : Element) :
    Dict SandboxFile :=
  let assets := remoteAssets tree
  Dict.ofList ([("package.json", .text (p.manifest imports).pretty),
    ("src/App.jsx", .text (pointAtBundled source assets)), ("src/index.jsx", .text entrySource),
    ("public/index.html", .text (pageSource (p.title.getD "D2C Preview")))] ++
    assets.map fun a => (a.path, .remote a.url))

def params (p : SandboxProject) (source : String) (imports : Imports) (tree : Element) :
    SandboxParams where
  files := p.files source imports tree
  title := p.title
  description := p.description
  template := some p.template

def build (p : SandboxProject) (source : String) (imports : Imports) (tree : Element) :
    Except Failure SandboxParams := do
  let params := p.params source imports tree
  params.check
  return params

end SandboxProject
end DesignMarkup
