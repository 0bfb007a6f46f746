import ApiRoutes.CommandLine.Request
import ApiRoutes.CommandLine.Summary
import ApiRoutes.Config
import ApiRoutes.Document.Load
import ApiRoutes.Files.Name
import ApiRoutes.Files.Tree
import ApiRoutes.Json.Printer
import ApiRoutes.Route.Run
import ApiRoutes.Yaml.Printer

/-!
# Answering requests

A request is answered with an exit code and with texts for the two outputs. All that it does to files
goes through `Workspace`, which is either a tree of files in memory or the folder of the running
program; the answer is the same function of what the files hold.
-/

namespace ApiRoutes.CommandLine

/-- What a request needs of the folder that it works in. -/
class Workspace (m : Type → Type) where
  /-- Whether there is a file or a folder with a name. -/
  has : String → m Bool
  /-- The text of a file, if there is one that can be read. -/
  read? : String → m (Option String)
  /-- Makes a folder and those above it; tells whether the folder is there. -/
  addFolders : String → m Bool
  /-- Writes a text to a file, or tells what the system says against it. -/
  write : String → String → m (Except String Unit)

/-- A tree of files is a workspace. -/
instance : Workspace (StateM Files.Tree) where
  has name := return (← get).has name
  read? name := return (← get).read? name
  addFolders name := do
    match (← get).addFolders? [] (Files.steps name) with
    | some tree => set tree; return true
    | none => return false
  write name text := do
    match (← get).write name text with
    | .ok tree => set tree; return .ok ()
    | .error e => return .error e.message

/-- How a request is answered. -/
structure Outcome where
  code : Nat
  /-- What is written to the standard output. -/
  output : String := ""
  /-- What is written to the standard error output. -/
  report : String := ""
  deriving DecidableEq, Repr

inductive Failure where
  | readConfig (name : String)
  | parseConfig (name : String)
  | readInput (name : String)
  | load (error : LoadError)
  | build (name : String)
  | createFolder (name : String)
  | writeOutput (name : String)
  | configExists (name : String)
  | system (message : String)
  deriving DecidableEq, Repr

def Failure.message : Failure → String
  | readConfig name => "failed to read config " ++ name
  | parseConfig name => "failed to parse config " ++ name
  | readInput name => "failed to read " ++ name
  | load .json => "failed to parse JSON"
  | load .yaml => "failed to parse YAML"
  | load (.version error) => error.message
  | build name => "failed to build routes for " ++ name
  | createFolder name => "failed to create directory " ++ name
  | writeOutput name => "failed to write " ++ name
  | configExists name => name ++ " already exists. Use --force to overwrite."
  | system message => message

/-- The answer to a request that succeeds or fails. -/
def Outcome.ofExcept : Except Failure Outcome → Outcome
  | .ok outcome => outcome
  | .error failure => { code := 1, report := "Error: " ++ failure.message ++ "\n" }

/-- The document in a text. The ending of the file's name tells how it is written: JSON after
`.json`, else YAML. -/
def loadNamed (name text : String) : Except LoadError Document :=
  (if Files.extension? name = some "json" then Document.ofJson text
    else Document.ofYaml text).map Prod.fst

def versionLine : String := "routegen 0.3.0\n"

/-- How the program is used. -/
def usage : String :=
"Usage: routegen <COMMAND>

Commands:
  generate  Build the route IR and write it as JSON
            [-i, --input <INPUT>] [-o, --output <OUTPUT>]
  inspect   Print the route IR of an OpenAPI document
            -i, --input <INPUT> [--format <yaml|json>] [--full]
  init      Initialize a new routegen configuration
            [--force]
"

section

variable {m : Type → Type} [Monad m] [Workspace m]

/-- The configuration of the folder, which has defaults where there is no file. -/
def loadConfig (name : String) : ExceptT Failure m Config := do
  if !(← Workspace.has (m := m) name) then return {}
  match ← Workspace.read? (m := m) name with
  | none => throw (.readConfig name)
  | some text =>
    match readYaml? Config.read text with
    | none => throw (.parseConfig name)
    | some config => return config

def buildRoutes (config : Config) (name : String) : ExceptT Failure m RouteSet := do
  match ← Workspace.read? (m := m) name with
  | none => throw (.readInput name)
  | some text =>
    match loadNamed name text with
    | .error e => throw (.load e)
    | .ok doc =>
      match run doc config.options with
      | .error _ => throw (.build name)
      | .ok result => return result.routes

/-- Writes the routes of a document to a file, whose folder is made if need be. -/
def writeRoutes (input output : Option String) : ExceptT Failure m Outcome := do
  let config ← loadConfig Config.fileName
  let output := output.getD config.output
  let routes ← buildRoutes config (input.getD config.input)
  match (Files.parent? output).filter (· ≠ "") with
  | none => pure ()
  | some folder =>
    if !(← Workspace.addFolders (m := m) folder) then throw (.createFolder folder)
  match ← Workspace.write (m := m) output (JsonText.pretty 0 routes.write) with
  | .error _ => throw (.writeOutput output)
  | .ok _ =>
    return {
      code := 0
      report := "Built " ++ Nat.repr routes.routes.length ++ " routes (" ++
        Nat.repr routes.modules.length ++ " modules, " ++ Nat.repr routes.components.length ++
        " extracted components) → " ++ output ++ "\n" }

/-- Shows the routes of a document, in full or as a summary. -/
def showRoutes (input : String) (display : Display) (full : Bool) : ExceptT Failure m Outcome := do
  let config ← loadConfig Config.fileName
  let routes ← buildRoutes config input
  let data := if full then routes.details else routes.summary
  return {
    code := 0
    output := match display with
      | .yaml => YamlText.document data
      | .json => JsonText.pretty 0 data ++ "\n" }

def writeConfig (force : Bool) : ExceptT Failure m Outcome := do
  let name := Config.fileName
  if !force && (← Workspace.has (m := m) name) then throw (.configExists name)
  match ← Workspace.write (m := m) name Config.initialText with
  | .error message => throw (.system message)
  | .ok _ => return { code := 0, report := "Created " ++ name ++ "\n" }

def Request.answer (request : Request) : m Outcome :=
  Outcome.ofExcept <$> ExceptT.run (
    match request with
    | .generate input output => writeRoutes input output
    | .inspect input display full => showRoutes input display full
    | .init force => writeConfig force
    | .version => pure { code := 0, output := versionLine }
    | .help => pure { code := 0, output := usage })

def answerArgs (args : List String) : m Outcome :=
  match Request.ofArgs? args with
  | none => pure { code := 2, report := usage }
  | some request => request.answer

end

end ApiRoutes.CommandLine
