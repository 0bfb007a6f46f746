import ApiRoutes.CommandLine.Options

/-!
# Requests

What the program can be asked to do, and the arguments that ask for it.
-/

namespace ApiRoutes.CommandLine

inductive Display where
  | yaml
  | json
  deriving DecidableEq, Repr, Inhabited

inductive Request where
  /-- Write the routes of a document to a file; what is not given is configured. -/
  | generate (input output : Option String)
  /-- Show the routes of a document. -/
  | inspect (input : String) (display : Display) (full : Bool)
  /-- Write a first configuration, over an existing one only if `force`. -/
  | init (force : Bool)
  | version
  | help
  deriving DecidableEq, Repr, Inhabited

def Display.ofName? : String → Option Display
  | "yaml" => some yaml
  | "json" => some json
  | _ => none

namespace Request

def fileFlag (name : String) (letter : Char) : Flag :=
  { name, letter := some letter, hasValue := true, accepts := (· ≠ "") }

def generateOptions : Options := { flags := [fileFlag "input" 'i', fileFlag "output" 'o'] }

def inspectOptions : Options :=
  { flags := [fileFlag "input" 'i',
      { name := "format", hasValue := true, accepts := fun name => (Display.ofName? name).isSome },
      { name := "full" }] }

def initOptions : Options := { flags := [{ name := "force" }] }

/-- The options before a command. -/
def topOptions : Options := { flags := [], hasVersion := true }

/-- The request of a command that takes options only. -/
def ofOptions? (options : Options) (make : Entries String → Option Request) (args : List String) :
    Option Request :=
  match options.read? [] args with
  | some (.values given []) => make given
  | some .help => some .help
  | some .version => some .version
  | _ => none

def ofCommand? (command : String) (args : List String) : Option Request :=
  match command with
  | "generate" =>
    ofOptions? generateOptions
      (fun given => some (.generate (given.find? "input") (given.find? "output"))) args
  | "inspect" =>
    ofOptions? inspectOptions
      (fun given => (given.find? "input").map fun input =>
        .inspect input (((given.find? "format").bind Display.ofName?).getD .yaml)
          (given.find? "full").isSome) args
  | "init" => ofOptions? initOptions (fun given => some (.init (given.find? "force").isSome)) args
  | _ => none

/-- The commands that help can be asked for. -/
def commands : List String := ["generate", "inspect", "init", "help"]

/-- The request that arguments make; there is none where they are not understood. -/
def ofArgs? (args : List String) : Option Request :=
  match topOptions.read? [] args with
  | some .help => some .help
  | some .version => some .version
  | some (.values _ ["help"]) => some .help
  | some (.values _ ["help", command]) => if commands.contains command then some .help else none
  | some (.values _ (command :: args)) => ofCommand? command args
  | _ => none

end Request

end ApiRoutes.CommandLine
