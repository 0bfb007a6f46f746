import ApiRoutes.Data.Entries

/-!
# Options of a command line

Options are given by a long name after two hyphens or by a letter after one. The value of an option
follows it as the next argument, or in the same one: after an equals sign, or right after the letter.
Letters may share a hyphen. No option may be given twice.
-/

namespace ApiRoutes.CommandLine

structure Flag where
  name : String
  letter : Option Char := none
  hasValue : Bool := false
  accepts : String → Bool := fun _ => true

/-- What one argument asks for. -/
inductive Use where
  | help
  | version
  /-- An option, with the value that is given in the same argument. -/
  | flag (flag : Flag) (value : Option String)

structure Options where
  flags : List Flag
  hasVersion : Bool := false

/-- What a list of arguments asks for. -/
inductive Given where
  | help
  | version
  /-- The options by name, and the arguments after them. -/
  | values (options : Entries String) (rest : List String)
  deriving DecidableEq, Repr

namespace Options

/-- A name with the value that follows it after an equals sign. -/
def splitValue (cs : List Char) : String × Option String :=
  let name := cs.takeWhile (· ≠ '=')
  match cs.drop name.length with
  | [] => (String.ofList name, none)
  | _ :: value => (String.ofList name, some (String.ofList value))

/-- What a long name asks for. -/
def long? (options : Options) (cs : List Char) : Option Use :=
  match splitValue cs with
  | ("help", none) => some .help
  | (name, value) =>
    if name = "version" && value.isNone && options.hasVersion then some .version
    else
      match options.flags.find? (·.name = name) with
      | none => none
      | some flag => if value.isSome && !flag.hasValue then none else some (.flag flag value)

/-- What letters after a hyphen ask for, up to one that is unknown. The rest of the letters is the
value of the first option that has one. -/
def letters (options : Options) : List Char → List (Option Use)
  | [] => []
  | c :: cs =>
    if c = 'h' then [some .help]
    else if c = 'V' && options.hasVersion then [some .version]
    else
      match options.flags.find? (·.letter = some c) with
      | none => [none]
      | some flag =>
        if flag.hasValue then
          match cs with
          | [] => [some (.flag flag none)]
          | '=' :: value => [some (.flag flag (some (String.ofList value)))]
          | value => [some (.flag flag (some (String.ofList value)))]
        else some (.flag flag none) :: letters options cs

/-- What an argument asks for; nothing if it is no option. An unknown option is `none`. -/
def uses (options : Options) (arg : String) : List (Option Use) :=
  match arg.toList with
  | '-' :: '-' :: cs => [options.long? cs]
  | '-' :: c :: cs => options.letters (c :: cs)
  | _ => []

/-- Whether an argument may be the value of the option before it. -/
def isValue (arg : String) : Bool := arg = "-" || arg.toList.head? ≠ some '-'

/-- Notes an option with its value, which must be new and accepted. -/
def note? (given : Entries String) (flag : Flag) (value : String) : Option (Entries String) :=
  if (given.find? flag.name).isSome || !flag.accepts value then none
  else some (given ++ [(flag.name, value)])

/-- The outcome of what one argument asks for: an answer at once, or the options with the one that
still waits for its value. -/
def process? (given : Entries String) : List (Option Use) → Option (Given ⊕ (Entries String × Option Flag))
  | [] => some (.inr (given, none))
  | none :: _ => none
  | some .help :: _ => some (.inl .help)
  | some .version :: _ => some (.inl .version)
  | some (.flag flag value) :: rest =>
    match value, flag.hasValue with
    | none, true => some (.inr (given, some flag))
    | value, _ => (note? given flag (value.getD "")).bind (process? · rest)

/-- Reads arguments up to the first that is no option. Two hyphens alone end the options. -/
def read? (options : Options) : Entries String → List String → Option Given
  | given, [] => some (.values given [])
  | given, arg :: rest =>
    if arg = "--" then (if rest.isEmpty then some (.values given []) else none)
    else
      match options.uses arg with
      | [] => some (.values given (arg :: rest))
      | uses =>
        match process? given uses with
        | none => none
        | some (.inl answer) => some answer
        | some (.inr (given, none)) => read? options given rest
        | some (.inr (given, some flag)) =>
          match rest with
          | [] => none
          | value :: rest =>
            if isValue value then (note? given flag value).bind (read? options · rest) else none

end Options

end ApiRoutes.CommandLine
