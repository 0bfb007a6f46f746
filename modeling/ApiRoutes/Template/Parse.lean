import ApiRoutes.Template.Syntax
import ApiRoutes.Template.Token

/-!
# Parsing templates

A template is parsed by descent over its tokens. Operators bind in eight levels, from `or` down to
the power. Tighter than these bind signs, then attributes and calls of what is signed, then filters
and tests. Expressions, operands and statements may be nested in each other up to a limit
(`Parser.deeper`). The number of steps is bounded by the number of tokens, since on the way from one
token to the next each level is entered once.
-/

namespace ApiRoutes.Template

/-- A parser of tokens, told how deeply what it reads is nested. -/
abbrev Parser := ReaderT Nat (StateT (List Token) (Except Error))

namespace Parser

def refuse {α : Type} : Parser α := throw .syntaxError

/-- How deeply expressions, operands and statements may be nested. -/
def depthLimit : Nat := 150

/-- Parses what is nested one level deeper. -/
def deeper {α : Type} (inner : Parser α) : Parser α := fun depth =>
  if depth < depthLimit then inner (depth + 1) else throw .syntaxError

/-- The next token, which must not be broken. -/
def peek? : Parser (Option Token) := do
  match (← get).head? with
  | some (.broken error) => throw error
  | token => return token

def skip : Parser Unit := modify List.tail

def next : Parser Token := do
  match ← peek? with
  | some token => do
    skip
    return token
  | none => refuse

/-- Whether the next token is a given word. -/
def isWord (name : String) : Parser Bool := do
  match ← peek? with
  | some (.ident found) => return found = name
  | _ => return false

/-- Whether the next token is a given symbol. -/
def isSymbol (s : String) : Parser Bool := do
  match ← peek? with
  | some (.symbol found) => return found = s
  | _ => return false

/-- Whether the next token ends a statement. -/
def isStmtEnd : Parser Bool := do
  match ← peek? with
  | some .stmtEnd => return true
  | _ => return false

/-- Whether the next token is a given word, which is then taken. -/
def word (name : String) : Parser Bool := do
  if ← isWord name then
    skip
    return true
  return false

/-- Whether the next token is a given symbol, which is then taken. -/
def symbol (s : String) : Parser Bool := do
  if ← isSymbol s then
    skip
    return true
  return false

/-- Takes a word that has to come next. -/
def expectWord (name : String) : Parser Unit := do
  if !(← word name) then refuse

/-- Takes a symbol that has to come next. -/
def expectSymbol (s : String) : Parser Unit := do
  if !(← symbol s) then refuse

/-- Takes the end of a statement, which has to come next. -/
def stmtEnd : Parser Unit := do
  match ← next with
  | .stmtEnd => return ()
  | _ => refuse

def ident : Parser String := do
  match ← next with
  | .ident name => return name
  | _ => refuse

/-- The names that cannot be given a value. -/
def reserved : List String :=
  ["true", "True", "false", "False", "none", "None", "loop", "self"]

/-- The arguments of a filter, test or call: those by position and those by name. -/
abbrev Arguments := List Expr × List (String × Expr)

def operation (op : Operator) : Expr → Expr → Expr := .op op

def comparisonLevel : Nat := 3

/-- The operator of a level that a token stands for. -/
def operatorAt? (level : Nat) (token : Token) : Option (Expr → Expr → Expr) :=
  match level, token with
  | 0, .ident "or" => some .or
  | 1, .ident "and" => some .and
  | 4, .symbol "+" => some (operation .add)
  | 4, .symbol "-" => some (operation .sub)
  | 5, .symbol "~" => some (operation .concat)
  | 6, .symbol "*" => some (operation .mul)
  | 6, .symbol "/" => some (operation .div)
  | 6, .symbol "//" => some (operation .floorDiv)
  | 6, .symbol "%" => some (operation .rem)
  | 7, .symbol "**" => some (operation .pow)
  | _, _ => none

def comparison? : Parser (Option Value.Comparison) := do
  let found (comparison : Value.Comparison) : Parser (Option Value.Comparison) := do
    skip
    return some comparison
  match ← peek? with
  | some (.symbol "==") => found .eq
  | some (.symbol "!=") => found .ne
  | some (.symbol "<") => found .lt
  | some (.symbol "<=") => found .le
  | some (.symbol ">") => found .gt
  | some (.symbol ">=") => found .ge
  | some (.ident "in") => found .contained
  | some (.ident "not") => do
    skip
    expectWord "in"
    return some .notContained
  | _ => return none

def constant? : String → Option Value
  | "true" => some (.bool true)
  | "True" => some (.bool true)
  | "false" => some (.bool false)
  | "False" => some (.bool false)
  | "none" => some .none
  | "None" => some .none
  | _ => none

/-- Words that end a test without an argument. -/
def afterTest : List String := ["and", "or", "else", "is"]

def startsArgument : Token → Bool
  | .ident name => !afterTest.contains name
  | .string _ => true
  | .natural _ => true
  | .float _ => true
  | .symbol s => ["+", "-", "[", "\x7b"].contains s
  | _ => false

/-- The texts that come next, put together. -/
def strings : (fuel : Nat) → Parser String
  | 0 => refuse
  | fuel + 1 => do
    match ← peek? with
    | some (.string s) => do
      skip
      return s ++ (← strings fuel)
    | _ => return ""

mutual

def expr : (fuel : Nat) → Parser Expr
  | 0 => refuse
  | fuel + 1 => deeper do chooseRest fuel (← operand fuel 0)

/-- The conditions that follow an expression. -/
def chooseRest : (fuel : Nat) → Expr → Parser Expr
  | 0, _ => refuse
  | fuel + 1, yes => do
    if ← word "if" then
      let condition ← operand fuel 0
      let no ← if ← word "else" then some <$> expr fuel else pure none
      chooseRest fuel (.choose condition yes no)
    else return yes

/-- An operand of the level above. -/
def operand : (fuel level : Nat) → Parser Expr
  | 0, _ => refuse
  | fuel + 1, level => do
    if level = 2 then
      if ← word "not" then return .not (← operand fuel 2)
      operand fuel comparisonLevel
    else if level = comparisonLevel then
      let first ← operand fuel (level + 1)
      let steps ← comparisons fuel
      return if steps.isEmpty then first else .compare first steps
    else if level ≥ 8 then unary fuel
    else operandRest fuel level (← operand fuel (level + 1))

def operandRest : (fuel level : Nat) → Expr → Parser Expr
  | 0, _, _ => refuse
  | fuel + 1, level, left => do
    match (← peek?).bind (operatorAt? level) with
    | some combine => do
      skip
      operandRest fuel level (combine left (← operand fuel (level + 1)))
    | none => return left

def comparisons : (fuel : Nat) → Parser (List (Value.Comparison × Expr))
  | 0 => refuse
  | fuel + 1 => do
    match ← comparison? with
    | some comparison => do
      let right ← operand fuel (comparisonLevel + 1)
      return (comparison, right) :: (← comparisons fuel)
    | none => return []

/-- A signed operand with its attributes and calls, filters and tests. -/
def unary : (fuel : Nat) → Parser Expr
  | 0 => refuse
  | fuel + 1 => do filterRest fuel (← postfixRest fuel (← signed fuel))

def signed : (fuel : Nat) → Parser Expr
  | 0 => refuse
  | fuel + 1 => do
    if ← symbol "-" then return .neg (← signed fuel)
    deeper (primary fuel)

/-- A literal, a name or an expression in brackets. -/
def primary : (fuel : Nat) → Parser Expr
  | 0 => refuse
  | fuel + 1 => do
    match ← next with
    | .ident name =>
      match constant? name with
      | some value => return .const value
      | none => return .var name
    | .string s => return .const (.text (s ++ (← strings fuel)))
    | .natural n => return .const (.ofNat n)
    | .float x => return .const (.number (.float x))
    | .symbol "(" => do
      if ← symbol ")" then return .list []
      let first ← expr fuel
      if ← symbol ")" then return first
      expectSymbol ","
      return .list (first :: (← items fuel ")"))
    | .symbol "[" => return .list (← items fuel "]")
    | .symbol "\x7b" => return .table (← entries fuel)
    | _ => refuse

def items : (fuel : Nat) → (close : String) → Parser (List Expr)
  | 0, _ => refuse
  | fuel + 1, close => do
    if ← symbol close then return []
    let item ← expr fuel
    if ← symbol close then return [item]
    expectSymbol ","
    return item :: (← items fuel close)

/-- The entries of a table up to its closing brace. -/
def entries : (fuel : Nat) → Parser (List (Expr × Expr))
  | 0 => refuse
  | fuel + 1 => do
    if ← symbol "\x7d" then return []
    let key ← expr fuel
    expectSymbol ":"
    let value ← expr fuel
    if ← symbol "\x7d" then return [(key, value)]
    expectSymbol ","
    return (key, value) :: (← entries fuel)

/-- The arguments up to their closing parenthesis. -/
def args : (fuel : Nat) → Parser Arguments
  | 0 => refuse
  | fuel + 1 => do
    if ← symbol ")" then return ([], [])
    let arg ← expr fuel
    match arg, ← isSymbol "=" with
    | .var name, true => do
      skip
      let value ← expr fuel
      let (more, named) ← argsRest fuel
      return (more, (name, value) :: named)
    | _, _ => do
      let (more, named) ← argsRest fuel
      return (arg :: more, named)

def argsRest : (fuel : Nat) → Parser Arguments
  | 0 => refuse
  | fuel + 1 => do
    if ← symbol ")" then return ([], [])
    expectSymbol ","
    args fuel

def argsIfAny : (fuel : Nat) → Parser Arguments
  | 0 => refuse
  | fuel + 1 => do
    if ← symbol "(" then args fuel else return ([], [])

/-- A key or a part in brackets. -/
def subscript : (fuel : Nat) → Expr → Parser Expr
  | 0, _ => refuse
  | fuel + 1, e => do
    let start ← if ← isSymbol ":" then pure none else some <$> expr fuel
    if ← symbol ":" then
      let stop ← if (← isSymbol ":") || (← isSymbol "]") then pure none else some <$> expr fuel
      let step ←
        if ← symbol ":" then (if ← isSymbol "]" then pure none else some <$> expr fuel)
        else pure none
      expectSymbol "]"
      let bound (e : Option Expr) : Expr := e.getD (.const .none)
      return .slice e (bound start) (bound stop) (bound step)
    else
      expectSymbol "]"
      match start with
      | some key => return .get e key
      | none => refuse

/-- The attributes, keys and calls that follow an expression. -/
def postfixRest : (fuel : Nat) → Expr → Parser Expr
  | 0, _ => refuse
  | fuel + 1, e => do
    if ← symbol "." then
      match ← next with
      | .ident name =>
        if ← symbol "(" then
          let (args, named) ← args fuel
          postfixRest fuel (.method e name args named)
        else postfixRest fuel (.get e (.const (.text name)))
      | .natural n =>
        if Decimal.fitsUnsigned 64 n then postfixRest fuel (.get e (.const (.ofNat n))) else refuse
      | _ => refuse
    else if ← symbol "[" then postfixRest fuel (← subscript fuel e)
    else if ← symbol "(" then
      let (args, named) ← args fuel
      postfixRest fuel (.call e args named)
    else return e

def filterRest : (fuel : Nat) → Expr → Parser Expr
  | 0, _ => refuse
  | fuel + 1, e => do
    if ← symbol "|" then
      let name ← ident
      let (args, named) ← argsIfAny fuel
      filterRest fuel (.filter name e args named)
    else if ← word "is" then
      let negated ← word "not"
      let name ← ident
      let (args, named) ← testArgs fuel
      let test := Expr.test name e args named
      filterRest fuel (if negated then .not test else test)
    else return e

/-- The arguments of a test: in parentheses, or a single one without. -/
def testArgs : (fuel : Nat) → Parser Arguments
  | 0 => refuse
  | fuel + 1 => do
    if ← symbol "(" then args fuel
    else if ((← peek?).map startsArgument).getD false then
      return ([← postfixRest fuel (← signed fuel)], [])
    else return ([], [])

end

/-- One expression, or several with commas between them as a list. -/
def exprs (fuel : Nat) : Parser Expr := do
  let first ← expr fuel
  if ← symbol "," then return .list (first :: (← rest fuel)) else return first
where
  rest : (fuel : Nat) → Parser (List Expr)
    | 0 => refuse
    | fuel + 1 => do
      if ← isStmtEnd then return []
      let e ← expr fuel
      if ← symbol "," then return e :: (← rest fuel) else return [e]

/-- The parts of a name with points between them. -/
def members : (fuel : Nat) → Expr → Parser Target
  | 0, _ => refuse
  | fuel + 1, holder => do
    let name ← ident
    if ← symbol "." then members fuel (.get holder (.const (.text name)))
    else return .member holder

/-- A name that is assigned to, or with `dotted` a part of what it stands for. -/
def name (dotted : Bool) (fuel : Nat) : Parser Target := do
  let name ← ident
  if reserved.contains name then refuse
  if dotted then
    if ← symbol "." then return ← members fuel (.var name)
  return .name name

/-- Whether what is assigned to ends here. -/
def targetsEnd : Parser Bool := do
  match ← peek? with
  | some (.symbol ")") => return true
  | some .outputEnd => return true
  | some .stmtEnd => return true
  | some (.ident "in") => return true
  | _ => return false

mutual

/-- What is assigned to: one target, or any number of them with commas between them. -/
def targets (dotted : Bool) : (fuel : Nat) → Parser Target
  | 0 => refuse
  | fuel + 1 => do
    if ← targetsEnd then return .items []
    let first ← target dotted fuel
    if ← symbol "," then return .items (first :: (← targetsRest dotted fuel)) else return first

/-- The targets after a comma, if there are more. -/
def targetsRest (dotted : Bool) : (fuel : Nat) → Parser (List Target)
  | 0 => refuse
  | fuel + 1 => do
    if ← targetsEnd then return []
    let first ← target dotted fuel
    if ← symbol "," then return first :: (← targetsRest dotted fuel) else return [first]

/-- A name, or targets in parentheses. -/
def target (dotted : Bool) : (fuel : Nat) → Parser Target
  | 0 => refuse
  | fuel + 1 => do
    if ← symbol "(" then
      let inner ← targets false fuel
      expectSymbol ")"
      return inner
    name dotted fuel

end

/-- A list of filters with bars between them. -/
def filterChain : (fuel : Nat) → Parser (List FilterCall)
  | 0 => refuse
  | fuel + 1 => do
    let name ← ident
    let (args, named) ← argsIfAny fuel
    let call : FilterCall := ⟨name, args, named⟩
    if ← symbol "|" then return call :: (← filterChain fuel) else return [call]

def assignments : (fuel : Nat) → Parser (List (Target × Expr))
  | 0 => refuse
  | fuel + 1 => do
    let name ← target false fuel
    expectSymbol "="
    let value ← expr fuel
    if ← symbol "," then return (name, value) :: (← assignments fuel) else return [(name, value)]

mutual

/-- Statements up to one of the given words at the start of a statement, or up to the end of the
template if there are none; the word is taken. -/
def body : (fuel : Nat) → (ends : List String) → Parser (List Stmt × String)
  | 0, _ => refuse
  | fuel + 1, ends => do
    match ← peek? with
    | none => if ends.isEmpty then return ([], "") else refuse
    | some (.text s) => do
      skip
      let (more, found) ← body fuel ends
      return (.text s :: more, found)
    | some .outputStart => do
      skip
      let e ← expr fuel
      match ← next with
      | .outputEnd => do
        let (more, found) ← body fuel ends
        return (.output e :: more, found)
      | _ => refuse
    | some .stmtStart => do
      skip
      let name ← ident
      if ends.contains name then return ([], name)
      let stmt ← deeper (statement fuel name)
      let (more, found) ← body fuel ends
      return (stmt :: more, found)
    | _ => refuse

/-- What stands up to a statement of one word. -/
def bodyUpTo : (fuel : Nat) → (ending : String) → Parser (List Stmt)
  | 0, _ => refuse
  | fuel + 1, ending => do
    let (inner, _) ← body fuel [ending]
    return inner

/-- A statement after its first word. -/
def statement : (fuel : Nat) → String → Parser Stmt
  | 0, _ => refuse
  | fuel + 1, name =>
    match name with
    | "if" => branch fuel
    | "for" => do
      let target ← targets false fuel
      expectWord "in"
      let list ← operand fuel 0
      let condition ← if ← word "if" then some <$> expr fuel else pure none
      let _ ← word "recursive"
      stmtEnd
      let (inner, found) ← body fuel ["endfor", "else"]
      stmtEnd
      if found = "else" then
        let empty ← bodyUpTo fuel "endfor"
        stmtEnd
        return .loop target list condition inner empty
      return .loop target list condition inner []
    | "set" => do
      let target ← targets true fuel
      if ← symbol "=" then
        let value ← exprs fuel
        stmtEnd
        return .assign target value
      let filters ← if ← symbol "|" then filterChain fuel else pure []
      stmtEnd
      let inner ← bodyUpTo fuel "endset"
      stmtEnd
      return .capture target filters inner
    | "with" => do
      let names ← if ← isStmtEnd then pure [] else assignments fuel
      stmtEnd
      let inner ← bodyUpTo fuel "endwith"
      stmtEnd
      return .scope names inner
    | "filter" => do
      let filters ← filterChain fuel
      stmtEnd
      let inner ← bodyUpTo fuel "endfilter"
      stmtEnd
      return .filtered filters inner
    | "autoescape" => do
      let _ ← expr fuel
      stmtEnd
      let inner ← bodyUpTo fuel "endautoescape"
      stmtEnd
      return .group inner
    | "block" => do
      let _ ← ident
      stmtEnd
      let inner ← bodyUpTo fuel "endblock"
      match ← peek? with
      | some (.ident _) => skip
      | _ => pure ()
      stmtEnd
      return .scope [] inner
    | "include" => do
      let template ← expr fuel
      let ignored ← word "ignore"
      if ignored then expectWord "missing"
      stmtEnd
      return .include template ignored
    | "extends" => do
      let template ← expr fuel
      stmtEnd
      return .extends template
    | "import" => do
      let template ← expr fuel
      expectWord "as"
      let _ ← expr fuel
      stmtEnd
      return .include template false
    | "do" => do
      let e ← expr fuel
      stmtEnd
      match e with
      | .call _ _ _ => return .evaluate e
      | .method _ _ _ _ => return .evaluate e
      | _ => refuse
    | _ => refuse

/-- A branch after its first word: the condition, what it guards, and the alternatives. -/
def branch : (fuel : Nat) → Parser Stmt
  | 0 => refuse
  | fuel + 1 => do
    let condition ← expr fuel
    stmtEnd
    let (yes, found) ← body fuel ["endif", "else", "elif"]
    match found with
    | "elif" => return .branch condition yes [← branch fuel]
    | "else" => do
      stmtEnd
      let no ← bodyUpTo fuel "endif"
      stmtEnd
      return .branch condition yes no
    | _ => do
      stmtEnd
      return .branch condition yes []

end

end Parser

def parse (source : String) : Except Error (List Stmt) := do
  let tokens := Token.ofSource source
  let ((stmts, _), _) ← (Parser.body (20 * tokens.length + 20) [] 0).run tokens
  return stmts

end ApiRoutes.Template
