import ApiRoutes.Template.Operator

/-!
# The syntax of templates

A template is a list of statements; texts and outputs are statements too.
-/

namespace ApiRoutes.Template

/-- An expression. A filter, test or call has arguments by position and arguments by name. -/
inductive Expr where
  | const (value : Value)
  | var (name : String)
  | list (items : List Expr)
  | table (entries : List (Expr × Expr))
  | not (e : Expr)
  | neg (e : Expr)
  | and (a b : Expr)
  | or (a b : Expr)
  | op (operator : Operator) (a b : Expr)
  /-- An operand compared with the next one, that one with the one after it, and so on. -/
  | compare (e : Expr) (steps : List (Value.Comparison × Expr))
  /-- One expression or another, which may be missing. -/
  | choose (condition yes : Expr) (no : Option Expr)
  | get (e key : Expr)
  | slice (e start stop step : Expr)
  | filter (name : String) (e : Expr) (args : List Expr) (named : List (String × Expr))
  | test (name : String) (e : Expr) (args : List Expr) (named : List (String × Expr))
  | call (function : Expr) (args : List Expr) (named : List (String × Expr))
  | method (e : Expr) (name : String) (args : List Expr) (named : List (String × Expr))
  deriving Inhabited

structure FilterCall where
  name : String
  args : List Expr
  named : List (String × Expr)
  deriving Inhabited

/-- What an assignment or a loop gives values to. -/
inductive Target where
  | name (name : String)
  | items (targets : List Target)
  /-- A part of another value. No value lets its parts be set. -/
  | member (holder : Expr)
  deriving Inhabited

inductive Stmt where
  | text (s : String)
  | output (e : Expr)
  | branch (condition : Expr) (yes no : List Stmt)
  /-- A loop over the items that pass the condition, with what is shown if there are none. -/
  | loop (target : Target) (items : Expr) (condition : Option Expr) (body none : List Stmt)
  | assign (target : Target) (e : Expr)
  /-- Gives what a body shows to a name, filtered. -/
  | capture (target : Target) (filters : List FilterCall) (body : List Stmt)
  /-- A body with names of its own. -/
  | scope (assignments : List (Target × Expr)) (body : List Stmt)
  /-- A body without names of its own. -/
  | group (body : List Stmt)
  /-- What a body shows, filtered. -/
  | filtered (filters : List FilterCall) (body : List Stmt)
  /-- Another template, which may be missing. -/
  | include (name : Expr) (ignoreMissing : Bool)
  | extends (name : Expr)
  | evaluate (e : Expr)
  deriving Inhabited

end ApiRoutes.Template
