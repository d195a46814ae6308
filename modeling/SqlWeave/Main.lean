import SqlWeave.Command

/-! The command line: `astify`, `sqlify`, `tables`, `columns` and `check`. The text is the argument
after the command, or standard input if there is none or it is a hyphen. -/

namespace SqlWeave.CommandLine

structure Arguments where
  options : Options := { database := some Options.defaultDatabase }
  allow : List String := []
  /-- The command and its text. -/
  words : List String := []

/-- Options may stand before, between and after the other words. -/
def parse (a : Arguments) : List String → Except String Arguments
  | [] => .ok { a with words := a.words.reverse }
  | "-d" :: name :: rest | "--database" :: name :: rest =>
    parse { a with options := { a.options with database := some name } } rest
  | "--no-trim" :: rest => parse { a with options := { a.options with trim := false } } rest
  | "--strict" :: rest => parse { a with options := { a.options with mode := .strict } } rest
  | "-a" :: pattern :: rest | "--allow" :: pattern :: rest =>
    parse { a with allow := a.allow ++ [pattern] } rest
  | "-t" :: kind :: rest | "--type" :: kind :: rest =>
    match CheckKind.ofText kind with
    | .ok kind => parse { a with options := { a.options with check := kind } } rest
    | .error message => .error message
  | word :: rest => parse { a with words := word :: a.words } rest

/-- What a command makes of its text; none for an unknown command. -/
def run? (command : String) (a : Arguments) (text : String) : Option (Except CommandError String) :=
  match command with
  | "astify" => some (Command.astify text a.options)
  | "sqlify" => some (Command.sqlify text a.options)
  | "tables" => some (Command.tables text a.options)
  | "columns" => some (Command.columns text a.options)
  | "check" => some (Command.check text a.allow a.options)
  | _ => none

def usage : String :=
  "usage: (astify | sqlify | tables | columns | check) [TEXT] [--database NAME] [--no-trim] " ++
    "[--strict] [--allow PATTERN] [--type table|column]"

partial def readAll (input : IO.FS.Stream) (done : String) : IO String := do
  let line ← input.getLine
  if line.isEmpty then return done else readAll input (done ++ line)

def fail (message : String) : IO UInt32 := do
  IO.eprintln message
  return 1

def textOf : List String → IO String
  | word :: _ => if word = "-" then do readAll (← IO.getStdin) "" else return word
  | [] => do readAll (← IO.getStdin) ""

def start (args : List String) : IO UInt32 := do
  match parse {} args with
  | .error message => fail message
  | .ok a =>
    match a.words with
    | [] => fail usage
    | command :: rest =>
      let text ← textOf rest
      match run? command a text with
      | none => fail usage
      | some (.error e) => fail e.message
      | some (.ok output) =>
        IO.println output
        return 0

end SqlWeave.CommandLine

def main (args : List String) : IO UInt32 := SqlWeave.CommandLine.start args
