import Recolour.Command.Basic

/-!
# Shell completions

A shell completes the names of the commands after the program's own name.
-/

namespace Recolour.Command

/-- The shells that can complete command names. -/
inductive Shell where
  | bash
  | elvish
  | fish
  | powershell
  | zsh
  deriving DecidableEq

namespace Shell

/-- The name of a shell. -/
def name : Shell → String
  | .bash => "bash"
  | .elvish => "elvish"
  | .fish => "fish"
  | .powershell => "powershell"
  | .zsh => "zsh"

/-- All shells. -/
def all : List Shell := [.bash, .elvish, .fish, .powershell, .zsh]

/-- The shell of a name. -/
def ofName? (name : String) : Option Shell :=
  all.find? (·.name == name)

/-- The line by which a shell learns the words that may follow a program's name. -/
def script (shell : Shell) (program : String) (words : List String) : String :=
  let listed := " ".intercalate words
  match shell with
  | .bash => "complete -W '" ++ listed ++ "' " ++ program ++ "\n"
  | .elvish =>
    "set edit:completion:arg-completer[" ++ program ++ "] = \x7b|@words| put " ++ listed ++ " \x7d\n"
  | .fish => "complete -c " ++ program ++ " -n __fish_use_subcommand -a '" ++ listed ++ "'\n"
  | .powershell =>
    "Register-ArgumentCompleter -Native -CommandName " ++ program
      ++ " -ScriptBlock \x7b param($word) '" ++ listed
      ++ "' -split ' ' | Where-Object \x7b $_ -like \"$word*\" \x7d \x7d\n"
  | .zsh => "compctl -k '(" ++ listed ++ ")' " ++ program ++ "\n"

end Shell

end Recolour.Command
