import EngineBridge.Command.Help
/-!
# Shell completions: `generate`

For each shell, a script that completes the commands and, after a command, its options.
-/

namespace EngineBridge.Command

/-- The words that may follow the program's name. -/
def commandWords : List String := Name.all.map Name.word ++ [helpWord]

/-- The options that may follow a command, as they are typed. -/
def optionWords (name : Name) : List String :=
  (name.options ++ globalOptions ++ standardOptions).flatMap fun option =>
    (option.short.map fun letter => "-" ++ String.singleton letter).toList
      ++ ["--" ++ option.long]

/-- What may follow a command: its options, and the values of its arguments that are
known. -/
def wordsAfter (name : Name) : List String :=
  optionWords name
    ++ name.arguments.flatMap fun argument =>
      if argument.kind = .shell then Shell.all.map Shell.name else []

def scriptText (lines : List String) : String :=
  String.join (lines.map fun line => line ++ "\n")

def bashScript : List String :=
  ["_" ++ programName ++ "() \x7b",
    "    local cur=\"$\x7bCOMP_WORDS[COMP_CWORD]\x7d\" words",
    "    case \"$\x7bCOMP_WORDS[1]\x7d\" in"]
  ++ (Name.all.map fun name =>
    "        " ++ "|".intercalate (name.word :: name.aliases) ++ ") words=\""
      ++ " ".intercalate (wordsAfter name) ++ "\" ;;")
  ++ ["        *) words=\"" ++ " ".intercalate commandWords ++ "\" ;;",
    "    esac",
    "    COMPREPLY=($(compgen -W \"$\x7bwords\x7d\" -- \"$\x7bcur\x7d\"))",
    "\x7d",
    "complete -F _" ++ programName ++ " -o default " ++ programName]

def zshScript : List String :=
  ["#compdef " ++ programName, "",
    "_" ++ programName ++ "() \x7b",
    "    if (( CURRENT == 2 )); then",
    "        compadd " ++ " ".intercalate commandWords,
    "        return",
    "    fi",
    "    case \"$words[2]\" in"]
  ++ (Name.all.map fun name =>
    "        " ++ "|".intercalate (name.word :: name.aliases) ++ ") compadd -- "
      ++ " ".intercalate (wordsAfter name) ++ "; _files ;;")
  ++ ["    esac", "\x7d", "compdef _" ++ programName ++ " " ++ programName]

/-- The lines for `fish` on one option of a command. -/
def fishOption (name : Name) (option : OptionSpec) : String :=
  "complete -c " ++ programName ++ " -n '__fish_seen_subcommand_from " ++ name.word ++ "'"
    ++ ((option.short.map fun letter => " -s " ++ String.singleton letter).getD "")
    ++ " -l " ++ option.long ++ (if option.value.isSome then " -r" else "")
    ++ " -d \"" ++ option.help ++ "\""

def fishScript : List String :=
  (Name.all.map fun name =>
    "complete -c " ++ programName ++ " -n '__fish_use_subcommand' -a " ++ name.word
      ++ " -d \"" ++ name.about.headD "" ++ "\"")
  ++ Name.all.flatMap fun name =>
    (name.options ++ globalOptions ++ standardOptions).map (fishOption name)

def elvishScript : List String :=
  ["set edit:completion:arg-completer[" ++ programName ++ "] = \x7b|@words|",
    "    var command = ''",
    "    if (> (count $words) 2) \x7b set command = $words[1] \x7d"]
  ++ (Name.all.map fun name =>
    "    if (eq $command " ++ name.word ++ ") \x7b put " ++ " ".intercalate (wordsAfter name)
      ++ " \x7d")
  ++ ["    if (eq $command '') \x7b put " ++ " ".intercalate commandWords ++ " \x7d", "\x7d"]

/-- Words between single quotes, with commas. -/
def quotedWords (words : List String) : String :=
  ", ".intercalate (words.map fun word => "'" ++ word ++ "'")

def powershellScript : List String :=
  ["Register-ArgumentCompleter -Native -CommandName '" ++ programName ++ "' -ScriptBlock \x7b",
    "    param($wordToComplete, $commandAst, $cursorPosition)",
    "    $words = switch (\"$($commandAst.CommandElements[1])\") \x7b"]
  ++ (Name.all.map fun name =>
    "        '" ++ name.word ++ "' \x7b " ++ quotedWords (wordsAfter name) ++ " \x7d")
  ++ ["        default \x7b " ++ quotedWords commandWords ++ " \x7d",
    "    \x7d",
    "    $words | Where-Object \x7b $_ -like \"$wordToComplete*\" \x7d",
    "\x7d"]

/-- `generate` with a shell: its completion script. -/
def completionText (shell : Shell) : String :=
  scriptText <|
    match shell with
    | .bash => bashScript
    | .elvish => elvishScript
    | .fish => fishScript
    | .powershell => powershellScript
    | .zsh => zshScript

end EngineBridge.Command
