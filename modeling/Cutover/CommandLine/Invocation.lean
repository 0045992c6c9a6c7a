/-
**The command line.**

A command is named by one or more words, each of which chooses among the words that may follow.
Options may stand behind any word that knows them.  An option takes one value, either attached
with an equals sign or as the next argument, unless that looks like an option itself.  Options
that every word knows may be given several times as long as each is behind another word, and the
one given last counts; an option may not be repeated behind the same word.  Asking for help ends
the reading at once, and so does the first mistake.

Main definitions:

* `Cutover.CommandLine.Command`, `CommandLine.Invocation` — what is asked for;
* `Cutover.CommandLine.Invocation.parse` — the invocation that arguments ask for, or why there is
  none.
-/
import Cutover.Dict

set_option autoImplicit false

namespace Cutover.CommandLine

/-- What the program is asked to do. -/
inductive Command
  /-- Brings the listener rules of an environment in line with its mode. -/
  | updateRules (environment : String)
  /-- Deploys an image of a service and waits for the end of the rollout. -/
  | deploy (service environment : String) (imageTag : Option String)
deriving DecidableEq

/-- A command with the settings that every command takes. -/
structure Invocation where
  /-- Where the platform configuration is. -/
  config : String
  region : Option String
  profile : Option String
  command : Command
deriving DecidableEq

/-- Why arguments do not name a command to run. -/
inductive Stop
  /-- Help is asked for. -/
  | help
  /-- There is a mistake in the arguments. -/
  | usage
deriving DecidableEq

/-! ### Words and options -/

/-- Where the reading of words has got to. -/
inductive Word
  | start
  | environment
  | updateRules
  | internal
  | service
  | deploy
deriving DecidableEq

/-- The words that may follow a word. -/
def Word.following : Word → List (String × Word)
  | .start => [("environment", .environment), ("internal", .internal)]
  | .environment => [("update-alb-rules", .updateRules)]
  | .internal => [("service", .service)]
  | .service => [("deploy", .deploy)]
  | .updateRules | .deploy => []

/-- Options. -/
inductive Setting
  | config
  | region
  | profile
  | environment
  | name
  | imageTag
deriving DecidableEq

/-- The options that every word knows, by their names. -/
def Setting.common : List (String × Setting) :=
  [("config", .config), ("region", .region), ("profile", .profile)]

/-- The options that a word knows, by their names. -/
def Word.settings : Word → List (String × Setting)
  | .updateRules => Setting.common ++ [("environment", .environment)]
  | .deploy =>
    Setting.common ++ [("environment", .environment), ("name", .name), ("image-tag", .imageTag)]
  | .start | .environment | .internal | .service => Setting.common

/-- The options that have a letter. -/
def Word.letters : Word → List (Char × Setting)
  | .deploy => [('i', .imageTag)]
  | _ => []

/-! ### Options behind one word -/

/-- The options that are read behind a word. -/
structure Given where
  /-- Those that are complete. -/
  values : List (Setting × String)
  /-- The last one, while it may still lack its value. -/
  pending : Option (Setting × Option String)

namespace Given

/-- No option is read. -/
def empty : Given := ⟨[], none⟩

/-- An option with its value.  It may not be repeated, and a path may not be empty. -/
def add (g : Given) (s : Setting) (value : String) : Except Stop Given :=
  if (g.values.lookup s).isSome || (s == .config && value.isEmpty) then .error .usage
  else .ok { g with values := g.values ++ [(s, value)] }

/-- The last option is complete, unless it lacks its value. -/
def settle (g : Given) : Except Stop Given :=
  match g.pending with
  | none => .ok g
  | some (_, none) => .error .usage
  | some (s, some value) => { g with pending := none }.add s value

/-- One more option, with the value that is attached to it, if there is one. -/
def start (g : Given) (s : Setting) (attached : Option String) : Except Stop Given := do
  let g ← g.settle
  match attached with
  | some value => g.add s value
  | none => return { g with pending := some (s, none) }

end Given

/-- An argument behind two hyphens, with the value behind an equals sign, if there is one. -/
def splitAttached (cs : List Char) : String × Option String :=
  let name := String.ofList (cs.takeWhile (· != '='))
  match cs.dropWhile (· != '=') with
  | [] => (name, none)
  | _ :: value => (name, some (String.ofList value))

/-- The reading goes on behind an option, or ends with it. -/
def readLong (w : Word) (g : Given) (cs : List Char) : Except Stop Given :=
  let (name, attached) := splitAttached cs
  match w.settings.lookup name with
  | some s => g.start s attached
  | none => do
    if name = "help" ∧ attached = none then
      let _ ← g.settle
      throw .help
    else throw .usage

/-- The value attached to a letter, of which an equals sign in front is no part. -/
def attachedToLetter : List Char → Option String
  | [] => none
  | '=' :: value => some (String.ofList value)
  | value => some (String.ofList value)

/-- The reading goes on behind a letter, or ends with it. -/
def readShort (w : Word) (g : Given) (letter : Char) (rest : List Char) : Except Stop Given :=
  match w.letters.lookup letter with
  | some s => g.start s (attachedToLetter rest)
  | none => do
    if letter = 'h' then
      let _ ← g.settle
      throw .help
    else throw .usage

/-! ### Words -/

/-- What is read in all: the last word, and the options from the first word on. -/
structure Reading where
  word : Word
  values : List (Setting × String)

/-- The word that asks for help on the words behind it. -/
def helpWord : String := "help"

/-- Help on words that follow a word, if they do. -/
def helpOn (w : Word) : List String → Stop
  | [] => .help
  | name :: names =>
    match w.following.lookup name with
    | some next => helpOn next names
    | none =>
      if name = helpWord ∧ !w.following.isEmpty ∧ names.isEmpty then .help else .usage

/-- The options behind the last word are complete. -/
def finish (w : Word) (g : Given) : Except Stop Reading := do
  let g ← g.settle
  if w.following.isEmpty then
    let missing := w.settings.any (fun (_, s) =>
      (s == .environment || s == .name) && (g.values.lookup s).isNone)
    if missing then throw .usage else return ⟨w, g.values⟩
  else throw .usage

/-- The arguments behind a word are read. -/
def read (w : Word) (g : Given) : List String → Except Stop Reading
  | [] => finish w g
  | arg :: args =>
    match arg.toList with
    | ['-', '-'] => if args.isEmpty then finish w g else .error .usage
    | '-' :: '-' :: cs => do read w (← readLong w g cs) args
    | '-' :: letter :: rest => do read w (← readShort w g letter rest) args
    | _ =>
      match g.pending with
      | some (s, none) => read w { g with pending := some (s, some arg) } args
      | _ =>
        match w.following.lookup arg with
        | some next => do
          let inner ← read next .empty args
          let outer ← g.settle
          return { inner with values := outer.values ++ inner.values }
        | none =>
          if arg = helpWord ∧ !w.following.isEmpty then .error (helpOn w args)
          else .error .usage

/-- The value of an option that is given last. -/
def Reading.last? (r : Reading) (s : Setting) : Option String := r.values.reverse.lookup s

/-- The command that was read. -/
def Reading.command (r : Reading) : Command :=
  let environment := (r.last? .environment).getD ""
  if r.word = .deploy then
    .deploy ((r.last? .name).getD "") environment (r.last? .imageTag)
  else .updateRules environment

/-- Where the platform configuration is if nothing else is said. -/
def defaultConfig : String := "platform-config.yml"

/-- The invocation that arguments ask for; what they leave open the variables say. -/
def Invocation.parse (environ : Dict String) (args : List String) :
    Except Stop Invocation := do
  let r ← read .start .empty args
  return {
    config := (r.last? .config).getD defaultConfig
    region := (r.last? .region).or (environ.find? "AWS_REGION")
    profile := (r.last? .profile).or (environ.find? "AWS_PROFILE")
    command := r.command }

end Cutover.CommandLine
