/-
Invocations of the program.

* `Task`: what the program can be asked to do.
* `Action`: a task, a request for help, or a command line that cannot be understood.
* `Invocation.parse`: what a command line asks for.
-/
import Driftwatch.Command.Options
import Driftwatch.Report.Basic
import Driftwatch.Text.Alphanumeric

namespace Driftwatch.Command

/-! ### Options -/

/-- The options of the program and its commands. -/
inductive Switch
  | help
  | verbose
  | output
  | namespaceName
  | context
  | fieldManager
  | user
  | uid
  deriving DecidableEq

/-- How an option is written. -/
def Switch.spelling : Switch → Spelling Switch
  | .help => ⟨.help, "--help", none, false⟩
  | .verbose => ⟨.verbose, "--verbose", some 'v', false⟩
  | .output => ⟨.output, "--output", some 'o', true⟩
  | .namespaceName => ⟨.namespaceName, "--namespace", some 'n', true⟩
  | .context => ⟨.context, "--context", none, true⟩
  | .fieldManager => ⟨.fieldManager, "--field-manager", none, true⟩
  | .user => ⟨.user, "--user", none, true⟩
  | .uid => ⟨.uid, "--uid", none, true⟩

/-- How the arguments of a command are written. -/
structure Grammar where
  switches : List Switch
  /-- Options may stand behind positional arguments. -/
  anywhere : Bool

namespace Grammar

/-- The grammar of the program itself, up to the name of a command. -/
def root : Grammar :=
  { switches := [.help, .verbose], anywhere := false }

/-- The grammar of the command that prints a fingerprint. -/
def hash : Grammar :=
  { switches := [.help, .uid], anywhere := false }

/-- The grammar of the command that shows a parent. -/
def parent : Grammar :=
  { switches := [.help, .output, .namespaceName, .context], anywhere := true }

/-- The grammar of the command that decides on a change. -/
def drift : Grammar :=
  { switches := parent.switches ++ [.fieldManager, .user, .uid], anywhere := true }

/-- The options and positional arguments of a command line. -/
def scan (g : Grammar) (args : List String) : Except Misuse (Scan Switch) :=
  Command.scan (g.switches.map Switch.spelling) g.anywhere args

end Grammar

/-! ### Tasks -/

/-- The object that a command is about, and how the answer is to look. -/
structure Child where
  apiVersion : String
  kind : String
  name : String
  namespaceName : String
  context : Option String
  format : Report.Format

/-- What the program can be asked to do. -/
inductive Task
  /-- Print the fingerprint of an actor. -/
  | hash (username uid : String)
  /-- Show the parent of an object. -/
  | parent (child : Child)
  /-- Decide on a change of an object. -/
  | drift (child : Child) (fieldManager user uid : String)

/-- What a command line asks for. -/
inductive Action
  | help
  | misuse (m : Misuse)
  | perform (task : Task)

/-- The text begins with neither a letter nor a numeral, so that it looks like an option. -/
def looksLikeSwitch (arg : String) : Bool :=
  match arg.toList with
  | c :: _ => !Text.isAlphanumeric c
  | [] => false

/-- The action on arguments that are left over.  If the first looks like an option they are gone
through once more, for someone may be asking for help. -/
def leftOver (g : Grammar) (args : List String) (m : Misuse) : Action :=
  if looksLikeSwitch (args.headD "") then
    match g.scan args with
    | .error m => .misuse m
    | .ok s => if s.has .help then .help else .misuse m
  else .misuse m

/-- The action on the arguments of a command: help if that is asked for, and otherwise what
`make` makes of the positional arguments; it answers with those that are left over. -/
def act (g : Grammar) (args : List String)
    (make : Scan Switch → Option (Task × List String)) : Action :=
  match g.scan args with
  | .error m => .misuse m
  | .ok s =>
    if s.has .help then .help
    else match make s with
      | none => .misuse .missingArgument
      | some (task, []) => .perform task
      | some (_, extra :: rest) => leftOver g (extra :: rest) (.unexpectedArgument extra)

/-- The object that three positional arguments and some options describe. -/
def childOf (s : Scan Switch) (apiVersion kind name : String) : Child :=
  { apiVersion, kind, name
    namespaceName := s.valueOr .namespaceName ""
    context := s.value? .context
    format := Report.Format.ofName (s.valueOr .output "table") }

/-- The commands of the program. -/
inductive Name
  | hash
  | parent
  | drift
  deriving DecidableEq

/-- The command of a name. -/
def Name.ofText? (s : String) : Option Name :=
  if s = "hash" then some .hash
  else if s = "parent" then some .parent
  else if s = "drift" then some .drift
  else none

/-- The action on the arguments of a command. -/
def Name.action (args : List String) : Name → Action
  | .hash =>
    act .hash args fun s =>
      some (.hash (s.positionals.headD "") (s.valueOr .uid ""), s.positionals.drop 1)
  | .parent =>
    act .parent args fun s =>
      match s.positionals with
      | apiVersion :: kind :: name :: rest => some (.parent (childOf s apiVersion kind name), rest)
      | _ => none
  | .drift =>
    act .drift args fun s =>
      match s.positionals with
      | apiVersion :: kind :: name :: rest =>
        some
          (.drift (childOf s apiVersion kind name) (s.valueOr .fieldManager "")
            (s.valueOr .user "") (s.valueOr .uid ""), rest)
      | _ => none

/-- What a command line asks for, and whether all log lines are to be shown.  The latter takes
effect as soon as the name of the command is known. -/
structure Invocation where
  verbose : Bool
  action : Action

namespace Invocation

/-- An invocation that does not get as far as a command. -/
def early (action : Action) : Invocation :=
  { verbose := false, action }

/-- The invocation that a command line stands for. -/
def parse (args : List String) : Invocation :=
  if args.isEmpty then early (.misuse .missingCommand)
  else match Grammar.root.scan args with
    | .error m => early (.misuse m)
    | .ok s =>
      if s.has .help then early .help
      else match s.positionals with
        | [] => early (.misuse .missingCommand)
        | word :: rest =>
          match Name.ofText? word with
          | none => early (leftOver .root (word :: rest) (.unknownCommand word))
          | some name => { verbose := s.has .verbose, action := name.action rest }

end Invocation

end Driftwatch.Command
