/-
Options and arguments on a command line.

* `Spelling`: how an option is written, and whether it takes a value.
* `Misuse`: why a command line cannot be understood.
* `Scan`: the options and the positional arguments that were found.
* `scan`: the options at the start of a command line, or anywhere in it.
-/

namespace Driftwatch.Command

/-- How an option is written. -/
structure Spelling (κ : Type) where
  option : κ
  /-- The name with two dashes. -/
  long : String
  /-- The letter with one dash. -/
  short : Option Char
  takesValue : Bool

/-- Why a command line cannot be understood. -/
inductive Misuse
  | unknownOption (name : String)
  | missingValue (name : String)
  | unexpectedValue (name : String)
  | missingArgument
  | unexpectedArgument (argument : String)
  | unknownCommand (name : String)
  | missingCommand
  deriving DecidableEq

/-- The wording of a misuse. -/
def Misuse.message : Misuse → String
  | .unknownOption name => "No such option: " ++ name
  | .missingValue name => "Option " ++ name ++ " requires an argument."
  | .unexpectedValue name => "Option " ++ name ++ " does not take a value."
  | .missingArgument => "Missing argument."
  | .unexpectedArgument argument => "Unexpected argument: " ++ argument
  | .unknownCommand name => "No such command: " ++ name
  | .missingCommand => "Missing command."

/-- What was found on a command line. -/
structure Scan (κ : Type) where
  /-- The options with their values, in order; one that takes no value has the empty text. -/
  options : List (κ × String)
  positionals : List String

namespace Scan

variable {κ : Type} [BEq κ]

/-- The option was given. -/
def has (s : Scan κ) (option : κ) : Bool :=
  s.options.any fun p => p.1 == option

/-- The last value that was given to an option. -/
def value? (s : Scan κ) (option : κ) : Option String :=
  (s.options.reverse.find? fun p => p.1 == option).map Prod.snd

/-- The last value that was given to an option, or a default. -/
def valueOr (s : Scan κ) (option : κ) (default : String) : String :=
  (s.value? option).getD default

/-- The scan with one more option in front. -/
def withOption (s : Scan κ) (option : κ × String) : Scan κ :=
  { s with options := option :: s.options }

end Scan

variable {κ : Type}

/-! ### One argument -/

/-- What one argument holds: options with their values, and an option whose value is the next
argument, with the name it was given by. -/
structure Found (κ : Type) where
  options : List (κ × String)
  waiting : Option (κ × String)

/-- The option with a long name. -/
def long? (spellings : List (Spelling κ)) (name : String) : Option (Spelling κ) :=
  spellings.find? fun s => s.long == name

/-- The option with a letter. -/
def short? (spellings : List (Spelling κ)) (letter : Char) : Option (Spelling κ) :=
  spellings.find? fun s => s.short == some letter

/-- The name and the value on the two sides of the first equals sign. -/
def splitValue (arg : List Char) : List Char × Option (List Char) :=
  (arg.takeWhile (· ≠ '='), ((arg.dropWhile (· ≠ '=')).tail?))

/-- The options that the letters after a single dash stand for.  The first that takes a value
takes the rest of the letters, if there are any. -/
def readLetters (spellings : List (Spelling κ)) : List Char → Except Misuse (Found κ)
  | [] => .ok { options := [], waiting := none }
  | c :: cs =>
    let name := String.ofList ['-', c]
    match short? spellings c with
    | none => .error (.unknownOption name)
    | some s =>
      if s.takesValue then
        if cs.isEmpty then .ok { options := [], waiting := some (s.option, name) }
        else .ok { options := [(s.option, String.ofList cs)], waiting := none }
      else
        (readLetters spellings cs).map fun f =>
          { f with options := (s.option, "") :: f.options }

/-- The options that an argument with a dash in front holds. -/
def readSwitches (spellings : List (Spelling κ)) (arg : String) : Except Misuse (Found κ) :=
  let (name, value) := splitValue arg.toList
  let name := String.ofList name
  match long? spellings name, value with
  | some s, some v =>
    if s.takesValue then .ok { options := [(s.option, String.ofList v)], waiting := none }
    else .error (.unexpectedValue name)
  | some s, none =>
    if s.takesValue then .ok { options := [], waiting := some (s.option, name) }
    else .ok { options := [(s.option, "")], waiting := none }
  | none, _ =>
    match arg.toList with
    | '-' :: '-' :: _ => .error (.unknownOption name)
    | _ => readLetters spellings arg.toList.tail

/-! ### A whole command line -/

/-- The argument has a dash in front, and more than that. -/
def isSwitch (arg : String) : Bool :=
  match arg.toList with
  | '-' :: _ :: _ => true
  | _ => false

/-- The options and positional arguments of a command line.  Two dashes end the options, and so
does the first positional argument unless options may stand anywhere. -/
def scan (spellings : List (Spelling κ)) (anywhere : Bool) :
    List String → Except Misuse (Scan κ)
  | [] => .ok { options := [], positionals := [] }
  | arg :: rest =>
    if arg = "--" then .ok { options := [], positionals := rest }
    else if isSwitch arg then
      match readSwitches spellings arg with
      | .error e => .error e
      | .ok found =>
        let add (s : Scan κ) : Scan κ := { s with options := found.options ++ s.options }
        match found.waiting with
        | none => (scan spellings anywhere rest).map add
        | some (option, name) =>
          match rest with
          | [] => .error (.missingValue name)
          | value :: rest =>
            (scan spellings anywhere rest).map fun s => add (s.withOption (option, value))
    else if anywhere then
      (scan spellings anywhere rest).map fun s =>
        { s with positionals := arg :: s.positionals }
    else .ok { options := [], positionals := arg :: rest }

end Driftwatch.Command
