/-!
# Command lines

A command line is a list of arguments: options, the name of a command, and
what the command works on. An option is written with two dashes and its name,
or with one dash and its letter; letters may share a dash. An option that
takes a value takes the rest of its argument, after an equals sign if there
is one, or else the next argument, unless that looks like an option. After
two lone dashes nothing is an option.

The first argument that cannot be understood makes the whole line wrong. A
question for help or for the version is answered as soon as it is read.
-/

namespace CardQuery

/-! ## Options -/

/-- Why a command line is not carried out. -/
inductive Halt where
  /-- It is wrong. -/
  | wrong
  /-- It asks for help. -/
  | help
  /-- It asks for the version. -/
  | version
deriving DecidableEq, Repr

/-- What an option does. -/
inductive OptionKind where
  /-- It is on if it is there. -/
  | flag
  /-- It may be there any number of times. -/
  | repeated
  /-- It takes a value. -/
  | valued
  /-- It ends the reading. -/
  | halts (h : Halt)
deriving DecidableEq, Repr

/-- An option of a command. -/
structure OptionSpec where
  /-- Its name. -/
  name : String
  /-- Its letter, if it has one. -/
  letter : Option Char
  /-- What it does. -/
  kind : OptionKind
deriving DecidableEq, Repr

/-- **What has been read of a command line.** -/
structure Arguments where
  /-- The names of the options that are there. -/
  present : List String
  /-- The values of options, under their names. -/
  values : List (String × String)
  /-- The arguments that are no options. -/
  plain : List String

namespace Arguments

/-- Nothing read. -/
def empty : Arguments := ⟨[], [], []⟩

/-- An option that takes no value. -/
def withFlag (a : Arguments) (o : OptionSpec) : Except Halt Arguments :=
  match o.kind with
  | .halts h => .error h
  | .repeated => .ok a
  | .flag =>
    if a.present.contains o.name then .error .wrong
    else .ok { a with present := o.name :: a.present }
  | .valued => .error .wrong

/-- An option with its value. -/
def withValue (a : Arguments) (o : OptionSpec) (value : String) : Except Halt Arguments :=
  if a.present.contains o.name then .error .wrong
  else .ok { a with present := o.name :: a.present, values := (o.name, value) :: a.values }

/-- An argument that is no option. -/
def withPlain (a : Arguments) (s : String) : Arguments := { a with plain := a.plain ++ [s] }

/-- The value of an option. -/
def value? (a : Arguments) (name : String) : Option String :=
  (a.values.find? (·.1 == name)).map (·.2)

/-- Whether an option is there. -/
def has (a : Arguments) (name : String) : Bool := a.present.contains name

/-- Whether an argument looks like an option. A lone dash does not. -/
def looksLikeOption (s : List Char) : Bool := s.head? == some '-' && s.length > 1

/-- The text after an equals sign, or the text itself. -/
def afterEquals : List Char → List Char
  | '=' :: rest => rest
  | cs => cs

/-- **Reads letters that share a dash**, and gives the option that waits for
the next argument, if there is one. -/
def readLetters (options : List OptionSpec) (a : Arguments) :
    List Char → Except Halt (Arguments × Option OptionSpec)
  | [] => .ok (a, none)
  | c :: rest =>
    match options.find? (·.letter == some c) with
    | none => .error .wrong
    | some o =>
      if o.kind = .valued then
        if rest.isEmpty then .ok (a, some o)
        else (a.withValue o (.ofList (afterEquals rest))).map (·, none)
      else do readLetters options (← a.withFlag o) rest

/-- Reads an option by its name, and gives the option if it waits for the next
argument. -/
def readName (options : List OptionSpec) (a : Arguments) (cs : List Char) :
    Except Halt (Arguments × Option OptionSpec) :=
  let name := String.ofList (cs.takeWhile (· != '='))
  match options.find? (·.name == name), cs.dropWhile (· != '=') with
  | none, _ => .error .wrong
  | some o, [] => if o.kind = .valued then .ok (a, some o) else (a.withFlag o).map (·, none)
  | some o, _ :: value =>
    if o.kind = .valued then (a.withValue o (.ofList value)).map (·, none)
    else .error .wrong

/-- Reads one argument that looks like an option. -/
def readOption (options : List OptionSpec) (a : Arguments) :
    List Char → Except Halt (Arguments × Option OptionSpec)
  | '-' :: '-' :: name => readName options a name
  | '-' :: letters => readLetters options a letters
  | _ => .error .wrong

/-- **Reads the arguments of a command.** -/
def read (options : List OptionSpec) (a : Arguments) : List String → Except Halt Arguments
  | [] => .ok a
  | arg :: rest =>
    if arg = "--" then .ok (rest.foldl withPlain a)
    else if looksLikeOption arg.toList then
      match readOption options a arg.toList with
      | .error h => .error h
      | .ok (a, none) => read options a rest
      | .ok (a, some o) =>
        match rest with
        | value :: rest =>
          if looksLikeOption value.toList then .error .wrong
          else
            match a.withValue o value with
            | .error h => .error h
            | .ok a => read options a rest
        | [] => .error .wrong
    else read options (a.withPlain arg) rest

/-- Reads the options before the name of a command, and gives the name and
the arguments after it. -/
def readBefore (options : List OptionSpec) : List String → Except Halt (String × List String)
  | [] => .error .wrong
  | arg :: rest =>
    if arg = "--" then .error .wrong
    else if looksLikeOption arg.toList then
      match readOption options .empty arg.toList with
      | .error h => .error h
      | .ok _ => readBefore options rest
    else .ok (arg, rest)

end Arguments

end CardQuery
