import CardQuery.Command.Arguments
import CardQuery.Command.Listing
import CardQuery.Command.Reference
import CardQuery.Command.Selection

/-!
# Commands

Five commands: the tokens of a query, a query written out, the cards that
fit a query, the list of the pages of the reference, and one page of it. A
command is read from a command line, and what it writes follows from the
command and from what it is supplied with: the standard input and the text
of a file.
-/

namespace CardQuery

/-- **What a command line asks for.** -/
inductive Command where
  /-- The tokens of a query. -/
  | tokens (query : String)
  /-- A query written out. -/
  | parse (query : String) (outline : Bool) (limit : Nat)
  /-- The cards that fit a query. The schema is in a file. -/
  | check (selection : Selection) (schemaFile : Option String) (pretty : Bool)
  /-- The list of the pages of the reference. -/
  | docs
  /-- A page of the reference. -/
  | doc (page : String)

namespace Command

variable [PatternCompiler]

/-! ## Reading -/

/-- The options of every command. -/
def commonOptions : List OptionSpec := [
  ⟨"verbose", some 'v', .repeated⟩,
  ⟨"help", some 'h', .halts .help⟩]

/-- The options before the name of a command. -/
def leadingOptions : List OptionSpec :=
  ⟨"version", some 'V', .halts .version⟩ :: commonOptions

/-- The options of the command that writes a query out. -/
def parseOptions : List OptionSpec := [
  ⟨"pretty", some 'p', .flag⟩,
  ⟨"max-depth", none, .valued⟩]

/-- The options of the command that selects cards. -/
def checkOptions : List OptionSpec := [
  ⟨"input", some 'i', .valued⟩,
  ⟨"fields", some 'f', .valued⟩,
  ⟨"match-backs", none, .flag⟩,
  ⟨"pretty", some 'p', .flag⟩,
  ⟨"syntax-only", none, .flag⟩,
  ⟨"max-depth", none, .valued⟩,
  ⟨"fuzzy-distance", none, .valued⟩]

/-- A size: digits after an optional plus, below `2 ^ 64`. -/
def size? (s : String) : Option Nat :=
  let digits := match s.toList with
    | '+' :: rest => rest
    | cs => cs
  let n := Number.digitsValue digits
  if !digits.isEmpty && digits.all Number.isDigit && n < Nat.pow 2 64 then some n else none

/-- The size that an option gives, or else the usual one. -/
def sizeOf (a : Arguments) (name : String) (usual : Nat) : Except Halt Nat :=
  match (a.value? name).map size? with
  | none => .ok usual
  | some (some n) => .ok n
  | some none => .error .wrong

/-- The arguments of a command with its own options. -/
def read (options : List OptionSpec) (args : List String) : Except Halt Arguments :=
  Arguments.read (options ++ commonOptions) .empty args

/-- The only argument of a command that is no option. -/
def only (a : Arguments) : Except Halt String :=
  match a.plain with
  | [s] => .ok s
  | _ => .error .wrong

/-- The command that writes a query out. -/
def ofParse (a : Arguments) : Except Halt Command := do
  let limit ← sizeOf a "max-depth" Parser.defaultLimit
  return .parse (← only a) (a.has "pretty") limit

/-- The command that selects cards. -/
def ofCheck (a : Arguments) : Except Halt Command := do
  let limit ← sizeOf a "max-depth" Parser.defaultLimit
  let gap ← sizeOf a "fuzzy-distance" Needle.defaultGap
  let selection : Selection := {
    query := ← only a
    input := a.value? "input"
    schema := none
    matchBacks := a.has "match-backs"
    queryOnly := a.has "syntax-only"
    limit := limit
    gap := gap }
  return .check selection (a.value? "fields") (a.has "pretty")

/-- The command of a name with its arguments. -/
def named (name : String) (args : List String) : Except Halt Command := do
  match name with
  | "tokens" => return .tokens (← only (← read [] args))
  | "parse" => ofParse (← read parseOptions args)
  | "check" => ofCheck (← read checkOptions args)
  | "docs" => if (← read [] args).plain.isEmpty then return .docs else .error .wrong
  | "doc" => return .doc (← only (← read [] args))
  | "help" => .error .help
  | _ => .error .wrong

/-- **The command of a command line.** -/
def ofArguments (args : List String) : Except Halt Command := do
  let (name, rest) ← Arguments.readBefore leadingOptions args
  named name rest

/-! ## Carrying out -/

/-- Whether a command reads the standard input. -/
def readsInput : Command → Bool
  | check s _ _ => s.input.isNone && !s.queryOnly
  | _ => false

/-- The file that a command reads. -/
def file? : Command → Option String
  | check _ file _ => file
  | _ => none

/-- **What a command is supplied with.** -/
structure Supplies where
  /-- The standard input. -/
  input : String
  /-- The text of a file, or why it cannot be read. -/
  file : String → Except String String

/-- The text of a file that may not be asked for. -/
def Supplies.fileText (supplies : Supplies) : Option String →
    Except CommandError (Option String)
  | none => .ok none
  | some path =>
    match supplies.file path with
    | .ok text => .ok (some text)
    | .error reason => .error (.io reason)

/-- The page of a name, in any case. -/
def page (name : String) : Except CommandError ReferencePage :=
  match ReferencePage.ofName? name with
  | some p => .ok p
  | none => .error (.unknownCategory name)

/-- Some lines, each with its end. -/
def unlines (lines : List String) : String := String.join (lines.map (· ++ "\n"))

/-- **What a command writes.** -/
def output (supplies : Supplies) : Command → Except CommandError String
  | tokens query => (Listing.tokenLines query).map unlines
  | parse query outline limit => (Listing.render query outline limit).map fun s => unlines [s]
  | check s file pretty => do
    let schema ← supplies.fileText file
    let input := if s.input.isNone && !s.queryOnly then some supplies.input else s.input
    let selected ← Selection.run { s with input := input, schema := schema }
    return unlines [selected.text pretty]
  | docs => .ok (Reference.text Reference.overview)
  | doc name => (page name).map ReferencePage.text

/-- **How a command ends**: its exit code, and what it writes. -/
structure Ending where
  /-- The exit code. -/
  code : Nat
  /-- The standard output. -/
  stdout : String
  /-- The standard error. -/
  stderr : String
deriving DecidableEq, Repr

/-- The commands and how they are used. -/
def usage : String := unlines [
  "Usage: buildql [OPTIONS] <COMMAND>",
  "",
  "Commands:",
  "  tokens  Print the tokens of a query",
  "  parse   Parse a query and print it back in canonical form",
  "  check   Filter a JSON array of cards with a query",
  "  docs    List documentation categories",
  "  doc     Show documentation for a specific category"]

/-- How a command line ends that is not carried out. -/
def Ending.ofHalt : Halt → Ending
  | .wrong => ⟨2, "", usage⟩
  | .help => ⟨0, usage, ""⟩
  | .version => ⟨0, "buildql 0.1.0\n", ""⟩

/-- How a command ends. -/
def ending (supplies : Supplies) (c : Command) : Ending :=
  match c.output supplies with
  | .ok text => ⟨0, text, ""⟩
  | .error e => ⟨1, "", unlines [e.message]⟩

/-- **How a command line ends.** -/
def execute (supplies : Supplies) (args : List String) : Ending :=
  match ofArguments args with
  | .error h => .ofHalt h
  | .ok c => c.ending supplies

end Command

end CardQuery
