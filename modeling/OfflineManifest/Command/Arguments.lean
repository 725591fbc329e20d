import OfflineManifest.Command.Options

/-! # Reading the command line

The words of a command line are read from the left. A word that starts with a hyphen, other than a
hyphen alone, names options: `--name`, `--name=value`, or single letters, the last of which may be
followed by its value. An option without a value in its word takes it from the words that follow,
`--url` all of them up to the next option. `--` ends the options. Options before the command are
those of the program; they may also follow the command, where they count more.

* `Collected.set` records an option; only `--url` may come twice.
* `scan` reads the words of one level, the program or a command.
* `Command.parse` reads a whole command line.
-/

namespace OfflineManifest

namespace Arguments

/-- Why reading stops before there is a command. -/
inductive Stop where
  /-- the words do not fit the usage -/
  | usage
  /-- the version is asked for -/
  | version
  /-- help is asked for -/
  | help
  deriving DecidableEq, Repr

/-- What a word belongs to. -/
inductive Level where
  | program
  | generate
  | check
  deriving DecidableEq, Repr

/-- An option. -/
inductive Parameter where
  | quiet
  | verbose
  | color
  | base
  | output
  | format
  | url
  | version
  | help
  deriving DecidableEq, Repr

/-- How many values an option takes. -/
inductive Arity where
  | none
  | one
  /-- at least one -/
  | many
  deriving DecidableEq, Repr

/-- How many values an option takes. -/
def Parameter.arity : Parameter → Arity
  | quiet | verbose | version | help => .none
  | color | base | output | format => .one
  | url => .many

/-- The levels at which an option is known. -/
def Parameter.isKnown : Parameter → Level → Bool
  | quiet, _ | verbose, _ | color, _ | help, _ => true
  | version, level => level = .program
  | base, level => level ≠ .program
  | output, level | format, level => level = .generate
  | url, level => level = .check

/-- The options with their names. -/
def longNames : List (String × Parameter) :=
  [("quiet", .quiet), ("verbose", .verbose), ("color", .color), ("base-href", .base),
    ("output", .output), ("format", .format), ("url", .url), ("version", .version),
    ("help", .help)]

/-- The options that have a letter. -/
def letters : List (Char × Parameter) :=
  [('q', .quiet), ('v', .verbose), ('o', .output), ('f', .format), ('V', .version), ('h', .help)]

/-- The option with a name at a level. -/
def long? (level : Level) (name : String) : Option Parameter :=
  (longNames.lookup name).filter (·.isKnown level)

/-- The option with a letter at a level. -/
def letter? (level : Level) (c : Char) : Option Parameter :=
  (letters.lookup c).filter (·.isKnown level)

/-- What was read at a level. -/
structure Collected where
  quiet : Bool := false
  verbose : Bool := false
  color : Option ColorChoice := none
  base : Option String := none
  output : Option String := none
  format : Option ReportFormat := none
  urls : List String := []
  /-- the words that are no options nor their values -/
  operands : List String := []
  deriving DecidableEq, Repr

/-- A value for an option that has none yet. -/
def once {α : Type} (old : Option α) (new : Option α) : Except Stop (Option α) :=
  match old, new with
  | none, some value => .ok (some value)
  | _, _ => .error .usage

/-- **Records an option** with its values. -/
def Collected.set (c : Collected) (p : Parameter) (values : List String) :
    Except Stop Collected :=
  match p, values with
  | .quiet, [] => if c.quiet then .error .usage else .ok { c with quiet := true }
  | .verbose, [] => if c.verbose then .error .usage else .ok { c with verbose := true }
  | .version, [] => .error .version
  | .help, [] => .error .help
  | .color, [v] => do return { c with color := ← once c.color (ColorChoice.names.lookup v) }
  | .base, [v] => do return { c with base := ← once c.base (some v) }
  | .output, [v] => do return { c with output := ← once c.output (some v) }
  | .format, [v] => do return { c with format := ← once c.format (ReportFormat.names.lookup v) }
  | .url, v :: vs => .ok { c with urls := c.urls ++ v :: vs }
  | _, _ => .error .usage

/-- An option that takes the words that follow, with those it has taken. -/
abbrev Pending := Option (Parameter × List String)

/-- The option that takes words takes no more. -/
def settle (c : Collected) (pending : Pending) : Except Stop Collected :=
  match pending with
  | none => .ok c
  | some (p, values) => c.set p values

/-- An option without a value in its word. -/
def Collected.start (c : Collected) (p : Parameter) : Except Stop (Collected × Pending) :=
  match p.arity with
  | .none => do return (← c.set p [], none)
  | _ => .ok (c, some (p, []))

/-- Reads the letters behind one hyphen. -/
def readLetters (level : Level) (c : Collected) : List Char → Except Stop (Collected × Pending)
  | [] => .ok (c, none)
  | l :: rest =>
    match letter? level l with
    | none => .error .usage
    | some p =>
      match p.arity, rest with
      | .none, _ => do readLetters level (← c.set p []) rest
      | _, [] => c.start p
      | _, '=' :: value | _, value => do return (← c.set p [String.ofList value], none)

/-- Reads a name behind two hyphens, perhaps with a value. -/
def readName (level : Level) (c : Collected) (word : List Char) :
    Except Stop (Collected × Pending) :=
  match long? level (String.ofList (word.takeWhile (· != '='))), word.dropWhile (· != '=') with
  | none, _ => .error .usage
  | some p, [] => c.start p
  | some p, _ :: value => do return (← c.set p [String.ofList value], none)

/-- The number of operands that a command has. -/
def Level.operands : Level → Nat
  | program => 0
  | generate => 2
  | check => 1

/-- Records an operand, which is the path of something and thus not empty. -/
def Collected.operand (level : Level) (c : Collected) (word : String) : Except Stop Collected :=
  if c.operands.length < level.operands ∧ word ≠ "" then
    .ok { c with operands := c.operands ++ [word] }
  else .error .usage

/-- **Reads the words of a level.** At the level of the program it stops at the first word that is
no option, and gives the words from there on. -/
def scan (level : Level) (c : Collected) (pending : Pending) :
    List String → Except Stop (Collected × List String)
  | [] => do return (← settle c pending, [])
  | word :: rest =>
    match word.toList, pending with
    | ['-', '-'], _ => do
      let c ← settle c pending
      return (← rest.foldlM (Collected.operand level) c, [])
    | '-' :: '-' :: name, _ => do
      let (c, pending) ← readName level (← settle c pending) name
      scan level c pending rest
    | '-' :: l :: ls, _ => do
      let (c, pending) ← readLetters level (← settle c pending) (l :: ls)
      scan level c pending rest
    | _, some (p, values) =>
      match p.arity with
      | .many => scan level c (some (p, values ++ [word])) rest
      | _ => do scan level (← c.set p [word]) none rest
    | _, none =>
      match level with
      | .program => .ok (c, word :: rest)
      | _ => do scan level (← c.operand level word) none rest

/-- The options of the program, given before and after the command. -/
def globals (before after : Collected) : GlobalOptions where
  quiet := before.quiet || after.quiet
  verbose := before.verbose || after.verbose
  color := (after.color <|> before.color).getD .auto

/-- Reads the words behind `help`: a command, if any. -/
def readHelp : List String → Stop
  | [] | ["generate"] | ["check"] | ["help"] => .help
  | _ => .usage

end Arguments

open Arguments in
/-- **Reads a command line.** -/
def Command.parse (words : List String) : Except Stop (GlobalOptions × Command) := do
  let (before, rest) ← scan .program {} none words
  match rest with
  | "generate" :: rest =>
    let (c, _) ← scan .generate {} none rest
    match c.operands with
    | [directory, config] =>
      return (globals before c, .generate {
        directory
        config
        base := c.base.getD defaultBase
        output := c.output.getD defaultOutput
        format := c.format.getD .text })
    | _ => throw .usage
  | "check" :: rest =>
    let (c, _) ← scan .check {} none rest
    match c.operands with
    | [config] =>
      return (globals before c, .check { config, base := c.base.getD defaultBase, urls := c.urls })
    | _ => throw .usage
  | "help" :: rest => throw (readHelp rest)
  | _ => throw .usage

end OfflineManifest
