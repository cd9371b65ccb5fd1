import ModuleCatalog.Client

/-!
The arguments of the command line. Options that hold for every command may stand before or after the
words of the command; an option of the innermost level counts.
-/
namespace ModuleCatalog.CommandLine

/-- What is done with the source list. -/
inductive RepoCommand where
  | list
  | add (url : String)
  | edit (position : Nat) (url : String)
  | remove (position : Nat)
  | reset
  | nonFree (enabled : Bool)
  deriving DecidableEq, Repr

/-- What the program is asked to do. -/
inductive Command where
  | list (wantsMeta : Bool) (query : Option String) (json noResolve : Bool)
  | download (name : String) (wantsMeta : Bool) (output : String)
  | repo (command : RepoCommand)
  deriving DecidableEq, Repr

/-- The options that hold for every command. -/
structure Settings where
  sources : Option String
  maxConcurrent : Nat
  timeoutSecs : Nat
  buildNumber : Option String
  deriving DecidableEq, Repr

/-- A line that the program can follow. -/
inductive Invocation where
  | version
  | run (settings : Settings) (command : Command)
  deriving DecidableEq, Repr

/-- An option: its name, its letter if it has one, and which values it accepts if it takes one. -/
structure OptionSpec where
  name : String
  letter : Option Char
  accepts : Option (String → Bool)

/-- An unsigned 64-bit number, with a plus sign or without. -/
def number? (s : String) : Option Nat :=
  let ds :=
    match s.toList with
    | '+' :: ds => ds
    | ds => ds
  if ds.isEmpty || !ds.all Char.isDigit then none
  else
    let n := ds.foldl (fun n d => n * 10 + (d.toNat - 48)) 0
    if n < Nat.pow 2 64 then some n else none

def logLevels : List String :=
  ["error", "warn", "info", "debug", "trace"]

def globalSpecs : List OptionSpec :=
  [⟨"log-level", none, some logLevels.contains⟩,
    ⟨"log-json", none, none⟩,
    ⟨"sources", none, some fun s => !s.isEmpty⟩,
    ⟨"max-concurrent", none, some fun s => (number? s).isSome⟩,
    ⟨"timeout-secs", none, some fun s => (number? s).isSome⟩,
    ⟨"build-number", none, some fun _ => true⟩]

def rootSpecs : List OptionSpec :=
  ⟨"version", some 'V', none⟩ :: globalSpecs

def listSpecs : List OptionSpec :=
  [⟨"meta", none, none⟩, ⟨"query", some 'q', some fun _ => true⟩, ⟨"json", none, none⟩,
    ⟨"no-resolve", none, none⟩] ++ globalSpecs

/-- The options of the command that downloads a module. -/
def downloadSpecs : List OptionSpec :=
  [⟨"meta", none, none⟩, ⟨"output", some 'o', some fun s => !s.isEmpty⟩] ++ globalSpecs

/-- What was given on one level: options with their values, and words. After a level that ends at
its first word, `rest` are the arguments from that word on. -/
structure Level where
  options : List (String × String)
  words : List String
  rest : List String
  deriving DecidableEq, Repr

def Level.value? (l : Level) (name : String) : Option String :=
  (l.options.find? (·.1 == name)).map (·.2)

def Level.has (l : Level) (name : String) : Bool :=
  (l.value? name).isSome

def Level.add? (l : Level) (spec : OptionSpec) (value : String) : Option Level :=
  if l.has spec.name then none
  else
    match spec.accepts with
    | none => some { l with options := (spec.name, value) :: l.options }
    | some accepts =>
      if accepts value then some { l with options := (spec.name, value) :: l.options } else none

/-- An argument as an option: the option, and the value if it is part of the argument. -/
inductive OptionForm where
  | word
  | unknown
  | option (spec : OptionSpec) (value : Option String)

def looksLikeOption (arg : String) : Bool :=
  match arg.toList with
  | '-' :: _ :: _ => true
  | _ => false

def OptionForm.of (specs : List OptionSpec) (arg : String) : OptionForm :=
  match arg.toList with
  | '-' :: '-' :: cs =>
    let name : String := .ofList (cs.takeWhile (· != '='))
    match specs.find? (·.name == name), cs.dropWhile (· != '=') with
    | none, _ => .unknown
    | some spec, [] => .option spec none
    | some spec, _ :: value =>
      if spec.accepts.isSome then .option spec (some (.ofList value)) else .unknown
  | '-' :: c :: cs =>
    match specs.find? (·.letter == some c) with
    | none => .unknown
    | some spec =>
      match spec.accepts, cs with
      | none, _ => .option spec none
      | some _, [] => .option spec none
      | some _, '=' :: value => .option spec (some (.ofList value))
      | some _, value => .option spec (some (.ofList value))
  | _ => .word

/-- How a level ends. -/
inductive LevelEnd where
  | read (level : Level)
  | version
  | invalid
  deriving DecidableEq, Repr

/-- Reads one level of arguments. With `nested`, the level ends at its first word, which names a
command; otherwise it takes all words. After two dashes all arguments are words. -/
def readLevel (specs : List OptionSpec) (nested : Bool) : Bool → Level → List String → LevelEnd
  | _, l, [] => .read { l with words := l.words.reverse }
  | true, l, arg :: args => readLevel specs nested true { l with words := arg :: l.words } args
  | false, l, arg :: args =>
    if arg = "--" then
      if nested then .invalid else readLevel specs nested true l args
    else
      match OptionForm.of specs arg with
      | .unknown => .invalid
      | .word =>
        if nested then .read { l with words := [], rest := arg :: args }
        else readLevel specs nested false { l with words := arg :: l.words } args
      | .option spec given =>
        if spec.name = "version" then .version
        else
          match spec.accepts, given with
          | some _, none =>
            match args with
            | [] => .invalid
            | value :: rest =>
              if looksLikeOption value then .invalid
              else
                match l.add? spec value with
                | some l => readLevel specs nested false l rest
                | none => .invalid
          | _, _ =>
            match l.add? spec (given.getD "") with
            | some l => readLevel specs nested false l args
            | none => .invalid

/-- Reads one level of arguments from its beginning. -/
def level (specs : List OptionSpec) (nested : Bool) (args : List String) : LevelEnd :=
  readLevel specs nested false ⟨[], [], []⟩ args

/-- The value of an option that may be given on every level; the innermost level comes first. -/
def innermost? (levels : List Level) (name : String) : Option String :=
  levels.findSome? (·.value? name)

def settingsOf (levels : List Level) : Settings where
  sources := innermost? levels "sources"
  maxConcurrent :=
    ((innermost? levels "max-concurrent").bind number?).getD Client.default.maxConcurrent
  timeoutSecs :=
    ((innermost? levels "timeout-secs").bind number?).getD (Client.default.timeoutMs / 1000)
  buildNumber := innermost? levels "build-number"

def toggle? : String → Option Bool
  | "on" => some true
  | "off" => some false
  | _ => none

/-- The command on the source list given by its name and the words after it. -/
def repoCommand? (name : String) (words : List String) : Option RepoCommand :=
  match name, words with
  | "list", [] => some .list
  | "add", [url] => some (.add url)
  | "edit", [position, url] => (number? position).map (.edit · url)
  | "remove", [position] => (number? position).map .remove
  | "reset", [] => some .reset
  | "non-free", [state] => (toggle? state).map .nonFree
  | _, _ => none

/-- Reads the arguments after the word for the source list. -/
def repoInvocation? (root : Level) (args : List String) : Option Invocation :=
  match level globalSpecs true args with
  | .read outer =>
    match outer.rest with
    | [] => none
    | name :: args =>
      match level globalSpecs false args with
      | .read inner =>
        (repoCommand? name inner.words).map fun command =>
          .run (settingsOf [inner, outer, root]) (.repo command)
      | _ => none
  | _ => none

/-- Reads the arguments after the word for a list of modules. -/
def listInvocation? (root : Level) (args : List String) : Option Invocation :=
  match level listSpecs false args with
  | .read inner =>
    if inner.words.isEmpty then
      some (.run (settingsOf [inner, root])
        (.list (inner.has "meta") (inner.value? "query") (inner.has "json") (inner.has "no-resolve")))
    else none
  | _ => none

/-- Reads the arguments after the word for a download. -/
def downloadInvocation? (root : Level) (args : List String) : Option Invocation :=
  match level downloadSpecs false args with
  | .read inner =>
    match inner.words with
    | [name] =>
      some (.run (settingsOf [inner, root])
        (.download name (inner.has "meta") ((inner.value? "output").getD ".")))
    | _ => none
  | _ => none

def parse? (args : List String) : Option Invocation :=
  match level rootSpecs true args with
  | .invalid => none
  | .version => some .version
  | .read root =>
    match root.rest with
    | "list" :: args => listInvocation? root args
    | "download" :: args => downloadInvocation? root args
    | "repo" :: args => repoInvocation? root args
    | _ => none

end ModuleCatalog.CommandLine
