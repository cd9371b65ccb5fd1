import ModuleCatalog.Catalog.Display
import ModuleCatalog.Catalog.Encoding
import ModuleCatalog.CommandLine.Arguments
import ModuleCatalog.Download.Save
import ModuleCatalog.Json.Writer
import ModuleCatalog.Listing.Loader
import ModuleCatalog.Sources.File
import ModuleCatalog.Table

/-!
The commands of the program as functions on the files and the network. Every command loads the
source list first; the commands that list or download run one load cycle, and those that change the
source list save it.
-/
namespace ModuleCatalog.CommandLine

/-- What a run of the program finds: the network, the files, and where the source list is kept
unless another place is given. -/
structure World where
  network : Http.Network
  files : FileTree
  sourcesPath : String

/-- What a run leaves: its exit code, what it prints, the error it reports, what it says on the way,
and the files. -/
structure Outcome where
  exit : Nat
  output : String
  error : Option String
  progress : List String
  files : FileTree

def failed (files : FileTree) (output : String) (progress : List String) (message : String) :
    Outcome :=
  ⟨1, output, some message, progress, files⟩

def succeeded (files : FileTree) (output : String) (progress : List String) : Outcome :=
  ⟨0, output, none, progress, files⟩

def kindFor (wantsMeta : Bool) : Kind :=
  if wantsMeta then .metaModules else .modules

/-- The settings of the client that a command uses. -/
def clientFor (s : Settings) : Client :=
  let c := (Client.default.withMaxConcurrent s.maxConcurrent).withTimeoutMs (s.timeoutSecs * 1000)
  match s.buildNumber with
  | some build => c.withBuild build
  | none => c

/-- The message for settings with which no request can be made. -/
def noClient : String := "Failed to create HTTP client"

/-- A catalog after its load cycle, and what was said on the way; or why there is none. -/
structure LoadedCatalog where
  entries : Except String (List Entry)
  progress : List String
  deriving Repr

/-- Runs a load cycle, with the lookups of releases or without. -/
def loadCatalog (w : World) (client : Client) (sources : Sources) (kind : Kind) (resolve : Bool) :
    LoadedCatalog :=
  let urls := sources.urlsFor kind
  let asking := s!"Fetching {urls.length} repository index(es)..."
  let transport := Http.transport w.network
  let loaded := (Loader.new kind).load transport urls
  match loaded.outcome with
  | .listed count =>
    let resolver := Release.lookup transport client.origin
    let loader := if resolve then (loaded.loader.wait resolver).1 else loaded.loader
    let resolving := s!"Resolving latest releases for {count} module(s)..."
    ⟨.ok (loader.board.snapshot.listing.entries?.getD []),
      if resolve then [asking, resolving] else [asking]⟩
  | _ =>
    match loaded.loader.board.snapshot.listing with
    | .failed message => ⟨.error message, [asking]⟩
    | listing => ⟨.ok (listing.entries?.getD []), [asking]⟩

def versionShown (e : Entry) : String :=
  if e.isLoading then "-"
  else if e.latestVersion = Entry.noVersion then "no release"
  else e.latestVersion

/-- A text cut to a number of characters, with dots in the place of what is cut. -/
def shortened (max : Nat) (s : String) : String :=
  if max < s.length then .ofList (s.toList.take (max - 3) ++ ['.', '.', '.']) else s

def entryTable (entries : List Entry) : String :=
  Table.render .center ["Name", "Version", "Author", "Description"] <|
    entries.map fun e => [e.name, versionShown e, e.author, shortened 50 e.description]

def listOutput (json : Bool) (entries : List Entry) : String :=
  if json then (Json.array (entries.map Entry.toJson)).pretty 0 ++ "\n"
  else if entries.isEmpty then "\nNo modules found.\n"
  else s!"\nFound {entries.length} module(s):\n\n" ++ entryTable entries ++ "\n"

/-- The outcome of a run that breaks off without a report, as it does where no limit can be kept. -/
def broken (files : FileTree) : Outcome :=
  ⟨101, "", none, [], files⟩

/-- Runs a command that needs a catalog, once the source list is loaded. -/
def withCatalog (w : World) (client : Client) (sources : Sources) (kind : Kind) (resolve : Bool)
    (use : List Entry → List String → Outcome) : Outcome :=
  if !client.isUsable then failed w.files "" [] noClient
  else if !client.canLimit then broken w.files
  else
    let loaded := loadCatalog w client sources kind resolve
    match loaded.entries with
    | .error message => failed w.files "" loaded.progress message
    | .ok entries => use entries loaded.progress

def runList (w : World) (client : Client) (sources : Sources) (wantsMeta : Bool)
    (query : Option String) (json noResolve : Bool) : Outcome :=
  withCatalog w client sources (kindFor wantsMeta) (!noResolve) fun entries progress =>
    let hits := Catalog.search (Catalog.sortByName entries) (query.getD "")
    succeeded w.files (listOutput json hits) progress

/-- The entry that a name means: the first with the name, whatever the case of its ASCII letters,
or among meta-modules with the name as its id. -/
def selected? (wantsMeta : Bool) (name : String) (entries : List Entry) : Option Entry :=
  entries.find? fun e =>
    Text.lowerAscii e.name == Text.lowerAscii name || (wantsMeta && e.id == name)

def artifactReport (a : Download.Artifact) : String :=
  "Saved:   " ++ a.path ++ "\n" ++ s!"Size:    {a.size} bytes\n" ++ "Digest:  " ++ a.digest ++ "\n"

def runDownload (w : World) (client : Client) (sources : Sources) (name : String)
    (wantsMeta : Bool) (output : String) : Outcome :=
  withCatalog w client sources (kindFor wantsMeta) true fun entries progress =>
    match selected? wantsMeta name entries with
    | none => failed w.files "" progress ("Module '" ++ name ++ "' not found in any repository")
    | some e =>
      let start := "Downloading " ++ e.name ++ " " ++ e.latestVersion ++ " to " ++ output ++ "...\n"
      let facility (o : Download.Order) (_ : Download.Gate) : Download.Saved FileTree :=
        Download.save FileTree.system w.network w.files output o
      match (Download.dispatch facility .free e).answer with
      | .error failure => failed w.files start progress failure.message
      | .ok saved =>
        match saved.artifact with
        | .error error => failed saved.files start progress error.message
        | .ok artifact => succeeded saved.files (start ++ artifactReport artifact) progress

/-- The rows of the source list; the non-free catalog has no position. -/
def sourceRows (s : Sources) : List (List String) :=
  let numbered := s.urls.zipIdx.map fun (url, i) => [toString (i + 1), url]
  if s.includeNonFree then numbered ++ [["non-free", nonFreeCatalogUrl]] else numbered

/-- The index of a position; positions start at one. -/
def indexOf (position : Nat) : Except String Nat :=
  if position = 0 then .error "Repository positions start at 1" else .ok (position - 1)

def refusal (fault : SourceFault) : String :=
  (Failure.badSource fault).message

/-- What a command makes of the source list and what it reports, or why it is refused. The command
that lists leaves the list alone. -/
def changed (s : Sources) : RepoCommand → Except String (Sources × String)
  | .list => .ok (s, Table.render .left ["#", "URL"] (sourceRows s) ++ "\n")
  | .add url =>
    match s.add url with
    | .ok s => .ok (s, "Added repository " ++ Text.trim url ++ "\n")
    | .error fault => .error (refusal fault)
  | .edit position url =>
    match indexOf position with
    | .error message => .error message
    | .ok index =>
      match s.replace index url with
      | .ok s => .ok (s, s!"Repository {position} -> " ++ Text.trim url ++ "\n")
      | .error fault => .error (refusal fault)
  | .remove position =>
    match indexOf position with
    | .error message => .error message
    | .ok index =>
      match s.remove index with
      | .ok (url, s) => .ok (s, "Removed repository " ++ url ++ "\n")
      | .error fault => .error (refusal fault)
  | .reset => .ok (s.reset, "Restored the default repository list\n")
  | .nonFree enabled =>
    .ok (s.setNonFree enabled,
      "Non-free modules " ++ (if enabled then "enabled" else "disabled") ++ "\n")

def runRepo (w : World) (path : String) (sources : Sources) (command : RepoCommand) : Outcome :=
  match changed sources command with
  | .error message => failed w.files "" [] message
  | .ok (sources, output) =>
    if command = .list then succeeded w.files output []
    else
      let saved := Sources.save w.files path sources
      match saved.error with
      | none => succeeded saved.files output []
      | some e => failed saved.files output [] e.message

def runCommand (w : World) (settings : Settings) (command : Command) : Outcome :=
  let path := settings.sources.getD w.sourcesPath
  let client := clientFor settings
  match Sources.load w.files path with
  | .error e => failed w.files "" [] e.message
  | .ok sources =>
    match command with
    | .list wantsMeta query json noResolve =>
      runList w client sources wantsMeta query json noResolve
    | .download name wantsMeta output => runDownload w client sources name wantsMeta output
    | .repo command => runRepo w path sources command

def programName : String := "ksurepo"

def run (w : World) (args : List String) : Outcome :=
  match parse? args with
  | none => ⟨2, "", none, [], w.files⟩
  | some .version => succeeded w.files (programName ++ " " ++ programVersion ++ "\n") []
  | some (.run settings command) => runCommand w settings command

end ModuleCatalog.CommandLine
