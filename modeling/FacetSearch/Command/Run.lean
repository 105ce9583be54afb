import FacetSearch.Catalog.Server
import FacetSearch.Command.Arguments
import FacetSearch.Command.Help
import FacetSearch.Command.Layout
import FacetSearch.Json.Parser
import FacetSearch.Json.Writer
import FacetSearch.Markup.FormRows
import FacetSearch.Markup.Navigation
import FacetSearch.Query.Location
import FacetSearch.Session.Basic
import FacetSearch.Settings.Basic
import FacetSearch.Tree.Text

/-!
# Running a command

A run reads its arguments, loads the settings, does what it is asked to do and ends with
an exit code and what it wrote.  All that it learns from outside comes through a `Host`,
so that a run is a value in whatever monad the host answers in; with answers fixed in
advance it is a function of them.
-/

namespace FacetSearch.Command

open FacetSearch.Text

/-- What a run can ask of its surroundings. -/
structure Host (m : Type → Type) where
  /-- The bytes of the file at a path. -/
  readFile : String → m (Except FileError (List UInt8))
  /-- The reply from an address. -/
  get : Web.Url → m (Except Web.Failure Web.Reply)
  environment : Settings.Environment
  /-- Random words. -/
  words : WordSource

/-- How a run ended. -/
structure Outcome where
  code : Nat
  output : String
  errors : String
deriving DecidableEq, Repr, Inhabited

namespace Outcome

/-- Ends well, after printing a report. -/
def report (text : String) : Outcome :=
  ⟨0, text ++ "\n", ""⟩

/-- Ends with a message about what went wrong. -/
def failure (message : String) : Outcome :=
  ⟨1, "", "error: " ++ message ++ "\n"⟩

/-- Says something to the user before the end. -/
def withNotice (notice : String) (o : Outcome) : Outcome :=
  { o with errors := "notice: " ++ notice ++ "\n" ++ o.errors }

end Outcome

/-- How a run ends whose arguments ask for no task. -/
def stopped : Stop → Outcome
  | .usage => ⟨2, "", "error: bad usage\n\nFor more information, try '--help'.\n"⟩
  | .help command => .report (helpText command)
  | .version => .report versionLine

/-! ## Tasks that need no answers -/

/-- Shows the form for a query. -/
def showForm (s : Settings) (query : String) (asHtml asJson : Bool) : String :=
  let form := Form.ofQuery s.directory (dropLeading '?' query)
  if asJson then
    (Json.ofMembers
      [("clauses", .list (form.rows.map rowJson)),
        ("submission", .string form.submission)]).writePretty
  else if asHtml then (Markup.formRows s.directory form.rows).render
  else formReport form.rows

/-- Sets parameters of a location. -/
def mergeInto (url : String) (overrides : List (String × String)) (asJson : Bool) : String :=
  let merged := Location.merge url overrides
  if asJson then (Json.ofMembers [("url", .string url), ("merged", .string merged)]).writePretty
  else merged

/-- Shows a document as it is, or as a tree that is all open. -/
def showDocument (text : String) (asJson : Bool) : Except String String :=
  match Json.parse? text with
  | .error fault => .error fault.message
  | .ok document =>
      .ok (if asJson then document.writePretty else (Tree.create document).expand.render)

/-- Shows the navigation of a listing. -/
def showPages (l : Listing) (query : String) (asHtml asJson : Bool) : String :=
  let href := Listing.href (GroupedQuery.parse (dropLeading '?' query))
  if asJson then (listingJson href l).writePretty
  else if asHtml then Markup.Html.renderAll (Markup.navigation href l.links)
  else listingReport href l

/-- Shows the values of a field, in ascending order. -/
def showCatalog (key : String) (values : List String) (asJson : Bool) : String :=
  let values := sortValues values
  if asJson then
    (Json.ofMembers
      [("key", .string key), ("count", .natural values.length),
       ("catalog", textsJson values)]).writePretty
  else catalogReport key values

/-- Shows where a lucky search went. -/
def showLocation (location : String) (asJson : Bool) : String :=
  if asJson then (Json.ofMembers [("location", .string location)]).write else location

/-! ## Tasks that need answers -/

section

variable {m : Type → Type} [Monad m]

/-- The text of the file at a path. -/
def Host.readText (host : Host m) (path : String) : m (Except FileError String) := do
  return textOfBytes (← host.readFile path)

/-- The settings for a run: those in the file that is named, or in the default one if it is there,
with what the environment changes. -/
def resolveSettings (host : Host m) (config : Option String) :
    m (Except Settings.LoadError Settings) := do
  let loaded ← match config, Settings.defaultPath host.environment with
    | some path, _ => do pure (Settings.ofFile path false (← host.readText path))
    | none, some path => do pure (Settings.ofFile path true (← host.readText path))
    | none, none => pure (.ok Settings.default)
  return loaded.map fun s => s.withEnvironment host.environment

/-- Fetches and shows the values of a field. -/
def runCatalog (host : Host m) (s : Settings) (key : String) (asJson : Bool) : m Outcome := do
  match ← Catalog.fetch host.get s.serverUrl key with
  | .ok values => return .report (showCatalog key values asJson)
  | .error e => return .failure e.message

/-- How a lucky search ends, given the catalog of the field that it draws. -/
def luckyOutcome (session : Session) (catalog : Catalog) (words : WordSource) (asJson : Bool) :
    Outcome :=
  let (drawn, after) := session.feelLucky catalog words
  let ending : Outcome := match drawn.result with
    | .ok location => .report (showLocation location asJson)
    | .error e => .failure e.message
  after.notices.foldr Outcome.withNotice ending

/-- Goes to a random search. -/
def runLucky (host : Host m) (s : Settings) (asJson : Bool) : m Outcome := do
  let session := Session.new s.directory
  match (host.words.choose s.directory.catalogKeys).1 with
  | none => return luckyOutcome session (fun key => .error (.unknown key)) host.words asJson
  | some key =>
    let answer ← Catalog.fetch host.get s.serverUrl key
    return luckyOutcome session (fun _ => answer) host.words asJson

/-- Shows a document that was read, or says why it could not be. -/
def documentOutcome (text : Except String String) (asJson : Bool) : Outcome :=
  match text.bind fun t => showDocument t asJson with
  | .ok report => .report report
  | .error message => .failure message

/-- Shows a document, given in place or in a file. -/
def runDetail (host : Host m) (document file : Option String) (asJson : Bool) : m Outcome := do
  match document, file with
  | some text, _ => return documentOutcome (.ok text) asJson
  | none, some path =>
    match ← host.readText path with
    | .ok text => return documentOutcome (.ok text) asJson
    | .error e => return .failure ("failed to read '" ++ path ++ "': " ++ e.message)
  | none, none => return .failure "Provide a JSON document or --file"

/-- Does a task. -/
def runTask (host : Host m) (s : Settings) (asJson : Bool) : Task → m Outcome
  | .form query asHtml => return .report (showForm s query asHtml asJson)
  | .merge url overrides => return .report (mergeInto url overrides asJson)
  | .catalog key => runCatalog host s key asJson
  | .lucky => runLucky host s asJson
  | .detail document file => runDetail host document file asJson
  | .pages count limit offset query asHtml =>
    let l : Listing := ⟨count, limit.getD (UInt64.ofNat s.defaultLimit), offset⟩
    return .report (showPages l query asHtml asJson)

/-- Runs the program with these arguments. -/
def run (host : Host m) (args : List String) : m Outcome := do
  match parse? args with
  | .error stop => return stopped stop
  | .ok invocation =>
    match ← resolveSettings host invocation.config with
    | .error e => return .failure e.message
    | .ok settings => runTask host settings invocation.asJson invocation.task

end

end FacetSearch.Command
