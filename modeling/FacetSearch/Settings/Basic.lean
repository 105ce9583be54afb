import FacetSearch.Field.Directory
import FacetSearch.Files.Basic
import FacetSearch.Json.Basic
import FacetSearch.Results.Basic
import FacetSearch.Yaml.Node

/-!
# Settings

The settings name the catalog server, the fields of the search menu, and how results are shown and
paged.  They are written in YAML, and what is not written keeps its default.  The environment says
where the file is and may name another server.
-/

namespace FacetSearch

open FacetSearch.Text

/-- The settings of the search page. -/
structure Settings where
  serverUrl : String
  /-- Labels by key, keys ascending. -/
  fields : List (String × String)
  ellipsis : Nat
  hiddenColumns : List Nat
  /-- How many results a page shows. -/
  defaultLimit : Nat
deriving DecidableEq, Repr, Inhabited

namespace Settings

/-- The settings where nothing is written. -/
def default : Settings :=
  ⟨"http://127.0.0.1:8080", [],
    TableOptions.default.ellipsis, TableOptions.default.hiddenColumns, 100⟩

/-- The search menu: the built-in fields with the configured ones over them. -/
def directory (s : Settings) : Directory :=
  Directory.builtin.withFields s.fields

/-- How results are shown. -/
def tableOptions (s : Settings) : TableOptions :=
  ⟨s.ellipsis, s.hiddenColumns⟩

/-! ## Reading -/

open Yaml (Document Fault Node)

/-- Labels by key; of a repeated key the last label counts. -/
def readFields (d : Document) (v : Node) : Except Fault (List (String × String)) := do
  (← d.entries? v).foldlM (fun fields (k, label) => do
    return Json.putMember (← d.text? k) (← d.text? label) fields) []

/-- Reads one setting, which may not be there already; an unknown one is passed over. -/
def readEntry (d : Document) (seen : List String) (s : Settings) (key : String) (v : Node) :
    Except Fault Settings := do
  if seen.contains key then throw (.duplicateField key)
  match key with
  | "server_url" => return { s with serverUrl := ← d.text? v }
  | "fields" => return { s with fields := ← readFields d v }
  | "ellipsis" => return { s with ellipsis := ← d.size? v }
  | "hidden_columns" => return { s with hiddenColumns := ← (← d.items? v).mapM d.size? }
  | "default_limit" => return { s with defaultLimit := ← d.size? v }
  | _ => return s

/-- The settings that have a name. -/
def names : List String :=
  ["server_url", "fields", "ellipsis", "hidden_columns", "default_limit"]

/-- Reads settings from one entry on; the names of those before it are given. -/
def readEntries (d : Document) (seen : List String) (s : Settings) :
    List (Node × Node) → Except Fault Settings
  | [] => .ok s
  | (k, v) :: r => do
    let key ← d.text? k
    let s ← readEntry d seen s key v
    readEntries d (if names.contains key then key :: seen else seen) s r

/-- The settings that a text holds. -/
def parse? (text : String) : Except Fault Settings := do
  if text.toList.all isBlank then return default
  match ← Document.parse? text with
  | none => return default
  | some d => readEntries d [] default (← d.entries? d.root)

/-- Why settings could not be loaded. -/
inductive LoadError where
  | notFound (path : String)
  | unreadable (path : String) (error : FileError)
  | malformed (fault : Fault)
deriving DecidableEq, Repr, Inhabited

/-- The wording of a load error. -/
def LoadError.message : LoadError → String
  | notFound path => "config file not found '" ++ path ++ "'"
  | unreadable path error => "failed to read config '" ++ path ++ "': " ++ error.message
  | malformed fault => "failed to parse config: " ++ fault.message

/-- The settings in a file, from what reading it led to.  Where that is allowed, a missing
file counts as an empty one. -/
def ofFile (path : String) (allowMissing : Bool) :
    Except FileError String → Except LoadError Settings
  | .ok text =>
    match parse? text with
    | .ok s => .ok s
    | .error fault => .error (.malformed fault)
  | .error .notFound => if allowMissing then .ok default else .error (.notFound path)
  | .error e => .error (.unreadable path e)

/-- Loads settings from a file. -/
def load (files : Files) (path : String) (allowMissing : Bool) : Except LoadError Settings :=
  ofFile path allowMissing (files.readText path)

/-! ## The environment -/

/-- The variables of the environment. -/
abbrev Environment := String → Option String

/-- The variable that names the catalog server. -/
def serverVariable : String := "HOSTDB_UI_SERVER_URL"

/-- The settings with the server that the environment names, if it does and not by blanks alone. -/
def withEnvironment (s : Settings) (env : Environment) : Settings :=
  match env serverVariable with
  | some url => if url.toList.all isBlank then s else { s with serverUrl := url }
  | none => s

/-- A name below a directory. -/
def joinPath (directory name : String) : String :=
  if directory.isEmpty || directory.toList.getLast? = some '/' then directory ++ name
  else directory ++ "/" ++ name

/-- Where the settings are looked for by default. -/
def defaultPath (env : Environment) : Option String :=
  (env "HOME" <|> env "USERPROFILE").map fun home => joinPath (joinPath home ".hostdb") "ui.yml"

end Settings

end FacetSearch
