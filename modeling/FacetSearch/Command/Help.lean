/-!
# Help texts

What the program says about itself and its commands.  A help text has a line about the command, its
usage, and columns for operands and options.
-/

namespace FacetSearch.Command

/-- The name that the program is called by. -/
def programName : String := "hostdb-ui"

/-- The name and the version. -/
def versionLine : String := programName ++ " 0.4.1"

/-- A heading with two columns below it, the first as wide as its widest entry. -/
def helpSection (title : String) (rows : List (String × String)) : List String :=
  let width := (rows.map fun r => r.1.length).foldl max 0
  (title ++ ":") :: rows.map fun (item, about) =>
    "  " ++ item ++ String.ofList (List.replicate (width - item.length) ' ') ++ "  " ++ about

/-- The help text of a command. -/
structure Manual where
  name : String
  about : String
  /-- What follows the name in the usage line. -/
  usage : String
  operands : List (String × String)
  options : List (String × String)

/-- How the option that asks for JSON is described. -/
def jsonHelp : String × String :=
  ("    --json", "Emit JSON instead of human-readable tables")

/-- How the option that names the settings file is described. -/
def configHelp : String × String :=
  ("    --config <CONFIG>", "Path to a YAML config (defaults to ~/.hostdb/ui.yml when present)")

/-- How the option that turns on the log is described. -/
def verboseHelp : String × String :=
  ("-v, --verbose", "Log controller activity to stderr")

/-- How the option that asks for help is described. -/
def helpHelp : String × String :=
  ("-h, --help", "Print help")

/-- The help texts of the commands. -/
def manuals : List Manual :=
  [⟨"form", "Build the search form from a page query string", "[OPTIONS] [QUERY]",
      [("[QUERY]", "Query string, with or without the leading `?` [default: ]")],
      [("    --html", "Print the form rows as HTML"), jsonHelp, configHelp, verboseHelp, helpHelp]⟩,
   ⟨"merge", "Overlay parameters onto the query string of a URL", "[OPTIONS] <URL>",
      [("<URL>", "")],
      [jsonHelp, ("-s, --set <SET>", "Parameter to set, as KEY=VALUE. Repeatable"), configHelp,
        verboseHelp, helpHelp]⟩,
   ⟨"catalog", "Fetch the value catalog for a search field", "[OPTIONS] <KEY>",
      [("<KEY>", "")], [jsonHelp, configHelp, verboseHelp, helpHelp]⟩,
   ⟨"lucky", "Pick a random field and value and print the search location", "[OPTIONS]",
      [], [jsonHelp, configHelp, verboseHelp, helpHelp]⟩,
   ⟨"detail", "Render a JSON document as an expanded detail tree", "[OPTIONS] [JSON_TEXT]",
      [("[JSON_TEXT]", "Inline JSON document")],
      [("    --file <FILE>", "Read the document from a file instead"), jsonHelp, configHelp,
        verboseHelp, helpHelp]⟩,
   ⟨"pages", "Show page navigation for a result listing", "[OPTIONS] --count <COUNT> [QUERY]",
      [("[QUERY]", "Current query string [default: ]")],
      [("    --count <COUNT>", ""), jsonHelp, configHelp,
        ("    --limit <LIMIT>", "Page size; defaults to the configured limit"),
        ("    --offset <OFFSET>", "[default: 0]"), verboseHelp,
        ("    --html", "Print the navigation as HTML"), helpHelp]⟩,
   ⟨"help", "Print this message or the help of the given subcommand(s)", "[COMMAND]...",
      [("[COMMAND]...", "Print help for the subcommand(s)")], []⟩]

/-- The help text in a manual. -/
def Manual.render (m : Manual) : String :=
  let sections := (if m.operands.isEmpty then [] else "" :: helpSection "Arguments" m.operands) ++
    (if m.options.isEmpty then [] else "" :: helpSection "Options" m.options)
  "\n".intercalate
    ([m.about, "", "Usage: " ++ programName ++ " " ++ m.name ++ " " ++ m.usage] ++ sections)

/-- The help text of the program. -/
def programHelp : String :=
  "\n".intercalate
    (["Drive the hostdb search page controllers", "",
        "Usage: " ++ programName ++ " [OPTIONS] <COMMAND>", ""] ++
      helpSection "Commands" (manuals.map fun m => (m.name, m.about)) ++
      "" :: helpSection "Options"
        [jsonHelp, configHelp, verboseHelp, helpHelp, ("-V, --version", "Print version")])

/-- The help text of a command, or of the program. -/
def helpText (command : Option String) : String :=
  match command.bind fun name => manuals.find? fun m => m.name == name with
  | some m => m.render
  | none => programHelp

end FacetSearch.Command
