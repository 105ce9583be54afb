import FacetSearch.Command.Report

/-!
# Reports to read

What the commands say to a person, where they are not asked for JSON or HTML: lines of text, with
the rows of a form in columns.
-/

namespace FacetSearch.Command

/-- A text with blanks after it up to a width in characters. -/
def padTo (width : Nat) (text : String) : String :=
  text ++ String.ofList (List.replicate (width - text.length) ' ')

/-- The width of a column in bytes: that of its heading or of its widest entry. -/
def columnWidth (heading : String) (entries : List String) : Nat :=
  (entries.map String.utf8ByteSize).foldl max heading.utf8ByteSize

/-- How a row without a field shows its key. -/
def keyColumn (r : Row) : String :=
  r.clause.key.getD "-"

/-- The width of the column of buttons. -/
def actionWidth : Nat := 6

/-- A line with dashes below a heading. -/
def dashes (width : Nat) : String :=
  String.ofList (List.replicate width '-')

/-- The rows of a form as a table.  Columns are as wide as their longest entry has bytes. -/
def formReport : List Row → String
  | [] => "No clauses."
  | rows =>
    let keyWidth := columnWidth "KEY" (rows.map keyColumn)
    let labelWidth := columnWidth "LABEL" (rows.map fun r => r.clause.label)
    let line (key label action value : String) : String :=
      padTo keyWidth key ++ "  " ++ padTo labelWidth label ++ "  " ++ padTo actionWidth action ++
        "  " ++ value
    "\n".intercalate
      (line "KEY" "LABEL" "ACTION" "VALUE" ::
        line (dashes keyWidth) (dashes labelWidth) (dashes actionWidth) "-----" ::
        rows.map fun r =>
          line (keyColumn r) r.clause.label (affordanceName r.affordance) r.clause.value)

/-- The values of a field. -/
def catalogReport (key : String) : List String → String
  | [] => "No catalog values for \"" ++ key ++ "\"."
  | values =>
    "\n".intercalate
      (("Catalog for \"" ++ key ++ "\" (" ++ toString values.length ++ " values):") ::
        values.map fun v => "  " ++ v)

/-- A remark after a link, where it applies. -/
def remark (applies : Bool) (text : String) : String :=
  if applies then " (" ++ text ++ ")" else ""

/-- The width of the column that says what a link is. -/
def linkWidth : Nat := 8

/-- A link of the navigation on a line. -/
def linkReport (href : UInt64 → String) : Listing.Link → String
  | .previous offset disabled =>
    padTo linkWidth "previous" ++ "  " ++ href offset ++ remark disabled "disabled"
  | .page number offset active =>
    padTo linkWidth (toString number) ++ "  " ++ href offset ++ remark active "current"
  | .gap => "..."
  | .next offset disabled =>
    padTo linkWidth "next" ++ "  " ++ href offset ++ remark disabled "disabled"

/-- The navigation of a listing. -/
def listingReport (href : UInt64 → String) (l : Listing) : String :=
  match l.links with
  | [] => "Nothing to page through."
  | links =>
    "\n".intercalate
      (("Page " ++ toString l.currentPage ++ " of " ++ toString l.totalPages) ::
        links.map fun link => "  " ++ linkReport href link)

/-- The navigation of a listing as a document. -/
def listingJson (href : UInt64 → String) (l : Listing) : Json :=
  .ofMembers
    [("count", .natural l.count.toNat), ("limit", .natural l.limit.toNat),
     ("offset", .natural l.offset.toNat), ("total_pages", .natural l.totalPages.toNat),
     ("current_page", .natural l.currentPage.toNat),
     ("links", .list (l.links.map (linkJson href)))]

end FacetSearch.Command
