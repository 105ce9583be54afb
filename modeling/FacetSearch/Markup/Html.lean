import FacetSearch.Markup.Escape

/-!
# HTML fragments

A fragment is a tree of elements and texts.  One renderer writes all of them and escapes every text
and every attribute value, so a fragment's tags are the ones in its tree whatever the texts are.
-/

namespace FacetSearch.Markup

/-- A piece of HTML. -/
inductive Html where
  | text (s : String)
  /-- A named character. -/
  | entity (name : String)
  | element (name : String) (attributes : List (String × String)) (children : List Html)
  /-- An element that has no content and no closing tag. -/
  | void (name : String) (attributes : List (String × String))
deriving Inhabited

namespace Html

/-- An attribute with its value in quotes. -/
def renderAttribute (a : String × String) : String :=
  " " ++ a.1 ++ "=\"" ++ escape a.2 ++ "\""

/-- An opening tag. -/
def openTag (name : String) (attributes : List (String × String)) : String :=
  "<" ++ name ++ String.join (attributes.map renderAttribute) ++ ">"

/-- A closing tag. -/
def closeTag (name : String) : String :=
  "</" ++ name ++ ">"

mutual

/-- The text of a fragment. -/
def render : Html → String
  | text s => escape s
  | entity name => "&" ++ name ++ ";"
  | element name attributes children =>
    openTag name attributes ++ renderAll children ++ closeTag name
  | void name attributes => openTag name attributes

/-- The texts of fragments one after another. -/
def renderAll : List Html → String
  | [] => ""
  | h :: r => render h ++ renderAll r

end

/-- Fragments on lines of their own, with a line break before the first and after the last. -/
def lines (items : List Html) : List Html :=
  text "\n" :: (items.intersperse (text "\n") ++ [text "\n"])

end Html

end FacetSearch.Markup
