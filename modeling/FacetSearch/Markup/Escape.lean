/-!
# Escaping text for HTML

The five characters with a meaning in HTML are written as entities, so that a text stays a text
wherever it is put: between tags and inside quoted attributes.
-/

namespace FacetSearch.Markup

/-- A character as it stands in HTML. -/
def escapeChar (c : Char) : List Char :=
  if c = '&' then ['&', 'a', 'm', 'p', ';']
  else if c = '<' then ['&', 'l', 't', ';']
  else if c = '>' then ['&', 'g', 't', ';']
  else if c = '"' then ['&', 'q', 'u', 'o', 't', ';']
  else if c = '\'' then ['&', '#', '3', '9', ';']
  else [c]

/-- A text as it stands in HTML. -/
def escape (text : String) : String :=
  String.ofList (text.toList.flatMap escapeChar)

end FacetSearch.Markup
