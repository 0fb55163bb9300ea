/-!
# Implied end tags

Some start tags end an element that is still open: a paragraph cannot hold a list, nor a list item
another item of the same list. For such a tag the table gives the elements it ends and the elements
beyond which it does not look.
-/

namespace PageCompiler.Markup

/-- What a start tag ends: the nearest open element with a tag in `closes`, unless an element with a
tag in `boundary` is nearer. -/
structure ImpliedEnd where
  closes : List String
  boundary : List String
  deriving Repr, DecidableEq

/-- The tags that end an open paragraph. -/
def endsParagraph : List String :=
  ["address", "article", "aside", "blockquote", "details", "dialog", "div", "dl", "fieldset",
   "figcaption", "figure", "footer", "form", "h1", "h2", "h3", "h4", "h5", "h6", "header", "hgroup",
   "hr", "main", "menu", "nav", "ol", "p", "pre", "section", "table", "ul"]

/-- The elements that shield a paragraph around them. -/
def paragraphScope : List String :=
  ["applet", "button", "caption", "html", "marquee", "object", "table", "td", "template", "th"]

/-- The groups of rows in a table. -/
def rowGroups : List String := ["tbody", "thead", "tfoot"]

/-- What a start tag ends, if anything. -/
def impliedEnd? (tag : String) : Option ImpliedEnd :=
  if endsParagraph.contains tag then some ⟨["p"], paragraphScope⟩
  else if tag = "li" then some ⟨["li"], ["ol", "ul", "menu"] ++ paragraphScope⟩
  else if tag = "dt" ∨ tag = "dd" then some ⟨["dt", "dd"], ["dl"] ++ paragraphScope⟩
  else if tag = "option" then some ⟨["option"], ["select", "datalist", "optgroup"]⟩
  else if tag = "optgroup" then some ⟨["option", "optgroup"], ["select"]⟩
  else if tag = "tr" then some ⟨["tr"], ["table"] ++ rowGroups⟩
  else if tag = "td" ∨ tag = "th" then some ⟨["td", "th"], ["tr", "table"]⟩
  else if rowGroups.contains tag then some ⟨rowGroups, ["table"]⟩
  else none

end PageCompiler.Markup
