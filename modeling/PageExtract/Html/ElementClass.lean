import PageExtract.Html.Node

/-!
# Classes of elements

How a tag is treated depends on which class its element belongs to.  The classes
are the lists of names below.  Outside HTML only few elements matter: those into
which HTML may be put, and those that bound a scope.
-/

namespace PageExtract.Html

/-- An element of HTML. -/
def htmlName (name : String) : ElementName := ⟨.html, name⟩

/-- Elements that end an open paragraph and need an end tag of their own. -/
def blockNames : List String :=
  ["address", "article", "aside", "blockquote", "center", "details", "dialog", "dir", "div", "dl",
   "fieldset", "figcaption", "figure", "footer", "header", "hgroup", "main", "menu", "nav", "ol",
   "p", "search", "section", "summary", "ul"]

/-- Elements whose end tag closes what is open inside them. -/
def closableNames : List String :=
  ["address", "article", "aside", "blockquote", "button", "center", "details", "dialog", "dir",
   "div", "dl", "fieldset", "figcaption", "figure", "footer", "header", "hgroup", "listing",
   "main", "menu", "nav", "ol", "pre", "search", "section", "select", "summary", "ul"]

/-- Headings. -/
def headingNames : List String := ["h1", "h2", "h3", "h4", "h5", "h6"]

/-- Elements that format text and are opened again where they were cut off. -/
def formattingNames : List String :=
  ["a", "b", "big", "code", "em", "font", "i", "nobr", "s", "small", "strike", "strong", "tt", "u"]

/-- Elements of the head. -/
def headNames : List String :=
  ["base", "basefont", "bgsound", "link", "meta", "noframes", "script", "style", "template",
   "title"]

/-- Elements whose end tag is implied. -/
def impliedNames : List String :=
  ["dd", "dt", "li", "optgroup", "option", "p", "rb", "rp", "rt", "rtc"]

/-- Elements whose end tag is implied where a template ends. -/
def thoroughlyImpliedNames : List String :=
  impliedNames ++ ["caption", "colgroup", "tbody", "td", "tfoot", "th", "thead", "tr"]

/-- Elements that must stand in a certain part of a table. -/
def tablePartNames : List String :=
  ["caption", "col", "colgroup", "tbody", "td", "tfoot", "th", "thead", "tr"]

/-- Elements of HTML that are neither ordinary nor formatting. -/
def specialNames : List String :=
  ["address", "applet", "area", "article", "aside", "base", "basefont", "bgsound", "blockquote",
   "body", "br", "button", "caption", "center", "col", "colgroup", "dd", "details", "dir", "div",
   "dl", "dt", "embed", "fieldset", "figcaption", "figure", "footer", "form", "frame", "frameset",
   "h1", "h2", "h3", "h4", "h5", "h6", "head", "header", "hgroup", "hr", "html", "iframe", "img",
   "input", "keygen", "li", "link", "listing", "main", "marquee", "menu", "meta", "nav", "noembed",
   "noframes", "noscript", "object", "ol", "p", "param", "plaintext", "pre", "script", "search",
   "section", "select", "source", "style", "summary", "table", "tbody", "td", "template",
   "textarea", "tfoot", "th", "thead", "title", "tr", "track", "ul", "wbr", "xmp"]

/-- Elements of MathML that hold text. -/
def mathTextNames : List String := ["mi", "mo", "mn", "ms", "mtext"]

/-- Elements of SVG that hold HTML. -/
def svgHtmlNames : List String := ["foreignObject", "desc", "title"]

/-- Whether an element is special. -/
def ElementName.isSpecial (e : ElementName) : Bool :=
  e.vocabulary == .html && specialNames.contains e.name

/-- Whether text and most tags inside an element of MathML are HTML. -/
def ElementName.isMathText (e : ElementName) : Bool :=
  e.vocabulary == .mathml && mathTextNames.contains e.name

/-- Whether text and tags inside an element of SVG are HTML. -/
def ElementName.isSvgHtml (e : ElementName) : Bool :=
  e.vocabulary == .svg && svgHtmlNames.contains e.name

/-- The ranges in which an element can be looked for among the open ones. -/
inductive Range where
  /-- Up to a boundary such as a table or a cell. -/
  | normal
  /-- The same, bounded by buttons too. -/
  | button
  /-- The same, bounded by lists too. -/
  | item
  /-- Up to the nearest table or template. -/
  | table
  deriving DecidableEq, Repr

/-- Elements of HTML that bound the normal range. -/
def boundaryNames : List String :=
  ["applet", "caption", "html", "table", "td", "th", "marquee", "object", "select", "template"]

/-- Whether an element bounds a range. -/
def ElementName.bounds (e : ElementName) (range : Range) : Bool :=
  let outside := e.isMathText || e.isSvgHtml
  match range with
  | .table => e.vocabulary == .html && ["html", "table", "template"].contains e.name
  | .normal => outside || (e.vocabulary == .html && boundaryNames.contains e.name)
  | .button =>
      outside ||
        (e.vocabulary == .html && (boundaryNames.contains e.name || e.name == "button"))
  | .item =>
      outside ||
        (e.vocabulary == .html && (boundaryNames.contains e.name || ["ol", "ul"].contains e.name))

end PageExtract.Html
