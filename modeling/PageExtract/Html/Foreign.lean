import PageExtract.Html.Token

/-!
# Names in SVG and MathML

Tags are read in lower case, but names of SVG hold capitals.  So the names of
some elements and attributes are given back the spelling they have there.  Names
of attributes that start with `xlink:` or `xml:` lose that start and belong to
another vocabulary.

Some tags cannot stand in foreign content at all and end it.
-/

namespace PageExtract.Html

/-- The names of elements of SVG that hold capitals. -/
def svgElementNames : List String :=
  ["altGlyph", "altGlyphDef", "altGlyphItem", "animateColor", "animateMotion", "animateTransform",
   "clipPath", "feBlend", "feColorMatrix", "feComponentTransfer", "feComposite",
   "feConvolveMatrix", "feDiffuseLighting", "feDisplacementMap", "feDistantLight",
   "feDropShadow", "feFlood", "feFuncA", "feFuncB", "feFuncG", "feFuncR", "feGaussianBlur",
   "feImage", "feMerge", "feMergeNode", "feMorphology", "feOffset", "fePointLight",
   "feSpecularLighting", "feSpotLight", "feTile", "feTurbulence", "foreignObject", "glyphRef",
   "linearGradient", "radialGradient", "textPath"]

/-- The names of attributes of SVG that hold capitals. -/
def svgAttrNames : List String :=
  ["attributeName", "attributeType", "baseFrequency", "baseProfile", "calcMode", "clipPathUnits",
   "diffuseConstant", "edgeMode", "filterUnits", "glyphRef", "gradientTransform",
   "gradientUnits", "kernelMatrix", "kernelUnitLength", "keyPoints", "keySplines", "keyTimes",
   "lengthAdjust", "limitingConeAngle", "markerHeight", "markerUnits", "markerWidth",
   "maskContentUnits", "maskUnits", "numOctaves", "pathLength", "patternContentUnits",
   "patternTransform", "patternUnits", "pointsAtX", "pointsAtY", "pointsAtZ", "preserveAlpha",
   "preserveAspectRatio", "primitiveUnits", "refX", "refY", "repeatCount", "repeatDur",
   "requiredExtensions", "requiredFeatures", "specularConstant", "specularExponent",
   "spreadMethod", "startOffset", "stdDeviation", "stitchTiles", "surfaceScale",
   "systemLanguage", "tableValues", "targetX", "targetY", "textLength", "viewBox", "viewTarget",
   "xChannelSelector", "yChannelSelector", "zoomAndPan"]

/-- A name in lower case with its capitals from a list, if it is there. -/
def respell (names : List String) (name : String) : String :=
  (names.find? fun n => String.ofList (n.toList.map Char.toLower) == name).getD name

/-- The names of attributes that belong to another vocabulary. -/
def foreignAttrs : List (String × AttrVocabulary × String) :=
  [("xlink:actuate", .xlink, "actuate"), ("xlink:arcrole", .xlink, "arcrole"),
   ("xlink:href", .xlink, "href"), ("xlink:role", .xlink, "role"),
   ("xlink:show", .xlink, "show"), ("xlink:title", .xlink, "title"),
   ("xlink:type", .xlink, "type"), ("xml:lang", .xml, "lang"), ("xml:space", .xml, "space"),
   ("xmlns", .xmlns, "xmlns"), ("xmlns:xlink", .xmlns, "xlink")]

/-- An attribute as it is spelled in a vocabulary. -/
def Attr.inVocabulary (v : Vocabulary) (a : Attr) : Attr :=
  let name := match v with
    | .svg => respell svgAttrNames a.name
    | .mathml => if a.name == "definitionurl" then "definitionURL" else a.name
    | .html => a.name
  match foreignAttrs.lookup name with
  | some (vocabulary, name) => { a with vocabulary, name }
  | none => { a with name }

/-- The name of an element as it is spelled in a vocabulary. -/
def elementIn (v : Vocabulary) (name : String) : ElementName :=
  match v with
  | .svg => ⟨.svg, respell svgElementNames name⟩
  | v => ⟨v, name⟩

/-- Start tags that end foreign content. -/
def breakoutNames : List String :=
  ["b", "big", "blockquote", "body", "br", "center", "code", "dd", "div", "dl", "dt", "em",
   "embed", "h1", "h2", "h3", "h4", "h5", "h6", "head", "hr", "i", "img", "li", "listing", "menu",
   "meta", "nobr", "ol", "p", "pre", "ruby", "s", "small", "span", "strong", "strike", "sub",
   "sup", "table", "tt", "u", "ul", "var"]

/-- Whether a start tag ends foreign content. -/
def StartTag.breaksOut (tag : StartTag) : Bool :=
  breakoutNames.contains tag.name ||
    (tag.name == "font" && tag.attrs.any fun a => ["color", "face", "size"].contains a.name)

end PageExtract.Html
