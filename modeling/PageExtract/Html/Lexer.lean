import PageExtract.Html.Entity
import PageExtract.Html.Token

/-!
# From characters to tokens

`nextToken` takes the next token off a list of characters.  Nothing is an error:
what is no markup is text, and a tag that the end of the document cuts off is
dropped.

Every function here returns what it has not used.  `nextToken` always uses a
character, or says that there are none.  Some characters make no token, such as
an end tag without a name, and then it returns none.
-/

namespace PageExtract.Html

/-! ## Preparing the text -/

/-- A text in which every line ends with a line feed. -/
def normalizeLines : List Char → List Char
  | [] => []
  | '\r' :: '\n' :: rest => '\n' :: normalizeLines rest
  | '\r' :: rest => '\n' :: normalizeLines rest
  | c :: rest => c :: normalizeLines rest

/-- The characters of a document.  A byte order mark at its start is dropped. -/
def sourceChars (html : String) : List Char :=
  match html.toList with
  | '\uFEFF' :: rest => normalizeLines rest
  | cs => normalizeLines cs

/-- The character in place of one that may not occur. -/
def replaceNull (c : Char) : Char := if c = '\x00' then '\uFFFD' else c

/-- What follows some characters at the start of a list, in any case. -/
def afterWord? : List Char → List Char → Option (List Char)
  | [], cs => some cs
  | _ :: _, [] => none
  | w :: word, c :: cs => if c.toLower = w then afterWord? word cs else none

/-! ## Attributes and tags -/

/-- The characters of a value up to where `stop` holds, with references resolved. -/
def valueChars (stop : Char → Bool) : Nat → List Char → List Char × List Char
  | 0, cs => ([], cs)
  | _, [] => ([], [])
  | steps + 1, c :: rest =>
      if stop c then ([], c :: rest)
      else if c = '&' then
        match reference? true rest with
        | some (chars, after) =>
          let (value, rest) := valueChars stop steps after
          (chars ++ value, rest)
        | none =>
          let (value, rest) := valueChars stop steps rest
          (c :: value, rest)
      else
        let (value, rest) := valueChars stop steps rest
        (replaceNull c :: value, rest)

/-- The value that follows an equals sign, or nothing if the document ends in it. -/
def attrValue? (cs : List Char) : Option (List Char × List Char) :=
  match cs.dropWhile isSpace with
  | [] => none
  | '>' :: rest => some ([], '>' :: rest)
  | q :: rest =>
      if q = '"' ∨ q = '\'' then
        match valueChars (· == q) (rest.length + 1) rest with
        | (value, _ :: after) => some (value, after)
        | (_, []) => none
      else
        some (valueChars (fun c => isSpace c || c == '>') (rest.length + 2) (q :: rest))

/-- The rest of a tag after its name: attributes, and whether a slash ends it.
There is nothing if the document ends before the tag does. -/
def tagRest? : Nat → List Attr → List Char → Option ((List Attr × Bool) × List Char)
  | 0, _, _ => none
  | steps + 1, attrs, cs =>
      match cs.dropWhile isSpace with
      | [] => none
      | '>' :: rest => some ((attrs.reverse, false), rest)
      | '/' :: '>' :: rest => some ((attrs.reverse, true), rest)
      | '/' :: rest => tagRest? steps attrs rest
      | c :: rest =>
        let isEnd (c : Char) : Bool := isSpace c || c == '/' || c == '>' || c == '='
        let name := c :: rest.takeWhile (!isEnd ·)
        let name := String.ofList (name.map fun c => (replaceNull c).toLower)
        let after := rest.dropWhile (!isEnd ·)
        let add (value : List Char) : List Attr :=
          if attrs.any fun a => a.name == name then attrs
          else { name, value := String.ofList value } :: attrs
        match after.dropWhile isSpace with
        | '=' :: after => match attrValue? after with
          | none => none
          | some (value, after) => tagRest? steps (add value) after
        | _ => tagRest? steps (add []) after

/-- The name of a tag, in lower case. -/
def tagName (cs : List Char) : String × List Char :=
  let isEnd (c : Char) : Bool := isSpace c || c == '/' || c == '>'
  (String.ofList ((cs.takeWhile (!isEnd ·)).map fun c => (replaceNull c).toLower),
    cs.dropWhile (!isEnd ·))

/-- The start tag whose name comes next. -/
def startTag (cs : List Char) : Token × List Char :=
  let (name, rest) := tagName cs
  match tagRest? (rest.length + 1) [] rest with
  | some ((attrs, selfClosing), rest) => (.startTag { name, attrs, selfClosing }, rest)
  | none => (.eof, [])

/-- The end tag whose name comes next. -/
def endTag (cs : List Char) : Token × List Char :=
  let (name, rest) := tagName cs
  match tagRest? (rest.length + 1) [] rest with
  | some (_, rest) => (.endTag name, rest)
  | none => (.eof, [])

/-- Whether an end tag of a given name comes next, after its opening `</`. -/
def atEndTag (name : String) (cs : List Char) : Bool :=
  match afterWord? name.toList cs with
  | some (c :: _) => isSpace c || c == '/' || c == '>'
  | _ => false

/-! ## Comments and document types -/

/-- The content of a comment up to its end, and what follows. -/
def commentEnd : List Char → List Char × List Char
  | [] => ([], [])
  | '-' :: '-' :: '>' :: rest => ([], rest)
  | '-' :: '-' :: '!' :: '>' :: rest => ([], rest)
  | c :: rest =>
      let (content, after) := commentEnd rest
      (replaceNull c :: content, after)

/-- The comment that follows its opening. -/
def commentToken (cs : List Char) : Token × List Char :=
  match cs with
  | '>' :: rest => (.comment "", rest)
  | '-' :: '>' :: rest => (.comment "", rest)
  | cs =>
      let (content, rest) := commentEnd cs
      (.comment (String.ofList content), rest)

/-- What stands where markup is broken, up to the next `>`, as a comment. -/
def brokenComment (cs : List Char) : Token × List Char :=
  (.comment (String.ofList ((cs.takeWhile (· != '>')).map replaceNull)),
    (cs.dropWhile (· != '>')).drop 1)

/-- Passes the rest of a document type that is broken. -/
def skipDoctype (cs : List Char) : List Char := (cs.dropWhile (· != '>')).drop 1

/-- A quoted identifier and what follows it.  A `>` ends it too early, and so
does the end of the document. -/
def quotedId (q : Char) (cs : List Char) : String × Option (List Char) :=
  let isEnd (c : Char) : Bool := c == q || c == '>'
  let id := String.ofList ((cs.takeWhile (!isEnd ·)).map replaceNull)
  match cs.dropWhile (!isEnd ·) with
  | [] => (id, none)
  | c :: rest => if c = q then (id, some rest) else (id, none)

/-- What follows an identifier that a `>` or the end of the document cuts off. -/
def afterCut (cs : List Char) : List Char := skipDoctype cs

/-- The end of a document type after its system identifier. -/
def doctypeEnd (d : Doctype) (cs : List Char) : Token × List Char :=
  match cs.dropWhile isSpace with
  | [] => (.doctype { d with oldLayout := true }, [])
  | '>' :: rest => (.doctype d, rest)
  | rest => (.doctype d, skipDoctype rest)

/-- A document type from where its system identifier may stand.  `needed` says that it must. -/
def systemPart (needed : Bool) (d : Doctype) (cs : List Char) : Token × List Char :=
  match cs.dropWhile isSpace with
  | [] => (.doctype { d with oldLayout := true }, [])
  | '>' :: rest => (.doctype { d with oldLayout := d.oldLayout || needed }, rest)
  | q :: rest =>
      if q = '"' ∨ q = '\'' then
        match quotedId q rest with
        | (id, some after) => doctypeEnd { d with systemId := some id } after
        | (id, none) => (.doctype { d with systemId := some id, oldLayout := true }, afterCut rest)
      else (.doctype { d with oldLayout := true }, skipDoctype (q :: rest))

/-- A document type from where its public identifier must stand. -/
def publicPart (d : Doctype) (cs : List Char) : Token × List Char :=
  match cs.dropWhile isSpace with
  | [] => (.doctype { d with oldLayout := true }, [])
  | '>' :: rest => (.doctype { d with oldLayout := true }, rest)
  | q :: rest =>
      if q = '"' ∨ q = '\'' then
        match quotedId q rest with
        | (id, some after) => systemPart false { d with publicId := some id } after
        | (id, none) => (.doctype { d with publicId := some id, oldLayout := true }, afterCut rest)
      else (.doctype { d with oldLayout := true }, skipDoctype (q :: rest))

/-- The document type that follows its keyword. -/
def doctypeToken (cs : List Char) : Token × List Char :=
  match cs.dropWhile isSpace with
  | [] => (.doctype { oldLayout := true }, [])
  | '>' :: rest => (.doctype { oldLayout := true }, rest)
  | cs =>
      let isEnd (c : Char) : Bool := isSpace c || c == '>'
      let name := (cs.takeWhile (!isEnd ·)).map fun c => (replaceNull c).toLower
      let d : Doctype := { name := some (String.ofList name) }
      match (cs.dropWhile (!isEnd ·)).dropWhile isSpace with
      | [] => (.doctype { d with oldLayout := true }, [])
      | '>' :: rest => (.doctype d, rest)
      | rest =>
        match afterWord? "public".toList rest with
        | some after => publicPart d after
        | none => match afterWord? "system".toList rest with
          | some after => systemPart true d after
          | none => (.doctype { d with oldLayout := true }, skipDoctype rest)

/-! ## Scripts

A script may hold a comment, and in the comment a script of its own, whose end
tag does not end the script outside.  What counts is whether the comment is open
and how many hyphens have just been seen.
-/

/-- Where a character of a script stands. -/
inductive ScriptPart where
  /-- Outside a comment. -/
  | outside
  /-- In a comment, after some hyphens. -/
  | comment (hyphens : Nat)
  /-- In a script inside a comment, after some hyphens. -/
  | inner (hyphens : Nat)

/-- Whether the word `script` comes next, as the whole name of a tag. -/
def atScriptName (cs : List Char) : Bool := atEndTag "script" cs

/-- The characters of a script up to its end tag, and what follows. -/
def scriptChars (name : String) : ScriptPart → List Char → List Char × List Char
  | _, [] => ([], [])
  | part, c :: rest =>
      let go (part : ScriptPart) : List Char × List Char :=
        let (chars, after) := scriptChars name part rest
        (replaceNull c :: chars, after)
      let ends : Bool := match c, rest with
        | '<', '/' :: cs => atEndTag name cs
        | _, _ => false
      match part with
      | .outside =>
        if ends then ([], c :: rest)
        else if c = '<' ∧ (afterWord? "!--".toList rest).isSome then go (.comment 0)
        else go .outside
      | .comment hyphens =>
        if ends then ([], c :: rest)
        else if c = '-' then go (.comment (hyphens + 1))
        else if c = '>' ∧ 2 ≤ hyphens then go .outside
        else if c = '<' ∧ atScriptName rest then go (.inner 0)
        else go (.comment 0)
      | .inner hyphens =>
        let leaves : Bool := match c, rest with
          | '<', '/' :: cs => atScriptName cs
          | _, _ => false
        if leaves then go (.comment 0)
        else if c = '-' then go (.inner (hyphens + 1))
        else if c = '>' ∧ 2 ≤ hyphens then go .outside
        else go (.inner 0)

/-! ## The next token -/

/-- The longest run of space, or of characters that are neither space nor stop the run. -/
def runToken (stop : Char → Bool) (cs : List Char) : Token × List Char :=
  match cs with
  | [] => (.eof, [])
  | c :: _ =>
      if isSpace c then (.space (cs.takeWhile isSpace), cs.dropWhile isSpace)
      else
        let goesOn (c : Char) : Bool := !isSpace c && !stop c
        (.word (cs.takeWhile goesOn), cs.dropWhile goesOn)

/-- An ampersand with what it stands for. -/
def ampersandToken (rest : List Char) : Token × List Char :=
  match reference? false rest with
  | some (chars, after) => (.run chars, after)
  | none => (.word ['&'], rest)

/-- What follows `<!` as markup. -/
def declaration (inForeign : Bool) (cs : List Char) : Option Token × List Char :=
  match cs with
  | '-' :: '-' :: rest => let (t, rest) := commentToken rest; (some t, rest)
  | cs =>
      match afterWord? "doctype".toList cs with
      | some rest => let (t, rest) := doctypeToken rest; (some t, rest)
      | none =>
        match cs with
        | '[' :: 'C' :: 'D' :: 'A' :: 'T' :: 'A' :: '[' :: rest =>
          if inForeign then (none, rest)
          else let (t, rest) := brokenComment cs; (some t, rest)
        | cs => let (t, rest) := brokenComment cs; (some t, rest)

/-- What follows `<` as markup, or nothing if it is text. -/
def markup? (cs : List Char) : Option (Option Token × List Char) :=
  match cs with
  | '/' :: c :: rest =>
      if c.isAlpha then let (t, rest) := endTag (c :: rest); some (some t, rest)
      else if c = '>' then some (none, rest)
      else let (t, rest) := brokenComment (c :: rest); some (some t, rest)
  | '?' :: _ => let (t, rest) := brokenComment cs; some (some t, rest)
  | c :: _ => if c.isAlpha then let (t, rest) := startTag cs; some (some t, rest) else none
  | [] => none

/-- The characters of a literal section up to its end, and what follows. -/
def literalChars : List Char → List Char × List Char
  | [] => ([], [])
  | ']' :: ']' :: '>' :: rest => ([], rest)
  | c :: rest =>
      let (chars, after) := literalChars rest
      (c :: chars, after)

/-- Characters as tokens, each run on its own.  A step takes at least a character. -/
def runTokens : Nat → List Char → List Token
  | 0, _ => []
  | _, [] => []
  | steps + 1, '\x00' :: rest => .null :: runTokens steps rest
  | steps + 1, cs =>
      let (t, rest) := runToken (· == '\x00') cs
      t :: runTokens steps rest

/-- The tokens that come next and what follows them.  `endName` is the name of the
element whose text is read, and `inForeign` says that literal sections are allowed. -/
def nextTokens (reading : Reading) (endName : String) (inForeign : Bool) (cs : List Char) :
    List Token × List Char :=
  let one (p : Token × List Char) : List Token × List Char := ([p.1], p.2)
  match cs with
  | [] => ([.eof], [])
  | c :: rest =>
    match reading with
    | .markup =>
      if c = '<' then
        match rest with
        | '!' :: after =>
          match declaration inForeign after with
          | (some t, rest) => ([t], rest)
          | (none, rest) =>
            let (chars, rest) := literalChars rest
            (runTokens (chars.length + 1) chars, rest)
        | _ =>
          match markup? rest with
          | some (t, rest) => (t.toList, rest)
          | none => ([.word ['<']], rest)
      else if c = '&' then one (ampersandToken rest)
      else if c = '\x00' then ([.null], rest)
      else one (runToken (fun c => c == '<' || c == '&' || c == '\x00') cs)
    | .escapable =>
      if c = '<' then
        match rest with
        | '/' :: after => if atEndTag endName after then one (endTag after) else ([.word [c]], rest)
        | _ => ([.word [c]], rest)
      else if c = '&' then one (ampersandToken rest)
      else if c = '\x00' then ([.word ['\uFFFD']], rest)
      else one (runToken (fun c => c == '<' || c == '&' || c == '\x00') cs)
    | .raw =>
      if c = '<' then
        match rest with
        | '/' :: after => if atEndTag endName after then one (endTag after) else ([.word [c]], rest)
        | _ => ([.word [c]], rest)
      else if c = '\x00' then ([.word ['\uFFFD']], rest)
      else one (runToken (fun c => c == '<' || c == '\x00') cs)
    | .script =>
      match scriptChars endName .outside cs with
      | ([], '<' :: '/' :: after) => one (endTag after)
      | (chars, rest) => (runTokens (chars.length + 1) chars, rest)
    | .plain => (runTokens (cs.length + 1) (cs.map replaceNull), [])

end PageExtract.Html
