import Scripture.Text.Case

/-!
# Reading XML

A reader for the XML that verse markup is stored in, strict in the way of a conforming
processor with namespaces: a document that is not well formed is refused. The tree it
gives keeps what the renderers look at:

* elements, with their qualified name, their local name (the part after a prefix) and
  their attributes in order, namespace declarations first;
* text, with references replaced and line ends made `\n`; text that is only interrupted
  by references or by empty CDATA sections stays one piece;
* CDATA sections, comments and processing instructions, each a node of its own.

What is refused: a tag, reference, comment, CDATA section or processing instruction that
is malformed or not closed; end tags that do not match; attributes without blanks between
them, given twice, or with `<` in their value; references to entities other than the five
predefined ones, and to characters that XML does not allow; `]]>` in text; `--` inside a
comment; a processing instruction named `xml` in any case; a declaration; characters that
XML does not allow; names that do not start as names; unbound prefixes and declarations
that namespaces forbid; and anything after the root element but blanks, comments and
processing instructions.
-/

namespace Scripture.Markup

/-- A node of an XML tree. -/
inductive XmlNode where
  | element (qname localName : String) (attrs : List (String × String)) (children : List XmlNode)
  | text (data : String)
  | cdata (data : String)
  | comment (data : String)
  | instruction (target data : String)
deriving Repr, Inhabited

/-- Whether a character may appear in an XML document. -/
def isXmlChar (c : Char) : Bool :=
  let n := c.toNat
  n == 9 || n == 10 || n == 13 || (0x20 ≤ n && n ≤ 0xD7FF) || (0xE000 ≤ n && n ≤ 0xFFFD) ||
    0x10000 ≤ n

/-- Whether a character is an XML blank. -/
def isXmlSpace (c : Char) : Bool := c == ' ' || c == '\t' || c == '\n' || c == '\r'

/-- Whether a character may start a name. -/
def isNameStart (c : Char) : Bool :=
  c.isAlpha || c == '_' || c == ':' ||
    (c.toNat ≥ 0xC0 && c.toNat != 0xD7 && c.toNat != 0xF7 && Text.isAlnum c && !Text.isDigit c)

/-- Whether a character may continue a name. -/
def isNameChar (c : Char) : Bool :=
  isNameStart c || c.isDigit || c == '.' || c == '-' || c.toNat == 0xB7 ||
    (c.toNat ≥ 0x300 && c.toNat ≤ 0x36F) || (c.toNat ≥ 0x80 && Text.isWordChar c)

/-- Reading XML: a place in the text, and failure with a reason. -/
abbrev XmlReader := StateT Nat (Except String)

section
variable (src : Array Char)

/-- The character at the place, if any. -/
def xpeek : XmlReader (Option Char) := do pure src[(← get)]?

/-- Whether the text at the place starts with `lit`. -/
def xlooking (lit : String) : XmlReader Bool := do
  let i ← get
  pure ((lit.toList.zipIdx).all fun (c, k) => src[i + k]? == some c)

/-- Moves past `n` characters. -/
def xskip (n : Nat) : XmlReader Unit := modify (· + n)

/-- Moves past `lit` when the text starts with it. -/
def xaccept (lit : String) : XmlReader Bool := do
  if ← xlooking src lit then
    xskip lit.length
    pure true
  else pure false

/-- Skips blanks; says how many there were. -/
def xblanks : Nat → XmlReader Nat
  | 0 => pure 0
  | fuel + 1 => do
    match ← xpeek src with
    | some c => if isXmlSpace c then do xskip 1; pure ((← xblanks fuel) + 1) else pure 0
    | none => pure 0

/-- Reads the characters of a name after its first one. -/
def xnameRest : Nat → XmlReader (List Char)
  | 0 => pure []
  | fuel + 1 => do
    match ← xpeek src with
    | some c => if isNameChar c then do xskip 1; pure (c :: (← xnameRest fuel)) else pure []
    | none => pure []

/-- Reads a name. -/
def xname : XmlReader String := do
  match ← xpeek src with
  | some c =>
    if isNameStart c then
      xskip 1
      pure (String.ofList (c :: (← xnameRest src src.size)))
    else throw "not well-formed (invalid token)"
  | none => throw "unclosed token"

/-- The value of the digits of a character reference. -/
def refValue (hex : Bool) (ds : List Char) : Nat :=
  ds.foldl (fun acc d =>
    let v := if '0' ≤ d && d ≤ '9' then d.toNat - 48
      else if 'a' ≤ d && d ≤ 'f' then d.toNat - 87 else d.toNat - 55
    acc * (if hex then 16 else 10) + v) 0

/-- Reads digits of a character reference. -/
def xdigits (hex : Bool) : Nat → XmlReader (List Char)
  | 0 => pure []
  | fuel + 1 => do
    match ← xpeek src with
    | some c =>
      if c.isDigit || (hex && (('a' ≤ c && c ≤ 'f') || ('A' ≤ c && c ≤ 'F'))) then do
        xskip 1
        pure (c :: (← xdigits hex fuel))
      else pure []
    | none => pure []

/-- Reads a reference, whose `&` has been passed, and gives its text. -/
def xreference : XmlReader String := do
  if ← xaccept src "#" then
    let hex ← xaccept src "x"
    let ds ← xdigits src hex src.size
    if ds.isEmpty then throw "not well-formed (invalid token)"
    if !(← xaccept src ";") then throw "not well-formed (invalid token)"
    let v := refValue hex ds
    if v < 0x110000 && !(0xD800 ≤ v && v ≤ 0xDFFF) && isXmlChar (Char.ofNat v) then
      pure (Char.ofNat v).toString
    else throw "reference to invalid character number"
  else
    let n ← xname src
    if !(← xaccept src ";") then throw "not well-formed (invalid token)"
    match n with
    | "amp" => pure "&"
    | "lt" => pure "<"
    | "gt" => pure ">"
    | "quot" => pure "\""
    | "apos" => pure "'"
    | _ => throw "undefined entity"

/-- Reads the rest of an attribute value up to the closing quote `q`, with blanks made
spaces. -/
def xvalue (q : Char) : Nat → String → XmlReader String
  | 0, _ => throw "unclosed token"
  | fuel + 1, acc => do
    match ← xpeek src with
    | none => throw "unclosed token"
    | some c =>
      if c == q then do xskip 1; pure acc
      else if c == '<' || !isXmlChar c then throw "not well-formed (invalid token)"
      else if c == '&' then do
        xskip 1
        let r ← xreference src
        xvalue q fuel (acc ++ r)
      else if c == '\r' then do
        xskip 1
        let _ ← xaccept src "\n"
        xvalue q fuel (acc.push ' ')
      else do
        xskip 1
        xvalue q fuel (acc.push (if isXmlSpace c then ' ' else c))

/-- Reads characters up to the terminator `stop`, which is passed, with line ends made
`\n`. -/
def xuntil (stop : String) : Nat → String → XmlReader String
  | 0, _ => throw "unclosed token"
  | fuel + 1, acc => do
    if ← xaccept src stop then pure acc
    else match ← xpeek src with
      | none => throw "unclosed token"
      | some c =>
        if !isXmlChar c then throw "not well-formed (invalid token)"
        else if c == '\r' then do
          xskip 1
          let _ ← xaccept src "\n"
          xuntil stop fuel (acc.push '\n')
        else do
          xskip 1
          xuntil stop fuel (acc.push c)

/-- Reads the attributes of a start tag, up to its end; says whether the tag closes
itself. -/
def xattributes : Nat → List (String × String) → XmlReader (List (String × String) × Bool)
  | 0, _ => throw "unclosed token"
  | fuel + 1, acc => do
    let gap ← xblanks src src.size
    if ← xaccept src "/>" then return (acc.reverse, true)
    if ← xaccept src ">" then return (acc.reverse, false)
    if (← xpeek src).isNone then throw "unclosed token"
    if gap == 0 then throw "not well-formed (invalid token)"
    let n ← xname src
    let _ ← xblanks src src.size
    if !(← xaccept src "=") then throw "not well-formed (invalid token)"
    let _ ← xblanks src src.size
    let q ← xpeek src
    let v ← match q with
      | some '"' => do xskip 1; xvalue src '"' src.size ""
      | some '\'' => do xskip 1; xvalue src '\'' src.size ""
      | some _ => throw "not well-formed (invalid token)"
      | none => throw "unclosed token"
    if acc.any (·.1 == n) then throw "duplicate attribute"
    xattributes fuel ((n, v) :: acc)

end

/-- The prefix and local part of a qualified name; a name with an empty part or more than
one colon is refused. -/
def splitQName (n : String) : Except String (Option String × String) :=
  match n.splitOn ":" with
  | [l] => .ok (none, l)
  | [p, l] => if p.isEmpty || l.isEmpty then .error "not well-formed (invalid token)" else .ok (some p, l)
  | _ => .error "not well-formed (invalid token)"

/-- The namespace name that the `xml` prefix is bound to. -/
def xmlNamespace : String := "http://www.w3.org/XML/1998/namespace"

/-- Checks the namespace declarations and names of a start tag against the bindings in
scope, and gives the bindings inside the element, the element's local name and its
attributes with the declarations first. -/
def bindNames (bindings : List (String × String)) (qname : String) (attrs : List (String × String)) :
    Except String (List (String × String) × String × List (String × String)) := do
  let decls := attrs.filter fun (n, _) => n == "xmlns" || n.startsWith "xmlns:"
  let plain := attrs.filter fun (n, _) => !(n == "xmlns" || n.startsWith "xmlns:")
  let mut inner := bindings
  for (n, v) in decls do
    if n != "xmlns" then
      let p := (n.drop 6).toString
      if p.isEmpty || p.contains ':' then throw "not well-formed (invalid token)"
      if p == "xmlns" then throw "reserved prefix (xmlns) must not be declared or undeclared"
      if p == "xml" && v != xmlNamespace then
        throw "reserved prefix (xml) must not be undeclared or bound to another namespace name"
      if p != "xml" && v == xmlNamespace then
        throw "reserved prefix (xml) must not be undeclared or bound to another namespace name"
      if v.isEmpty then throw "must not undeclare prefix"
      inner := (p, v) :: inner
  let resolve := fun (n : String) => do
    match ← splitQName n with
    | (none, l) => pure (none, l)
    | (some p, l) =>
      if p == "xml" then pure (some xmlNamespace, l)
      else match inner.lookup p with
        | some u => pure (some u, l)
        | none => throw "unbound prefix"
  let (_, localName) ← resolve qname
  let mut seen : List (Option String × String) := []
  for (n, _) in plain do
    let key ← resolve n
    if key.1.isSome && seen.contains key then throw "duplicate attribute"
    seen := key :: seen
  pure (inner, localName, decls ++ plain)

/-- Adds text to the children read so far (in reverse order), joining it to text read just
before. -/
def addXmlText (acc : List XmlNode) (s : String) : List XmlNode :=
  if s.isEmpty then acc
  else match acc with
    | .text t :: rest => .text (t ++ s) :: rest
    | _ => .text s :: acc

section
variable (src : Array Char)

/-- Reads a processing instruction whose `<?` has been passed. -/
def xinstruction : XmlReader XmlNode := do
  let target ← xname src
  if Text.lower target == "xml" then throw "XML or text declaration not at start of entity"
  if ← xaccept src "?>" then return .instruction target ""
  if (← xblanks src src.size) == 0 then throw "not well-formed (invalid token)"
  pure (.instruction target (← xuntil src "?>" src.size ""))

/-- Reads a comment whose `<!--` has been passed. -/
def xcomment : XmlReader XmlNode := do
  let body ← xuntil src "--" src.size ""
  if ← xaccept src ">" then pure (.comment body)
  else if (← xpeek src).isNone then throw "unclosed token"
  else throw "not well-formed (invalid token)"

mutual

/-- Reads the content of the element `qname` up to its end tag; `acc` holds the children
read, in reverse order. -/
def xcontent (bindings : List (String × String)) (qname : String) :
    Nat → List XmlNode → XmlReader (List XmlNode)
  | 0, _ => throw "unclosed token"
  | fuel + 1, acc => do
    match ← xpeek src with
    | none => throw "no element found"
    | some c =>
      if c == '<' then
        if ← xaccept src "</" then
          let n ← xname src
          let _ ← xblanks src src.size
          if !(← xaccept src ">") then throw "not well-formed (invalid token)"
          if n != qname then throw "mismatched tag"
          pure acc.reverse
        else if ← xaccept src "<!--" then
          let n ← xcomment src
          xcontent bindings qname fuel (n :: acc)
        else if ← xaccept src "<![CDATA[" then
          let d ← xuntil src "]]>" src.size ""
          xcontent bindings qname fuel (if d.isEmpty then acc else .cdata d :: acc)
        else if ← xaccept src "<?" then
          let n ← xinstruction src
          xcontent bindings qname fuel (n :: acc)
        else if ← xaccept src "<!" then throw "not well-formed (invalid token)"
        else
          xskip 1
          let e ← xelement bindings fuel
          xcontent bindings qname fuel (e :: acc)
      else if c == '&' then
        xskip 1
        let r ← xreference src
        xcontent bindings qname fuel (addXmlText acc r)
      else if ← xlooking src "]]>" then throw "not well-formed (invalid token)"
      else if !isXmlChar c then throw "not well-formed (invalid token)"
      else if c == '\r' then
        xskip 1
        let _ ← xaccept src "\n"
        xcontent bindings qname fuel (addXmlText acc "\n")
      else
        xskip 1
        xcontent bindings qname fuel (addXmlText acc c.toString)

/-- Reads an element whose `<` has been passed. -/
def xelement (bindings : List (String × String)) : Nat → XmlReader XmlNode
  | 0 => throw "unclosed token"
  | fuel + 1 => do
    let qname ← xname src
    let (attrs, closed) ← xattributes src src.size []
    let (inner, localName, attrs) ← liftM (bindNames bindings qname attrs)
    if closed then return .element qname localName attrs []
    let children ← xcontent inner qname fuel []
    pure (.element qname localName attrs children)

end

/-- Reads blanks, comments and processing instructions outside the root element. -/
def xmisc : Nat → List XmlNode → XmlReader (List XmlNode)
  | 0, acc => pure acc.reverse
  | fuel + 1, acc => do
    let _ ← xblanks src src.size
    if ← xaccept src "<!--" then xmisc fuel ((← xcomment src) :: acc)
    else if ← xlooking src "<?" then
      xskip 2
      xmisc fuel ((← xinstruction src) :: acc)
    else pure acc.reverse

/-- Reads a whole document: an optional declaration, then the root element with what may
stand around it. -/
def xdocument : XmlReader (List XmlNode) := do
  if ← xlooking src "<?xml" then
    xskip 5
    if (← xblanks src src.size) == 0 then throw "not well-formed (invalid token)"
    let _ ← xuntil src "?>" src.size ""
  let before ← xmisc src src.size []
  if !(← xaccept src "<") then
    if (← xpeek src).isNone then throw "no element found" else throw "syntax error"
  let root ← xelement src [] (src.size + 1)
  let after ← xmisc src src.size []
  if (← xpeek src).isSome then throw "junk after document element"
  pure (before ++ [root] ++ after)

end

/-- Reads an XML document into its top-level nodes, or says why it is not well formed. -/
def parseXml (text : String) : Except String (List XmlNode) :=
  let src := text.toList.toArray
  (xdocument src).run' 0

end Scripture.Markup
