import Scripture.Pattern.Replace
import Scripture.Text.Case
import Scripture.Text.Classes

/-!
# Requests and cookies

What the site reads from a request and writes back to it.

* `Query.parse` — the fields of a query string. Fields are separated by `&` or `;`; empty
  ones are skipped; a field is split at its first `=` (a field without one has an empty
  value); in both parts `+` is read as a blank and then every `%` with two hexadecimal
  digits as the character of that code, from 0 to 255. A name given twice counts with its
  last value.
* `readWhole?` — a whole number written in a query: blanks at the ends, a sign, and decimal
  digits with single underscores between them.
* `Cookies.parse` — the cookies of a `Cookie` header, read as `name=value` pairs separated
  by blanks or semicolons. A value may be quoted, with backslash escapes inside (three octal
  digits give a character). The header is read whole first: a pair without a value, or an
  attribute such as `Path` before any cookie, makes the site ignore the whole header, and a
  cookie name with a character that names may not have fails.
* `Cookie.header` — the `Set-Cookie` value of a cookie: its value as it is when every
  character may stand in a name, otherwise quoted, with `"` and `\` escaped by a backslash
  and other characters below 256 that may not stand in a name written as a backslash and
  three octal digits. Every cookie the site sets holds for the path `/biblesearch`.
* `escapeHtml` — `&`, `<`, `>`, `"` and `'` written as character references.
-/

namespace Scripture.Web

open Pattern

/-- The value of a hexadecimal digit. -/
def hexDigit? (c : Char) : Option Nat :=
  if '0' ≤ c && c ≤ '9' then some (c.toNat - '0'.toNat)
  else if 'a' ≤ c && c ≤ 'f' then some (c.toNat - 'a'.toNat + 10)
  else if 'A' ≤ c && c ≤ 'F' then some (c.toNat - 'A'.toNat + 10)
  else none

/-- Characters with every `%` and two hexadecimal digits read as the character of that code;
any other `%` stays. -/
def percentDecode : List Char → List Char
  | '%' :: a :: b :: rest =>
    match hexDigit? a, hexDigit? b with
    | some x, some y => Char.ofNat (16 * x + y) :: percentDecode rest
    | _, _ => '%' :: percentDecode (a :: b :: rest)
  | c :: rest => c :: percentDecode rest
  | [] => []

/-- One part of a query field, with `+` read as a blank and percent escapes decoded. -/
def queryText (s : String) : String :=
  String.ofList (percentDecode (s.toList.map fun c => if c == '+' then ' ' else c))

/-- The fields of a query, in order. -/
structure Query where
  fields : List (String × String) := []
deriving Repr

/-- The fields of a query string. -/
def Query.parse (qs : String) : Query :=
  let parts := (qs.toList.map fun c => if c == ';' then '&' else c) |> String.ofList |>.splitOn "&"
  ⟨(parts.filter (!·.isEmpty)).map fun p =>
    match p.splitOn "=" with
    | [k] => (queryText k, "")
    | k :: rest => (queryText k, queryText ("=".intercalate rest))
    | [] => ("", "")⟩

/-- The last value given to a name. -/
def Query.get? (q : Query) (name : String) : Option String :=
  (q.fields.reverse.find? (·.1 == name)).map (·.2)

/-- Digits with single underscores between them, read as a number. -/
def digitsValue? : List Char → Option Nat
  | [] => none
  | cs =>
    let step := fun (acc : Option (Nat × Bool)) (c : Char) => do
      let (n, afterMark) ← acc
      if c == '_' then
        if afterMark then none else pure (n, true)
      else
        let d ← Text.digitValue? c
        pure (10 * n + d, false)
    match cs.head?, cs.foldl step (some (0, true)) with
    | some '_', _ => none
    | _, some (n, false) => some n
    | _, _ => none

/-- A whole number as a query writes it. -/
def readWhole? (s : String) : Option Int :=
  match (Text.trimBlank s).toList with
  | '-' :: ds => (digitsValue? ds).map fun n => -(n : Int)
  | '+' :: ds => (digitsValue? ds).map fun n => (n : Int)
  | ds => (digitsValue? ds).map fun n => (n : Int)

/-- The characters a cookie name may have without quoting. -/
def nameChars : List Char :=
  "abcdefghijklmnopqrstuvwxyzABCDEFGHIJKLMNOPQRSTUVWXYZ0123456789!#$%&'*+-.^_|~:".toList ++ [Char.ofNat 96]

/-- Whether a text may stand as a cookie name: one or more name characters. -/
def isCookieName (s : String) : Bool := !s.isEmpty && s.toList.all nameChars.contains

/-- The characters a quoted cookie value keeps as they are. -/
def plainValueChars : List Char := nameChars ++ " ()/<=>?@[]\x7b\x7d".toList

/-- Three octal digits of a code below 512. -/
def octal3 (n : Nat) : String :=
  String.ofList [Char.ofNat (48 + n / 64 % 8), Char.ofNat (48 + n / 8 % 8), Char.ofNat (48 + n % 8)]

/-- A cookie value as a `Set-Cookie` header writes it. -/
def quoteCookieValue (v : String) : String :=
  if isCookieName v then v
  else
    let escaped := v.toList.map fun c =>
      if c == '"' then "\\\""
      else if c == '\\' then "\\\\"
      else if c.toNat < 256 && !plainValueChars.contains c then "\\" ++ octal3 c.toNat
      else c.toString
    "\"" ++ String.join escaped ++ "\""

/-- A cookie the site sets. -/
structure Cookie where
  name : String
  value : String
deriving Repr, DecidableEq

/-- The longest cookie value the site sets. -/
def cookieLimit : Nat := 4096

/-- A cookie to set; a value longer than the limit fails. -/
def Cookie.make (name value : String) : Except Failure Cookie :=
  if value.length > cookieLimit then .error ⟨.badValue, "Cookie value to long."⟩
  else .ok ⟨name, value⟩

/-- The `Set-Cookie` value of a cookie. -/
def Cookie.header (c : Cookie) : String :=
  c.name ++ "=" ++ quoteCookieValue c.value ++ "; Path=/biblesearch"

/-- One cookie of a header: its name, its value, then blanks and a separator. -/
def cookiePattern : Regex := fixed
  ("\\s*(?P<key>[\\w\\d!#%&'~_" ++ (Char.ofNat 96).toString ++
   "><@,:/\\$\\*\\+\\-\\.\\^\\|\\)\\(\\?\\\x7d\\\x7b\\=]+?)(\\s*=\\s*(?P<val>\"(?:[^\\\\\"]|\\\\.)*\"|" ++
   "\\w{3},\\s[\\w\\d\\s-]{9,11}\\s[\\d:]{8}\\sGMT|[\\w\\d!#%&'~_" ++ (Char.ofNat 96).toString ++
   "><@,:/\\$\\*\\+\\-\\.\\^\\|\\)\\(\\?\\\x7d\\\x7b\\=\\[\\]]*))?\\s*(\\s+|;|$)")
  { ascii := true }

/-- The attributes a cookie may carry, in lower case. -/
def cookieAttributes : List String :=
  ["expires", "path", "comment", "domain", "max-age", "secure", "httponly", "version", "samesite"]

/-- The attributes that may stand without a value. -/
def cookieFlags : List String := ["secure", "httponly"]

/-- A quoted cookie value read back: the quotes dropped, three octal digits after a backslash
read as a character, and any other character after a backslash kept. -/
def unquoteCookie (v : String) : String :=
  let cs := v.toList
  if cs.length < 2 || cs.head? != some '"' || cs.getLast? != some '"' then v
  else
    let isOct (c : Char) := '0' ≤ c && c ≤ '7'
    let rec go : List Char → List Char
      | '\\' :: a :: b :: c :: rest =>
        if '0' ≤ a && a ≤ '3' && isOct b && isOct c then
          Char.ofNat ((a.toNat - 48) * 64 + (b.toNat - 48) * 8 + (c.toNat - 48)) :: go rest
        else a :: go (b :: c :: rest)
      | '\\' :: a :: rest => a :: go rest
      | c :: rest => c :: go rest
      | [] => []
    String.ofList (go ((cs.drop 1).dropLast))

/-- A piece of a cookie header: a cookie, or an attribute of the cookie before it. -/
inductive CookiePiece where
  | cookie (name value : String)
  | attribute (name : String)

/-- The cookies of a request, each name once with its last value. -/
structure Cookies where
  values : List (String × String) := []
deriving Repr

/-- Reads the pieces of a cookie header from place `i`; `none` when the header is to be
ignored whole. `fuel` bounds the pieces read. -/
def cookiePieces (text : Array Char) : Nat → Nat → Bool → Option (List CookiePiece)
  | 0, _, _ => some []
  | fuel + 1, i, seen =>
    if i ≥ text.size then some []
    else match cookiePattern.matchAt text i with
      | none => some []
      | some m =>
        let key := m.group 1
        let value := m.group? 3
        let next := m.stop
        if key.startsWith "$" then
          if seen then (cookiePieces text fuel next seen).map (.attribute (key.drop 1).toString :: ·)
          else cookiePieces text fuel next seen
        else if cookieAttributes.contains (Text.lower key) then
          if !seen then none
          else match value with
            | none =>
              if cookieFlags.contains (Text.lower key) then
                (cookiePieces text fuel next seen).map (.attribute key :: ·)
              else none
            | some _ => (cookiePieces text fuel next seen).map (.attribute key :: ·)
        else match value with
          | some v => (cookiePieces text fuel next true).map (.cookie key (unquoteCookie v) :: ·)
          | none => none

/-- The cookies of a `Cookie` header. -/
def Cookies.parse (header : String) : Except Failure Cookies := do
  let text := header.toList.toArray
  match cookiePieces text (text.size + 1) 0 false with
  | none => pure {}
  | some pieces =>
    let mut values : List (String × String) := []
    for p in pieces do
      match p with
      | .attribute name =>
        unless cookieAttributes.contains (Text.lower name) do
          throw ⟨.badCookie, "Invalid attribute " ++ Text.quote (Text.lower name)⟩
      | .cookie name value =>
        unless isCookieName name do
          throw ⟨.badCookie, "Illegal key " ++ Text.quote name⟩
        values := if values.any (·.1 == name) then
            values.map fun (k, v) => if k == name then (k, value) else (k, v)
          else values ++ [(name, value)]
    pure ⟨values⟩

/-- The value of a cookie, or `default` when it is missing or empty. -/
def Cookies.getD (c : Cookies) (name default : String) : String :=
  match c.values.lookup name with
  | some v => if v.isEmpty then default else v
  | none => default

/-- A text with `&`, `<`, `>`, `"` and `'` written as character references. -/
def escapeHtml (s : String) : String :=
  String.join (s.toList.map fun c =>
    if c == '&' then "&amp;"
    else if c == '<' then "&lt;"
    else if c == '>' then "&gt;"
    else if c == '"' then "&quot;"
    else if c == '\'' then "&#x27;"
    else c.toString)

end Scripture.Web
