import Scripture.Web.Passages
import Scripture.Calendar

/-!
# The site

The site answers requests by their path. Each path names an endpoint (`Endpoint.ofPath?`):
the search page at `/` and `/biblesearch`, a page of the site by its name at `/<name>`,
files under `/assets/`, and under `/biblesearch/` the endpoints that set the number of
context verses (`context`) or the range of books (`range`) and show the page again, and
those that search, list references, find paragraphs or chapters, look verses up, open a
devotional, show definitions or list the books. These last may end in any suffix: with
`.json` they answer JSON, with any other a page.

Only reading is answered: another method on a known path is refused as not allowed, and an
unknown path is not found.

An endpoint reads the fields of the query and the cookies, sets cookies, and replies with
a page or with JSON (`Reply`). The cookies hold JSON values: the range of books, the last
search, the number of context verses, the last devotional date. A cookie header is read
only when an endpoint asks for a cookie, so a header that cannot be read fails only those.

Some requests are answered by a page about the request (`Refusal`): a route that fails is
answered with status 500 and the failure; a path that is not found, a file that does not
exist and a page name the site does not know are shown on the site's error page; a
method that is not allowed is shown on the server's plain page. Such answers carry no
cookies.
-/

namespace Scripture.Web

/-- A request: its method, path, query string and cookie header. -/
structure Request where
  method : String := "GET"
  path : String := "/"
  query : String := ""
  cookies : String := ""
deriving Repr

/-- Why a request is not answered by its endpoint's reply. -/
inductive Refusal where
  /-- The endpoint failed. -/
  | failed (f : Failure)
  /-- The site's error page, with the status, the heading and the lines it shows. -/
  | shown (code : Nat) (heading : String) (lines : List String)
  /-- The server's plain page for a status the site has no page for, with its message. -/
  | plain (code : Nat) (message : String)

/-- What an endpoint replies: a page, or JSON. -/
inductive Reply where
  | page (html : String)
  | data (j : Json)

/-- The work of an endpoint: it sets cookies, and replies or is refused. -/
abbrev Route := StateT (List Cookie) (Except Refusal)

/-- The site: how it is built, the store it reads, its searcher and the month and day of
the current date (as `MM.DD`). -/
structure Site where
  build : AppBuild
  store : Store
  searcher : Search.Searcher
  today : String

/-- The site on a store. -/
def Site.load (build : AppBuild) (store : Store) (today : String) : Except Failure Site := do
  pure ⟨build, store, ← Search.Searcher.load store true, today⟩

/-- A request as an endpoint reads it. -/
structure Visit where
  site : Site
  query : Query
  cookieHeader : String

/-- A step that may fail, in an endpoint. -/
def attempt {α : Type} (x : Except Failure α) : Route α :=
  match x with
  | .ok a => pure a
  | .error f => throw (.failed f)

/-- Sets a cookie; a cookie set before keeps its place. -/
def setCookie (c : Cookie) : Route Unit :=
  modify fun cs => if cs.any (·.name == c.name) then
      cs.map fun d => if d.name == c.name then c else d
    else cs ++ [c]

/-- Sets a cookie to the JSON text of a value. -/
def setJsonCookie (name : String) (value : Json) : Route Unit := do
  setCookie (← attempt (Cookie.make name value.render))

/-- The text of a cookie, or `default` when it is missing or empty. -/
def Visit.cookie (v : Visit) (name default : String) : Route String := do
  pure ((← attempt (Cookies.parse v.cookieHeader)).getD name default)

/-- The JSON value of a cookie, whose default is JSON text too. -/
def Visit.cookieValue (v : Visit) (name default : String) : Route Json := do
  attempt (Json.parseText (← v.cookie name default))

/-- A field of the query, or `default`. -/
def Visit.field (v : Visit) (name default : String) : String := (v.query.get? name).getD default

/-- A field of the query, or a default value, without blanks at the ends; a default that is
not a text fails. -/
def Visit.trimmed (v : Visit) (name : String) (default : Json) : Route String :=
  match v.query.get? name, default with
  | some s, _ => pure (Text.trimBlank s)
  | none, .str s => pure (Text.trimBlank s)
  | none, j => throw (.failed ⟨.missingMember, "'" ++ j.kindName ++ "' object has no attribute 'strip'"⟩)

/-- A field of the query read as a whole number, or `default` when it is missing or not a
number. -/
def Visit.number (v : Visit) (name : String) (default : Json) : Json :=
  match (v.query.get? name).bind readWhole? with
  | some n => .int n
  | none => default

/-- The search page for the values it shows; the search terms must be a text. -/
def searchPageOf (references verses context lowest highest reference date terms : Json) :
    Except Failure String := do
  let menus : Menus := { context := context.display, lowest := lowest.display,
                         highest := highest.display, reference := reference.display,
                         date := date.display }
  let shown ← match terms with
    | .str s => pure (escapeHtml s)
    | j => throw ⟨.missingMember, "'" ++ j.kindName ++ "' object has no attribute 'replace'"⟩
  pure (SearchPage.render { menus := menus.render, terms := shown, references := references.display,
                            verses := verses.display })

/-- The search page with its first values. -/
def firstSearchPage : Except Failure String :=
  searchPageOf (.str "") (.str "") (.int 0) (.str "Genesis") (.str "Revelation")
    (.str "Genesis 1:1") (.str "today") (.str "")

/-- The list of the references of a reference list, with their count. -/
def referenceList (refs : Json) : Except Failure String := do
  let rs ← readingRefs refs
  pure (verseList rs (toString rs.length))

/-- Searches as the site does, recording the query in a cookie. -/
def Visit.search (v : Visit) (terms lowest highest : Json) : Route (List String) := do
  let (refs, c) ← attempt (siteSearch v.site.searcher terms lowest highest)
  setCookie c
  pure refs

/-- The search page with found or asked-for references, search terms and a number of
context verses; what is not given comes from the cookies, and without references the
search terms are searched for. -/
def Visit.buildPage (v : Visit) (refs : List String) (terms context : Json) : Route Reply := do
  let lowest ← v.cookieValue "min_range" "\"Genesis\""
  let highest ← v.cookieValue "max_range" "\"Revelation\""
  let reference ← v.cookieValue "reference" "\"Genesis 1:1\""
  let date ← v.cookieValue "devotional" "\"today\""
  let terms ← if terms.truthy then pure terms else v.cookieValue "search_terms" "\"\""
  let refs ← if refs.isEmpty && terms.truthy then
      match v.site.build with
      | .embedded => throw (.failed ⟨.undefinedName, "name 'do_search' is not defined"⟩)
      | .standalone => v.search terms lowest highest
    else pure refs
  let context ← if context.truthy then pure context else v.cookieValue "context" "0"
  let bible := v.site.searcher.bible
  let rows ← attempt (lookupRows v.site.build bible (.arr (refs.map .str)) terms context)
  let list ← attempt (referenceList (.str (",".intercalate refs)))
  let html ← attempt (searchPageOf (.str list) (.str (verseRows rows)) context lowest highest
    reference date terms)
  pure (.page html)

/-- The endpoints of the site. -/
inductive Endpoint where
  | asset (path : String)
  | context
  | range
  | search (suffix : String)
  | references (suffix : String)
  | chapter (suffix : String)
  | paragraph (suffix : String)
  | lookup (suffix : String)
  | devotional (suffix : String)
  | definitions (suffix : String)
  | books (suffix : String)
  | home
  | named (name : String)
deriving Repr

/-- The endpoints that take a suffix, by the name that follows `/biblesearch/`. -/
def suffixed (build : AppBuild) : List (String × (String → Endpoint)) :=
  [("search", .search), ("references", .references)] ++
  (if build == .standalone then [("chapter", .chapter)] else []) ++
  [("paragraph", .paragraph), ("lookup", .lookup), ("devotional", .devotional),
   ("strongs", .definitions), ("books", .books)]

/-- The endpoint of a path: the exact paths first, then the paths with a part to fill in,
in the order the site declares them. -/
def Endpoint.ofPath? (build : AppBuild) (path : String) : Option Endpoint :=
  let area := "/biblesearch/"
  let exact : Option Endpoint :=
    if path == "/" then some .home
    else if path == area ++ "context" then some .context
    else if path == area ++ "range" then some .range
    else (suffixed build).findSome? fun (name, e) => if path == area ++ name then some (e "") else none
  let filled : Option Endpoint :=
    if path.startsWith "/assets/" && path.length > 8 then some (.asset (path.drop 8).toString)
    else
      let bySuffix := (suffixed build).findSome? fun (name, e) =>
        let head := area ++ name
        if path.startsWith head then
          let rest := (path.drop head.length).toString
          if !rest.isEmpty && !rest.contains '/' then some (e rest) else none
        else none
      match bySuffix with
      | some e => some e
      | none =>
        let rest := (path.drop 1).toString
        if path.startsWith "/" && !rest.isEmpty && !rest.contains '/' then
          if rest == "biblesearch" then some .home else some (.named rest)
        else none
  exact <|> filled

/-- A reply of JSON with one field. -/
def jsonField (name : String) (value : Json) : Reply := .data (.obj [(name, value)])

/-- The start references of a query, its comma-separated parts joined by semicolons. -/
def startRefs (v : Visit) : String :=
  ";".intercalate ((Text.trimBlank (v.field "start" "")).splitOn "," |>.map Text.trimBlank)

/-- The page of a name, as a text read as a page when it holds what a page's text may
hold, else the known pages. -/
def pageNamed (name : String) : Route Reply :=
  if name.contains '\n' || name.contains '\x7b' || name.contains '%' || name.contains '$' then
    pure (.page (if name.endsWith "\n" then (name.dropEnd 1).toString else name))
  else match namedPage? name with
    | some html => pure (.page html)
    | none => throw (.shown 500 ("Template " ++ Text.quote name ++ " not found.") [])

/-- The reply of an endpoint. -/
def Visit.answer (v : Visit) : Endpoint → Route Reply
  | .asset _ => throw (.shown 404 "404" ["File does not exist."])
  | .home => do
    if (← v.cookie "javascript" "") != "" then pure (.page (← attempt firstSearchPage))
    else v.buildPage [] (.str "") (.int 0)
  | .named name => pageNamed name
  | .books _ => pure (jsonField "array" (.arr (Canon.bookNames.map .str)))
  | .context => do
    let count := v.number "context" (.int 0)
    setJsonCookie "context" count
    v.buildPage [] (.str "") count
  | .range => do
    let lowest := Text.trimBlank (v.field "min" "Genesis")
    let highest := Text.trimBlank (v.field "max" "Revelation")
    setJsonCookie "min_range" (.str lowest)
    setJsonCookie "max_range" (.str highest)
    let terms ← v.cookieValue "search_terms" "\"\""
    let refs ← v.search terms (.str lowest) (.str highest)
    v.buildPage refs terms (.int 0)
  | .search suffix => do
    let terms := Text.trimBlank (v.field "search" "")
    if terms.isEmpty then return jsonField "html" (.str "")
    let lowest ← v.cookieValue "min_range" "\"Genesis\""
    let highest ← v.cookieValue "max_range" "\"Revelation\""
    let lowest ← v.trimmed "min_range" lowest
    let highest ← v.trimmed "max_range" highest
    setJsonCookie "min_range" (.str lowest)
    setJsonCookie "max_range" (.str highest)
    let refs ← v.search (.str terms) (.str lowest) (.str highest)
    if suffix == ".json" then pure (jsonField "references" (.arr (refs.map .str)))
    else v.buildPage refs (.str terms) (.int 0)
  | .references suffix => do
    let refs := (Text.trimBlank (v.field "verse_refs" "")).replace "+" " "
    if suffix == ".json" then pure (jsonField "html" (.str (← attempt (referenceList (.str refs)))))
    else v.buildPage (← attempt (readingRefs (.str refs))) (.str "") (.int 0)
  | .chapter suffix => do
    let start := startRefs v
    if start.isEmpty then return jsonField "html" (.str "")
    let ranges ← attempt ((← attempt (readingRefs (.str start))).mapM fun r => chapterOf (.str r))
    if suffix == ".json" then pure (jsonField "references" (.arr (ranges.map .str)))
    else v.buildPage (← attempt (readingRefs (.arr (ranges.map .str)))) (.str "") (.int 0)
  | .paragraph suffix => do
    let start := startRefs v
    if start.isEmpty then return jsonField "html" (.str "")
    let bible := v.site.searcher.bible
    let ranges ← attempt ((← attempt (readingRefs (.str start))).mapM fun r => paragraphOf bible (.str r))
    if suffix == ".json" then pure (jsonField "references" (.arr (ranges.map .str)))
    else v.buildPage (← attempt (readingRefs (.arr (ranges.map .str)))) (.str "") (.int 0)
  | .lookup suffix => do
    let terms ← v.cookieValue "search_terms" "\"\""
    let count ← v.cookieValue "context" "0"
    let terms ← v.trimmed "terms" terms
    let refs := Text.trimBlank (v.field "verse_refs" "")
    let count := v.number "context" count
    let refs := refs.replace "+" " "
    setJsonCookie "context" count
    if suffix == ".json" then
      let rows ← attempt (lookupRows v.site.build v.site.searcher.bible (.str refs) (.str terms) count)
      pure (jsonField "html" (.str (verseRows rows)))
    else v.buildPage (← attempt (readingRefs (.str refs))) (.str terms) count
  | .devotional suffix => do
    let date := Text.trimBlank (v.field "date" "")
    setJsonCookie "devotional" (.str date)
    let key := if Text.lower date == "today" then v.site.today else date
    let html ← attempt (devotionalHtml v.site.store key)
    if suffix == ".json" then pure (jsonField "html" (.str html))
    else pure (.page (← attempt (searchPageOf (.str "") (.str html) (.int 0) (.str "Genesis")
      (.str "Revelation") (.str "Genesis 1:1") (.str "today") (.str ""))))
  | .definitions suffix => do
    let numbers := Text.trimBlank (v.field "strongs" "")
    let tags := Text.trimBlank (v.field "morph" "")
    if numbers.isEmpty && tags.isEmpty then return jsonField "html" (.str "")
    let html := definitions (← attempt (definitionPanel v.site.store numbers tags))
    if suffix == ".json" then pure (jsonField "html" (.str html))
    else pure (.page (← attempt firstSearchPage))

/-- An answer of the site: its status line, content type, cookies and body, or the failure
reported in place of a body. -/
structure Response where
  status : String
  contentType : String
  cookies : List Cookie
  body : Except Failure String

/-- The status line of a status code. -/
def statusLine (code : Nat) : String :=
  toString code ++ " " ++ match code with
    | 200 => "OK"
    | 400 => "Bad Request"
    | 401 => "Unauthorized"
    | 403 => "Forbidden"
    | 404 => "Not Found"
    | 405 => "Method Not Allowed"
    | _ => "Internal Server Error"

/-- A path with every character but letters, digits, `_.-~` and `/` written as `%` and two
hexadecimal digits for each of its bytes in UTF-8. -/
def quotePath (path : String) : String :=
  let keep (c : Char) := c.isAlphanum || "_.-~/".contains c
  let hex (n : Nat) := (Nat.toDigits 16 n).map Char.toUpper
  String.join (path.toList.map fun c =>
    if c.toNat < 128 && keep c then c.toString
    else String.join (c.toString.toUTF8.toList.map fun b =>
      "%" ++ String.ofList (if b.toNat < 16 then '0' :: hex b.toNat else hex b.toNat)))

/-- A text with `&`, `<`, `>`, `"` and `'` written as character references, as the
server's plain page writes them. -/
def escapePlain (s : String) : String :=
  (escapeHtml s).replace "&#x27;" "&#039;"

/-- The server's plain page of a status for a request. -/
def plainPage (code : Nat) (url message : String) : String :=
  "\n    <!DOCTYPE HTML PUBLIC \"-//IETF//DTD HTML 2.0//EN\">\n    <html>\n        <head>\n" ++
  "            <title>Error: " ++ statusLine code ++ "</title>\n" ++
  "            <style type=\"text/css\">\n" ++
  "              html \x7bbackground-color: #eee; font-family: sans;\x7d\n" ++
  "              body \x7bbackground-color: #fff; border: 1px solid #ddd;\n" ++
  "                    padding: 15px; margin: 15px;\x7d\n" ++
  "              pre \x7bbackground-color: #eee; border: 1px solid #ddd; padding: 5px;\x7d\n" ++
  "            </style>\n        </head>\n        <body>\n" ++
  "            <h1>Error: " ++ statusLine code ++ "</h1>\n" ++
  "            <p>Sorry, the requested URL <tt>" ++ escapePlain (Text.quote url) ++ "</tt>\n" ++
  "               caused an error:</p>\n" ++
  "            <pre>" ++ escapePlain message ++ "</pre>\n        </body>\n    </html>\n"

/-- The address of a request as the server names it. -/
def Request.url (r : Request) : String :=
  "http://localhost:8081" ++ quotePath r.path ++ (if r.query.isEmpty then "" else "?" ++ r.query)

/-- The site's answer to a request. -/
def Site.respond (s : Site) (r : Request) : Response :=
  let html := "text/html; charset=UTF-8"
  let method := Text.upper r.method
  let reading := method == "GET" || method == "HEAD"
  let refusal (x : Refusal) : Response :=
    match x with
    | .failed f => ⟨statusLine 500, html, [], .error f⟩
    | .shown code heading lines => ⟨statusLine code, html, [], .ok (errorPage heading lines)⟩
    | .plain code message => ⟨statusLine code, html, [], .ok (plainPage code r.url message)⟩
  let response := match Endpoint.ofPath? s.build r.path with
    | none => refusal (.shown 404 "404" ["Not found: " ++ Text.quote r.path])
    | some e =>
      if !reading then refusal (.plain 405 "Method not allowed.")
      else
        let v : Visit := ⟨s, Query.parse r.query, r.cookies⟩
        match (v.answer e).run [] with
        | .error x => refusal x
        | .ok (.page p, cs) => ⟨statusLine 200, html, cs, .ok p⟩
        | .ok (.data j, cs) => ⟨statusLine 200, "application/json", cs, .ok j.render⟩
  if method == "HEAD" then { response with body := response.body.map fun _ => "" } else response

/-- The statuses the site shows on its own error page. -/
def shownStatuses : List Int := [500, 404, 403, 401]

/-- The site's error page for a status and the body of the error; a status the site does not
show on its page fails, naming the status. A status equal as a number to one it shows is
written as it is given. -/
def errorPageFor (status body : Json) : Except Failure String :=
  if shownStatuses.any fun c => Json.sameMember status (.int c) then
    .ok (errorPage status.display [body.display])
  else .error ⟨.missingKey, status.shown⟩

end Scripture.Web
