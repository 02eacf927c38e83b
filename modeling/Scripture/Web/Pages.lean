/-!
# The pages of the site

Every page of the site is laid out alike (`Layout`): a head with the page's title, a
navigation bar with the site's brand, menus and a search form, and the page's content.
A page fills the parts it needs and leaves the others empty.

* `SearchPage.render` — the search page: four menus (the number of context verses, the
  range of books searched, a reference to look up, a devotional's date), the search box
  holding the last search, the list of found references and the found verses. Its panel of
  definitions stays empty.
* `verseList` — the count of a list of references, with a link that looks them all up,
  and a link for each one.
* `verseRows` — looked-up verses, each with its reference (when there is one) as a link,
  the verses that were asked for marked as targets, and a rule after a verse with no text.
* `definitions` — each piece of a definition panel in a row of its own.
* `errorPage` — the status of a failed request and the lines that explain it.
* `namedPage?` — a page of the site by its name, with all its values empty, as the site
  shows it for a path of one part.

Every text is written as it is given: the pages escape nothing but the search box, whose
terms the caller escapes.
-/

namespace Scripture.Web

/-- The parts of a page that the site's layout leaves open. A page without a head of its own
gets the line with its title. -/
structure Layout where
  title : String := ""
  head : Option String := none
  brand : String := ""
  navbar : String := ""
  search : String := ""
  content : String := ""

/-- The layout up to the head of the page. -/
def layoutTop : String := "<!DOCTYPE html>
<html lang=\"en\">
    <head>
        <meta charset=\"utf-8\">
        <meta name=\"viewport\" content=\"width=device-width, initial-scale=1.0\">
        <script type=\"text/javascript\">
            // Check for javascript
            if (!document.cookie.match(/javascript=true/)) \x7b
                document.cookie = \"javascript=true\";
                window.location.reload();
            \x7d
        </script>
        <link href=\"/assets/css/bootstrap.css\" rel=\"stylesheet\"/>
        <link rel=\"shortcut icon\" href=\"assets/ico/favicon.png\"/>
        "

/-- The layout from the head of the page to the brand. -/
def layoutStyle : String := "
        <style type=\"text/css\">
            body \x7b
                padding-top: 40px;
            \x7d

            .jumbotron \x7b
                margin: 60px 0;
                text-align: center;
            \x7d
        </style>
        <!-- <link href=\"/assets/css/bootstrap-responsive.css\" rel=\"stylesheet\"/> -->
        <script src=\"/assets/js/modernizr-latest.js\"></script>
    </head>
    <body>
        <div class=\"navbar navbar-inverse navbar-fixed-top\">
            <div class=\"navbar-inner\">
                <div class=\"container-fluid\">
                    <a class=\"btn btn-navbar\" data-toggle=\"collapse\" data-target=\".nav-collapse\">
                        <span class=\"icon-bar\"></span>
                        <span class=\"icon-bar\"></span>
                        <span class=\"icon-bar\"></span>
                    </a>
                    "

/-- The layout between the brand and the navigation bar. -/
def layoutNav : String := "
                    <div class=\"nav-collapse collapse\">
                        "

/-- The layout between the navigation bar and the search form. -/
def layoutSearch : String := "
                    </div>
                    "

/-- The layout between the search form and the content. -/
def layoutScripts : String := "
                </div>
            </div>
        </div>
        <!-- <script src=\"//ajax.googleapis.com/ajax/libs/jquery/1.9.0/jquery.min.js\"></script>    -->
        <!-- <script src=\"//ajax.googleapis.com/ajax/libs/jquery/1.9.0/jquery.ui.min.js\"></script> -->
        <!-- <script src=\"http://code.jquery.com/jquery-latest.min.js\"></script> -->
        <script src=\"/assets/js/jquery-latest.min.js\"></script>
        <script src=\"/assets/js/jquery-ui.custom.min.js\"></script>
        <script src=\"/assets/js/bootstrap.min.js\"></script>
        "

/-- The title line of a page's head. -/
def titleLine (title : String) : String := "
            <title>" ++ title ++ " - Biblesearch</title>
        "

/-- A page in the site's layout. -/
def Layout.render (l : Layout) : String :=
  layoutTop ++ l.head.getD (titleLine l.title) ++ layoutStyle ++ l.brand ++ layoutNav ++
    l.navbar ++ layoutSearch ++ l.search ++ layoutScripts ++ l.content ++ "\n    </body>\n</html>"

/-- The site's brand in the navigation bar. -/
def brand : String := "
    <a class=\"brand\" href=\"/biblesearch\">Biblesearch</a>
"

/-- The opening of a menu up to its id. -/
def menuOpen : String := "<li class=\"dropdown\">
    <a class=\"dropdown-toggle\" id=\""

/-- The list of a menu, up to the id it is labelled by. -/
def menuList : String := "
        <b class=\"caret\"></b>
    </a>
    <ul class=\"dropdown-menu\" role=\"menu\" aria-labelledby=\""

/-- The opening of the body of a menu. -/
def menuBody : String := "\">
        <li role='menuitem'>
            <div class=\"container-fluid\">
                <div class=\"row-fluid\">
                    "

/-- The closing of a menu. -/
def menuClose : String := "
                </div>
            </div>
        </li>
    </ul>
</li>
"

/-- A menu of the navigation bar, with its id, its link, its label and the form it holds. -/
def menu (id href label form : String) : String :=
  menuOpen ++ id ++ "\" role=\"button\" data-toggle=\"dropdown\" data-target=\"#\" href=\"" ++ href ++ "\">\n        " ++ label ++ menuList ++ id ++
    menuBody ++ form ++ menuClose

/-- The form that sets the number of context verses, up to the number. -/
def contextFormOpen : String := "
    <form action=\"/biblesearch/context\" method=\"get\" id=\"form-context\" class=\"modal-form\">
        <fieldset>
            <div class=\"input-prepend input-append\">
                <span class=\"add-on\">Context</span>
                <input autofocus class=\"input-small\" id=\"context\" name=\"context\" value=\""

/-- The form that sets the number of context verses, after the number. -/
def contextFormClose : String := "\" type=\"number\"/>
                <button type=\"submit\" name=\"verses\" class=\"btn\"><i class=\"icon-ok\"></i></button>
                <button type=\"button\" id=\"paragraph-button\" name=\"paragraph\" class=\"btn\">Paragraph</button>
                <button type=\"button\" id=\"chapter-button\" name=\"chapter\" class=\"btn\">Chapter</button>
            </div>
        </fieldset>
    </form>
"

/-- The form that sets the number of context verses. -/
def contextForm (count : String) : String := contextFormOpen ++ count ++ contextFormClose

/-- The form that sets the range of books searched, up to the lowest book. -/
def rangeFormOpen : String := "
    <form action=\"/biblesearch/range\" id=\"form-range\" class=\"modal-form\">
        <fieldset>
            <div class=\"input-prepend input-append\">
                <span class=\"add-on\">Lower</span>
                <input class=\"input-small\" name=\"min\" id=\"min-range\" value=\""

/-- The form that sets the range of books searched, between the lowest and highest books. -/
def rangeFormMiddle : String := "\" type=\"text\" data-provide=\"typeahead\"/>
                <span class=\"add-on\"><i class=\"icon-book\"></i></span>
            </div>

            <div class=\"input-prepend input-append\">
                <span class=\"add-on\">Upper</span>
                <input class=\"input-small\" name=\"max\" id=\"max-range\" value=\""

/-- The form that sets the range of books searched, after the highest book. -/
def rangeFormClose : String := "\" type=\"text\" data-provide=\"typeahead\"/>
                <span class=\"add-on\"><i class=\"icon-book\"></i></span>
            </div>
            <button type=\"submit\" class=\"btn\"><i class=\"icon-ok\"></i></button>
        </fieldset>
    </form>
"

/-- The form that sets the range of books searched. -/
def rangeForm (lowest highest : String) : String :=
  rangeFormOpen ++ lowest ++ rangeFormMiddle ++ highest ++ rangeFormClose

/-- The form that looks up a reference, up to the reference. -/
def lookupFormOpen : String := "
    <form action=\"/biblesearch/lookup\" method=\"get\" id=\"form-lookup\" class=\"modal-form\">
        <div class=\"input-prepend input-append\">
            <span class=\"add-on\">Reference</span>
            <input autofocus class=\"input-small\" id=\"lookup\" value=\""

/-- The form that looks up a reference, after the reference. -/
def lookupFormClose : String := "\" name=\"verse_refs\" type=\"text\" data-provide=\"typeahead\"/>
            <button type=\"submit\" class=\"btn\"><i class=\"icon-ok\"></i></button>
        </div>
    </form>
"

/-- The form that looks up a reference. -/
def lookupForm (reference : String) : String := lookupFormOpen ++ reference ++ lookupFormClose

/-- The form that opens the devotional of a date, up to the date. -/
def devotionalFormOpen : String := "
    <form action=\"/biblesearch/devotional\" method=\"get\" id=\"form-devotional\" class=\"modal-form\">
        <div class=\"input-prepend input-append\">
            <span class=\"add-on\">Date</span>
            <input class=\"input-small\" id=\"devotional\" name=\"date\" type=\"text\" value=\""

/-- The form that opens the devotional of a date, after the date. -/
def devotionalFormClose : String := "\" data-provide=\"typeahead\"/>
            <button type=\"submit\" class=\"btn\"><i class=\"icon-ok\"></i></button>
        </div>
    </form>
"

/-- The form that opens the devotional of a date. -/
def devotionalForm (date : String) : String := devotionalFormOpen ++ date ++ devotionalFormClose

/-- The values the menus of the search page show. -/
structure Menus where
  context : String := "0"
  lowest : String := "Genesis"
  highest : String := "Revelation"
  reference : String := "Genesis 1:1"
  date : String := "today"

/-- The menus of the search page, one after the other on lines of their own. -/
def Menus.render (m : Menus) : String :=
  "\n".intercalate [menu "dcontext" "#" "Context" (contextForm m.context),
    menu "drange" "#" "Range" (rangeForm m.lowest m.highest),
    menu "dlookup" "#" "Reference" (lookupForm m.reference),
    menu "ddevotional" "#" "Devotional" (devotionalForm m.date)]

/-- The search form up to the terms in its box. -/
def searchFormOpen : String := "<form action=\"/biblesearch/search\" class=\"form-search navbar-search pull-right\" method=\"get\" id=\"form-search\">
    <div class=\"input-append\">
        <input autofocus id=\"search\" name=\"search\" class=\"search-query\" placeholder=\"Search Terms\" type=\"text\" value=\""

/-- The search form after the terms in its box. -/
def searchFormClose : String := "\"/>
        <button type=\"submit\" class=\"btn\"><i class=\"icon-search\"></i></button>
    </div>
</form>"

/-- The search form; `terms` stands in the search box as it is given. -/
def searchForm (terms : String) : String := searchFormOpen ++ terms ++ searchFormClose

/-- What the search page shows: its menus, the terms in its search box, the list of found
references and the found verses. -/
structure SearchPage where
  menus : String := ""
  terms : String := ""
  references : String := ""
  verses : String := ""

/-- The head of the search page, after its title line. -/
def searchHeadLink : String := "
    <link href=\"/assets/css/biblesearch.css\" rel=\"stylesheet\"/>
"

/-- The navigation bar of the search page, up to its menus. -/
def searchNavOpen : String := "
    <ul class=\"nav\">
        <li class=\"active\"><a href=\"/biblesearch\">Home</a></li>
        "

/-- The navigation bar of the search page, after its menus. -/
def searchNavClose : String := "
        <li><a href=\"/about\" id=\"about\">About</a></li>
        <li><a href=\"/help\" id=\"help\">Help</a></li>
    </ul>
"

/-- The search form of the search page, up to the terms. -/
def searchBoxOpen : String := "
    <form action=\"/biblesearch/search\" class=\"form-search navbar-search pull-right\" method=\"get\" id=\"form-search\">
        <div class=\"input-append\">
            <input autofocus id=\"search\" name=\"search\" class=\"search-query\" placeholder=\"Search Terms\" type=\"text\" value=\""

/-- The search form of the search page, after the terms. -/
def searchBoxClose : String := "\"/>
            <button type=\"submit\" class=\"btn\"><i class=\"icon-search\"></i></button>
        </div>
    </form>
"

/-- The content of the search page, up to the list of references. -/
def contentOpen : String := "
    <div class=\"container-fluid\">
        <div class=\"row-fluid\">
            <div id=\"verse_list\" class=\"span2\">"

/-- The content of the search page, between the references and the verses. -/
def contentVerses : String := "</div>
            <div id=\"verses\" class=\"span8\">"

/-- The content of the search page, between the verses and the definition panel. -/
def contentPanel : String := "</div>
            <div id=\"strongs_morph\" class=\"span2\">"

/-- The content of the search page, after the definition panel. -/
def contentClose : String := "</div>
        </div>
    </div>

    <!-- <footer class=\"footer well well-small navbar-fixed-bottom\">   -->
    <!--     <span class=\"pull-right\">&copy; 2013 Josiah Gordon</span> -->
    <!-- </footer>                                                     -->

    <script src=\"/assets/js/biblesearch.js\"></script>
"

/-- The search page. -/
def SearchPage.render (p : SearchPage) : String :=
  let head := "\n    " ++ titleLine "Search" ++ searchHeadLink
  let navbar := searchNavOpen ++ p.menus ++ searchNavClose
  let search := searchBoxOpen ++ p.terms ++ searchBoxClose
  let content := contentOpen ++ p.references ++ contentVerses ++ p.verses ++ contentPanel ++
    contentClose
  Layout.render { head := some head, brand := brand, navbar := navbar, search := search,
                  content := content }

/-- The navigation bar of the page about the site. -/
def aboutNavbar : String := "
    <ul class=\"nav\">
        <li><a href=\"/biblesearch\">Home</a></li>
        <li class=\"active\"><a href=\"/about\" id=\"about\">About</a></li>
        <li><a href=\"/help\" id=\"help\">Help</a></li>
    </ul>
"

/-- The content of the page about the site. -/
def aboutContent : String := "
    <div class=\"container-narrow\">
        <h1 class='pagination-centered'>Bible Search</h1>
        <p class=\"lead pagination-centered\">
            This is a web interface for a python Bible searching library.
            <br/>
            All the code I wrote is licensed under the GPLv3 license.
            <br/>
            <br/>
            The Bible, devotional, strongs and morphological modules are from the <a href=\"http://www.crosswire.org\">Crosswire Sword library</a>
            <br/>
            <br/>
            The interface uses the Twitter <a href=\"http://twitter.github.io/bootstrap/\">Bootstrap framework</a>
            <br/>
            Much of the javascript is the <a href=\"http://jquery.com/\">jQuery library</a>
            <br/>

            <pre>
            Copyright (C) 2013  Josiah Gordon

            The JavaScript code in this page is free software: you can
            redistribute it and/or modify it under the terms of the GNU
            General Public License (GNU GPL) as published by the Free Software
            Foundation, either version 3 of the License, or (at your option)
            any later version.  The code is distributed WITHOUT ANY WARRANTY;
            without even the implied warranty of MERCHANTABILITY or FITNESS
            FOR A PARTICULAR PURPOSE.  See the GNU GPL for more details.

            As additional permission under GNU GPL version 3 section 7, you
            may distribute non-source (e.g., minimized or compacted) forms of
            that code without the copy of the GNU GPL normally required by
            section 4, provided you include this license notice and a URL
            through which recipients can access the Corresponding Source.</pre>
        </p>
    </div>
"

/-- The page about the site. -/
def aboutPage : String :=
  Layout.render { title := "About", brand := brand, navbar := aboutNavbar, content := aboutContent }

/-- The navigation bar of the page that explains the search terms. -/
def helpNavbar : String := "
    <ul class=\"nav\">
        <li><a href=\"/biblesearch\">Home</a></li>
        <li><a href=\"/about\" id=\"about\">About</a></li>
        <li class=\"active\"><a href=\"/help\" id=\"help\">Help</a></li>
    </ul>
"

/-- The content of the page that explains the search terms. -/
def helpContent : String := "
    <div class=\"container-narrow\">
        <h1 class=\"pagination-centered\">Help</h1>
        <pre>
            search flags first column prefix (these should come first):
            ----------------------------------------------------------------
            ! = not (not in any of the results)
            + = all (in all the results)
            | = or  (in at least one result)
            ^ = exclusive or (only one in any of the results)

            not example: ('in the beginning' !was) results will have the
                         phrase 'in the beginning' but will not have the word
                         'was.'
            all example: ('in the beginning' +was) results may have the
                         phrase 'in the beginning' but all of them will have
                         the word 'was.' (note. this will find all verses with
                         the word 'was' in them if you want it to have the
                         phrase 'in the beginning' also you have to prefix it
                         with a '+' aswell)
            or example: ('in the beginning' |was) results will be all the
                        verses with the phrase 'in the beginning' and all the
                        verses with the word 'was.'
            exclusive or example: ('^in the beginning' '^was') results
                                  will either have the phrase 'in the
                                  beginning' or the word 'was', but not both.
                                  To be effective you must have at least two
                                  search terms prefixed with '^.'

            search flags second column prefix (these come after the first
            column flags):
            -------------------------------------------------------------------
            ~ = sloppy phrase
            & = regular expression search.

            sloppy phrase example: ('~in the beginning') results will
                                   have all the words 'in', 'the', and
                                   'beginning,' but they may have other words
                                   between them.
            regular expression example:
            ('&\\b[iI]n\\b\\s+\\b[tT][Hh][eE]\\b\\s+\\b[bB]eginning\\b')
            results will be all the verses with the phrase 'in the beginning.'
        </pre>
    </div>
"

/-- The page that explains the search terms. -/
def helpPage : String :=
  Layout.render { title := "Help", brand := brand, navbar := helpNavbar, content := helpContent }

/-- The content of an error page, up to the status. -/
def errorOpen : String := "
    <div class=\"container-fluid\">
        <div class=\"row-fluid\">
            <div class=\"span6 offset3\">
                <div class=\"alert alert-error\" style=\"margin-top: 20px;\">
                    <button type=\"button\" class=\"close\" data-dismiss=\"alert\">&times;</button>
                    <h2 style=\"text-align: center;\">"

/-- The content of an error page, between the status and the lines. -/
def errorLines : String := "</h2>
                    <div class=\"row-fluid\">
                        "

/-- The content of an error page, after the lines. -/
def errorClose : String := "
                    </div>
                </div>
            </div>
        </div>
    </div>
"

/-- The page of a failed request: its status and the lines that explain it. -/
def errorPage (status : String) (lines : List String) : String :=
  let rows := String.join (lines.map fun l =>
    "\n                            " ++ l ++ "\n                        ")
  Layout.render { content := errorOpen ++ status ++ errorLines ++ rows ++ errorClose }

/-- The list of references: their count (as the caller writes it), a link that looks them all
up, and a link for each. A link names references with `+` for every blank. -/
def verseList (refs : List String) (count : String) : String :=
  let rows := String.join (refs.map fun r =>
    "\n        <div class=\"row-fluid\">\n            <a class=\"verseref\" href=\"/biblesearch/lookup?verse_refs=" ++
    r.replace " " "+" ++ "\">" ++ r ++ "</a>\n        </div>\n    ")
  "<div class=\"row-fluid\">\n    <strong><a class=\"verse-count\" href=\"/biblesearch/lookup?verse_refs=" ++
    ("+".intercalate refs).replace " " "+" ++ "\">Found " ++ count ++
    " Verses</a></strong>\n</div>\n<div class=\"row-fluid\" id=\"verse-refs\">\n    " ++ rows ++ "\n</div>"

/-- A looked-up verse: whether it was asked for, its reference (empty when none is shown)
and its text. -/
structure VerseRow where
  target : Bool
  ref : String
  text : String
deriving Repr

/-- One looked-up verse. -/
def VerseRow.render (r : VerseRow) : String :=
  let href := "/biblesearch/lookup?verse_refs=" ++ r.ref.replace " " "+"
  let shown := !r.ref.isEmpty
  let opening := if shown then "\n        <div class=\"row-fluid\">\n    " else ""
  let body :=
    if r.target then
      "\n        " ++
      (if shown then "\n            <a class=\"verseref target-verse\" href=\"" ++ href ++
        "\">\n                " ++ r.ref ++ "\n            </a>\n             : \n        " else "") ++
      "\n        <span class=\"verse-text target-text\">" ++ r.text ++ "</span>\n    "
    else
      "\n        " ++
      (if shown then "\n            <a class=\"verseref\" href=\"" ++ href ++ "\">" ++ r.ref ++
        "</a>\n             : \n        " else "") ++
      "\n        <span class=\"verse-text regular-text\">" ++ r.text ++ "</span>\n    "
  let rule := if r.text.isEmpty then "\n        <hr/>\n    " else ""
  let closing := if shown then "\n        </div>\n    " else ""
  "\n    \n    " ++ opening ++ "\n    " ++ body ++ "\n    " ++ rule ++ "\n    " ++ closing ++ "\n"

/-- Looked-up verses, one after the other. -/
def verseRows (rows : List VerseRow) : String := String.join (rows.map VerseRow.render)

/-- The pieces of a definition panel, each in a row of its own. -/
def definitions (pieces : List String) : String :=
  String.join (pieces.map fun p => "\n    <div class=\"row-fluid\">\n        " ++ p ++ "\n    </div>\n")

/-- The page of each name the site knows, a file name with `.html` included, with all its
values empty. -/
def namedPage? (name : String) : Option String :=
  let base := if name.endsWith ".html" then (name.dropEnd 5).toString else name
  match base with
  | "index" => some (Layout.render {})
  | "about" => some aboutPage
  | "help" => some helpPage
  | "biblesearch" => some (SearchPage.render {})
  | "error" => some (errorPage "" [])
  | "search" => some (searchForm "")
  | "verselist" => some (verseList [] "")
  | "verses" => some ""
  | "strongs" => some ""
  | "verses_accordion" => some "<div class=\"accordion\" id=\"verse-accordion\">\n\n</div>"
  | "dropdown" => some (menu "" "" "" "")
  | "context_dropdown" => some (menu "" "" "" (contextForm ""))
  | "range_dropdown" => some (menu "" "" "" (rangeForm "" ""))
  | "lookup_dropdown" => some (menu "" "" "" (lookupForm ""))
  | "devotional_dropdown" => some (menu "" "" "" (devotionalForm ""))
  | _ => none

end Scripture.Web
