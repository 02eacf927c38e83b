import Scripture.Search.Terms

/-!
# Highlighting found terms

Each highlighting pattern is applied to the verse text in turn. Within each match, every
distinct word that the match captured is wrapped by the highlight template: the word,
together with the colour codes and word bounds around it, is replaced by the template,
whose `\1` is that whole span. Words are taken in the order in which the match captured
them.

The word patterns are written in verbose mode, so blanks and `#` in a colour tag are
layout, not text. A word pattern or template that cannot be used leaves the text as it
is.
-/

namespace Scripture.Search

open Pattern

/-- The colour code that terminal output uses, as the highlighter matches it. -/
def colourCode : String := "\x1b\\[[\\d+;]*m"

/-- The template that shows a highlighted span in reverse video on a terminal. -/
def reverseVideo : String := "\x1b[7m\\1\x1b[m"

/-- The two forms of the word pattern: the current one, and an older one that will not
mark a word followed by a Strong's or morphology attribute of markup. -/
inductive WordForm where
  | current
  | older
deriving DecidableEq, Repr

/-- The verbose pattern that finds `word` with the colour codes and word bounds around it. -/
def wordPattern (form : WordForm) (colourTag word : String) : String :=
  let pad := "\n" ++ String.ofList (List.replicate 28 ' ')
  let bound := "(?:" ++ colourTag ++ "|\\b)+"
  let guard := match form with
    | .current => ""
    | .older => "(?!sMarkup|Morph|:(TH|H|G)[0-9]+)"
  pad ++ "(" ++ pad ++ bound ++ pad ++ escape word ++ guard ++ pad ++ bound ++ pad ++ ")" ++ pad

/-- The distinct captured words of a match that are not empty, in order. -/
def capturedWords (m : Match) (groups : Nat) : List String :=
  ((m.groupList groups).filterMap fun g => g.filter (!·.isEmpty)).eraseDups

/-- Wraps one word of a match's text by the template. -/
def markWord (form : WordForm) (template colourTag : String) (text word : String) : String :=
  match compile (wordPattern form colourTag word) { verbose := true } with
  | .error _ => text
  | .ok r =>
    match r.replace text template with
    | .ok (s, _) => s
    | .error _ => text

/-- Highlights the words that the patterns find in a verse text, after trimming its ends. -/
def highlight (text : String) (patterns : List Regex) (template : String)
    (colourTag : String := colourCode) (form : WordForm := .current) : String :=
  patterns.foldl (fun t r =>
    (r.replaceBy t fun m => (capturedWords m r.groups).foldl (markWord form template colourTag) (m.group 0)).1)
    (Text.trimBlank text)

end Scripture.Search
