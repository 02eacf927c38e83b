import Scripture.Pattern.Replace
import Scripture.Text.Case

/-!
# From search terms to patterns

A search is typed as words, Strong's numbers (`H430`, `<G2424>`), morphological tags
(`(N-NSM)`, `{V-AAI-3S}`) and `*` for any run of word characters. `termsPattern` turns
such terms into one pattern that finds them in verse text: each word becomes a captured
group between word bounds, Strong's numbers keep their angle brackets and tags their
braces, in upper case. When there are several terms, the pattern lets the terms be
separated by punctuation, and by whatever else the search does not name itself: other
Strong's numbers, other tags and, for a sloppy search or one with numbers or tags, other
words. The separator is lazy, so the terms are found as close together as they are.

`highlightPatterns` builds, for each search, the pattern that marks its terms in text
that may already carry colour codes or markup.
-/

namespace Scripture.Search

open Pattern

/-- Characters that are neither word characters nor the marks of terms (`*`, angle
brackets, braces, parentheses and `-`). -/
def notTermChar : Regex := fixed "[^\\w\\*<>\\\x7b\\\x7d\\(\\)-]"

/-- A run of blanks. -/
def blankRun : Regex := fixed "\\s+"

/-- A Strong's number, with or without its angle brackets. -/
def strongsNumber : Regex := fixed "[<]?(\\b[GH]\\d+\\b)[>]?" { ignoreCase := true }

/-- A morphological tag in parentheses or braces. -/
def morphTag : Regex := fixed "[\\(\\\x7b](\\b[\\w-]+\\b)[\\\x7d\\)]" { ignoreCase := true }

/-- A word of a search: word characters, backslashes and hyphens. -/
def searchWord : Regex := fixed "\\b([\\w\\\\-]+)\\b"

/-- Text with every character that cannot be part of a term replaced by a blank, runs of
blanks made single, and the ends trimmed. -/
def cleanText (text : String) : String :=
  let spaced := (notTermChar.replaceBy text fun _ => " ").1
  Text.trimBlank (blankRun.replaceBy spaced fun _ => " ").1

/-- Search terms with Strong's numbers in upper case between angle brackets and
morphological tags in upper case between braces. -/
def markTerms (terms : String) : String :=
  let numbered := (strongsNumber.replaceBy terms fun m => "<" ++ Text.upper (m.group 1) ++ ">").1
  (morphTag.replaceBy numbered fun m => "\x7b" ++ Text.upper (m.group 1) ++ "\x7d").1

/-- Compiles a pattern, or the empty pattern, which matches everywhere, when it cannot be
read. -/
def compileOrEmpty (src : String) (flags : Flags) : Regex :=
  match Regex.read src flags with
  | .ok r => r
  | .error _ => fixed ""

/-- What may stand between the terms of a phrase: punctuation, then the given extra
alternatives, then Strong's numbers, tags and words as the search allows. -/
def separator (extraSpace : String) (skipNumbers skipTags skipWords : Bool) : String :=
  let punct := "[\\s,\\?\\!\\.;:\\\\/_\\(\\)\\[\\]\"\\'-]"
  let alts := "(?:" ++ punct ++ extraSpace ++
    (if skipNumbers then "|<[^>]*>" else "") ++
    (if skipTags then "|\\\x7b[^\\\x7d]*\\\x7d" else "") ++
    (if skipWords then "|\\b\\w+\\b" else "")
  alts ++ ")*?"

/-- The pattern that finds search terms in verse text. `wordBound` is a replacement
template put on both sides of each word; `extraSpace` adds alternatives to what may
separate the terms of a phrase. With `isRegex` the terms are a pattern already. A pattern
that cannot be read gives the empty pattern; a word bound that is not a valid template
fails. -/
def termsPattern (terms : String) (caseSensitive : Bool) (wordBound : String := "\\\\b")
    (extraSpace : String := "") (sloppy : Bool := false) (isRegex : Bool := false) :
    Except Failure Regex := do
  let flags : Flags := { ignoreCase := !caseSensitive }
  if isRegex then return compileOrEmpty terms flags
  let starred := Text.replaceAll terms "*" "_star_"
  let cleaned := " ".intercalate (Text.fields (notTermChar.replaceBy starred fun _ => " ").1)
  let phrase := cleaned.any Text.isBlank
  let (tagged, tagCount) := morphTag.replaceBy cleaned fun m =>
    "\\\x7b" ++ Text.upper (escape (m.group 1)) ++ "\\\x7d"
  let (numbered, numberCount) := strongsNumber.replaceBy tagged fun m =>
    "<" ++ Text.upper (m.group 1) ++ ">"
  let (worded, wordCount) ← searchWord.replace numbered ("(?:" ++ wordBound ++ "(\\1)" ++ wordBound ++ ")")
  let body := Text.replaceAll worded "_star_" "\\w*"
  let wordsFound := numberCount + tagCount < wordCount
  let space :=
    if phrase then
      separator extraSpace (numberCount == 0 || sloppy) (tagCount == 0 || sloppy)
        (!wordsFound || tagCount != 0 || numberCount != 0 || sloppy)
    else ""
  pure (compileOrEmpty (space.intercalate (Text.fields body)) flags)

/-- The colour code that terminal output puts around highlighted text, as the highlighting
patterns match it. -/
def terminalColour : String := "\x1b\\[[\\\\d+;]*m"

/-- The patterns that mark each search in text whose words may already be wrapped in colour
codes matched by `colourTag` or followed by `extraTag`. A search with `*` and no blank is a
partial word, marked wherever it stands between bounds; a search starting with `&` is a
pattern as it is; a search with `~` is sloppy. -/
def highlightPatterns (searches : List String) (caseSensitive : Bool) (sloppy : Bool := false)
    (colourTag : String := terminalColour) (extraTag : String := "\x1b") :
    Except Failure (List Regex) :=
  searches.mapM fun search => do
    let item := Text.trimBlank search
    let partialWord := item.contains '*' && !item.contains ' '
    let isRegex := partialWord || item.startsWith "&"
    let wordBound := "(?:" ++ colourTag ++ "|\\b)+"
    let item :=
      if partialWord && !item.startsWith "&" then
        let bare := match item.toList with
          | c :: rest => if "!^+|".contains c then String.ofList rest else item
          | [] => item
        wordBound ++ "(" ++ bare.replace "*" "\\w*" ++ ")" ++ wordBound
      else item
    let item := if item.startsWith "&" then String.ofList (item.toList.drop 1) else item
    termsPattern item caseSensitive ("(?:" ++ colourTag ++ "|\\\\b)+")
      ("|" ++ colourTag ++ "|" ++ extraTag) (sloppy || item.contains '~') isRegex

end Scripture.Search
