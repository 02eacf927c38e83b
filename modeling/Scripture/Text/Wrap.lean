import Scripture.Pattern.Replace

/-!
# Wrapping text into lines

Text is wrapped into lines of at most `width` characters the way terminals show verses and
dictionary entries.

* Tabs are expanded to the next multiple of eight columns, and every ASCII blank (tab, line
  feed, vertical tab, form feed, carriage return, space) becomes a space.
* The text is cut into chunks: runs of spaces, and words. When breaking on hyphens, a word
  also ends after a hyphen between letters (`well-known` gives `well-` and `known`) and
  before a dash of two or more hyphens that follows a word character.
* Lines are filled greedily with whole chunks. A line drops its last chunk when that is
  blank, and a line after the first drops a blank chunk it would start with. A chunk
  longer than a whole line is cut at the room left, or, when breaking on hyphens, just
  after the last hyphen within that room that has something other than hyphens before it.
-/

namespace Scripture.Text

open Pattern

/-- The characters wrapping treats as blanks. -/
def isWrapBlank (c : Char) : Bool :=
  c == '\t' || c == '\n' || c == '\x0b' || c == '\x0c' || c == '\r' || c == ' '

/-- Tabs expanded to the next multiple of `size` columns; the column count starts again
after a line feed or a carriage return. -/
def expandTabs (s : String) (size : Nat := 8) : String :=
  go s.toList 0 []
where
  /-- Reads on at column `col` with the characters written so far reversed in `acc`. -/
  go : List Char → Nat → List Char → String
    | [], _, acc => String.ofList acc.reverse
    | c :: cs, col, acc =>
      if c == '\t' then
        let n := if size == 0 then 0 else size - col % size
        go cs (col + n) (List.replicate n ' ' ++ acc)
      else if c == '\n' || c == '\r' then go cs 0 (c :: acc)
      else go cs (col + 1) (c :: acc)

/-- The chunks of text when breaking on hyphens: runs of blanks, dashes between words, and
words, a word ending at a blank, at the end, after a hyphen between letters, or before a
dash. -/
def wordChunk : Regex := fixed
  "\n        ( # any whitespace\n          [\\\t\\\n\\\x0b\\\x0c\\\r\\ ]+\n        | # em-dash between words\n          (?<=[\\w!\"\\'&.,?]) -\x7b2,\x7d (?=\\w)\n        | # word, possibly hyphenated\n          [^\\\t\\\n\\\x0b\\\x0c\\\r\\ ]+? (?:\n            # hyphenated word\n              -(?: (?<=[^\\d\\W]\x7b2\x7d-) | (?<=[^\\d\\W]-[^\\d\\W]-))\n              (?= [^\\d\\W] -? [^\\d\\W])\n            | # end of word\n              (?=[\\\t\\\n\\\x0b\\\x0c\\\r\\ ]|\\Z)\n            | # em-dash\n              (?<=[\\w!\"\\'&.,?]) (?=-\x7b2,\x7d\\w)\n            )\n        )"
  { verbose := true }

/-- Runs of blanks, which separate the chunks when not breaking on hyphens. -/
def blankChunk : Regex := fixed "([\\\t\\\n\\\x0b\\\x0c\\\r\\ ]+)"

/-- A text cut at the matches of a pattern: the text between the matches and each match,
without empty pieces. -/
def piecesAt (r : Regex) (s : String) : List String :=
  let cs := s.toList.toArray
  let (acc, last) := (r.allMatches s).foldl (fun (acc, last) m =>
    (acc ++ [String.ofList (cs.extract last m.start).toList, m.group 1], m.stop)) ([], 0)
  (acc ++ [String.ofList (cs.extract last cs.size).toList]).filter (!·.isEmpty)

/-- How text is wrapped. -/
structure WrapStyle where
  width : Nat := 80
  breakOnHyphens : Bool := true
deriving Repr

/-- Whether a chunk is only blanks. -/
def isBlankChunk (s : String) : Bool := (trimBlank s).isEmpty

/-- The chunks of a text. -/
def WrapStyle.chunks (w : WrapStyle) (text : String) : List String :=
  let plain := String.map (fun c => if isWrapBlank c then ' ' else c) (expandTabs text)
  piecesAt (if w.breakOnHyphens then wordChunk else blankChunk) plain

/-- Where a chunk too long for a line is cut, given the room left on the line. -/
def WrapStyle.cutAt (w : WrapStyle) (chunk : String) (room : Nat) : Nat :=
  if w.breakOnHyphens && chunk.length > room then
    let before := chunk.toList.take room
    match (before.zipIdx.filter (·.1 == '-')).getLast? with
    | some (_, h) => if h > 0 && (before.take h).any (· != '-') then h + 1 else room
    | none => room
  else room

/-- Takes whole chunks onto a line while they fit. -/
def fitLine (width : Nat) : List String → Nat → List String → List String × List String
  | line, used, c :: cs => if used + c.length ≤ width then fitLine width (line ++ [c]) (used + c.length) cs
    else (line, c :: cs)
  | line, _, [] => (line, [])

/-- Fills lines from the chunks; `fuel` bounds the lines. -/
def WrapStyle.fill (w : WrapStyle) : Nat → List String → List String → List String
  | 0, _, lines => lines
  | _, [], lines => lines
  | fuel + 1, c :: cs, lines =>
    let chunks := if !lines.isEmpty && isBlankChunk c then cs else c :: cs
    let (line, rest) := fitLine w.width [] 0 chunks
    let (line, rest) := match rest with
      | big :: more =>
        if big.length > w.width then
          let used := (line.map String.length).sum
          let room := if w.width < 1 then 1 else w.width - used
          let cut := w.cutAt big room
          (line ++ [String.ofList (big.toList.take cut)], String.ofList (big.toList.drop cut) :: more)
        else (line, rest)
      | [] => (line, rest)
    let line := match line.getLast? with
      | some l => if isBlankChunk l then line.dropLast else line
      | none => line
    w.fill fuel rest (if line.isEmpty then lines else lines ++ [String.join line])

/-- The lines of a wrapped text. Every round takes a chunk or a character of one, so the
number of chunks and characters is enough rounds. -/
def WrapStyle.lines (w : WrapStyle) (text : String) : List String :=
  let cs := w.chunks text
  w.fill ((cs.map String.length).foldl (· + ·) 0 + cs.length + 1) cs []

/-- A text wrapped into lines joined by line feeds. -/
def wrap (text : String) (w : WrapStyle := {}) : String := "\n".intercalate (w.lines text)

end Scripture.Text
