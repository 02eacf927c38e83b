import Scripture.Shell.Command

/-!
# What `help` prints

Each command has a description, printed line by line by `help` with its name; the search
types share the description of searching. `help` alone lists the commands that have one,
which are all of them, in columns under a heading.
-/

namespace Scripture.Shell

/-- The description of the search types and their examples. -/
def searchDoc : String := " Search the Bible.

        Search types are:

            mixed               -   A search made up of a mix of most of the
                                    other search types.  Put an '!' in front of
                                    words/phrases that you don't want in any of
                                    the results.
            mixed_phrase        -   A phrase search that can include words,
                                    Strong's, and Morphology.  Can be used in
                                    the mixed search by including words in
                                    quotes.
            multiword           -   Search for verses containing each word at
                                    least once.  Use in the mixed search by
                                    putting a '+' in front of any word/phrase
                                    you want to be in all the results.
            anyword             -   Search for verses containing one or more of
                                    any of the words.  Use in the mixed search
                                    by putting a '|' in front of any
                                    word/phrase you want in any but not
                                    necessarily all the results.
            eitheror            -   Search for verses containing one and only
                                    one of the words.  In the mixed search put
                                    a '^' in front of two or more words/phrases
                                    to make the results contain one and only
                                    one of the marked search terms.
            combined            -   Search using a phrase like ('in' AND ('the'
                                    OR 'it')) finding verses that have both
                                    'in' and 'the' or both 'in' and 'it'.
                                    To do the same thing with the mixed search
                                    use a phrase like this:
                                    (mixed '+in' '^the' '^it').
            partial_word        -   Search for partial words (e.g. a search for
                                    'begin*' would find all the words starting
                                    with 'begin'.)  Use in the mixed search to
                                    make partial words in a phrase.
            ordered_multiword   -   Search for words in order, but not
                                    necessarily in a phrase.  In the mixed
                                    search put a '~' in front of any quoted
                                    group of words you want to be in that
                                    order, but you don't mind if they have
                                    other words between them.
            regex               -   A regular expression search (slow).


        Examples:

            mixed               -   (mixed '+~in the beg*' '!was') finds any
                                    verse that has the words 'in', 'the', and
                                    any word starting with 'beg', in order, but
                                    not the word 'was.'
            mixed_phrase        -   (mixed_phrase 'h011121 of gomer') finds any
                                    verse with that phrase.

            mixed search flags first column prefix (these should come first):
            ----------------------------------------------------------------
            ! = not (not in any of the results)
            + = all (in all the results)
            | = or  (in at least one result)
            ^ = exclusive or (only one in any of the results)

            not example: (mixed 'in the beginning' !was) results will have the
                         phrase 'in the beginning' but will not have the word
                         'was.'
            all example: (mixed 'in the beginning' +was) results may have the
                         phrase 'in the beginning' but all of them will have
                         the word 'was.' (note. this will find all verses with
                         the word 'was' in them if you want it to have the
                         phrase 'in the beginning' also you have to prefix it
                         with a '+' aswell)
            or example: (mixed 'in the beginning' |was) results will be all the
                        verses with the phrase 'in the beginning' and all the
                        verses with the word 'was.'  This is the default way
                        the mixed search operates, so the '|' can be excluded
                        in this case.
            exclusive or example: (mixed '^in the beginning' '^was') results
                                  will either have the phrase 'in the
                                  beginning' or the word 'was', but not both.
                                  To be effective you must have at least two
                                  search terms prefixed with '^.'

            mixed search flags second column prefix (these come after the first
            column flags):
            -------------------------------------------------------------------
            ~ = sloppy phrase or ordered multiword
            & = regular expression search.

            sloppy phrase example: (mixed '~in the beginning') results will
                                   have all the words 'in', 'the', and
                                   'beginning,' but they may have other words
                                   between them.
            regular expression example:
            (mixed '&\\b[iI]n\\b\\s+\\b[tT[Hh][eE]\\b\\s+\\b[bB]eginning\\b')
            results will be all the verses with the phrase 'in the beginning.'

        "

/-- The description of the concordance. -/
def concordanceDoc : String := " Perform a concordance like search.

        "

/-- The description of printing the terms. -/
def termsDoc : String := " Show relevent parts of the GPL.

        "

/-- The description of the end of input. -/
def endOfInputDoc : String := " Exit when eof is recieved.

        "

/-- The description of quitting. -/
def quitDoc : String := " Exit.

        "

/-- The description of help. -/
def helpDoc : String := " Print the help.

        "

/-- The description of the greeting. -/
def introDoc : String := " Re-print the intro screen.

        "

/-- The description of listing the verses found, with its switches. -/
def showResultsDoc : String := " Output the results.

        Print out all the verses that were either found by searching or by
        lookup.

        Extra arguments:
            +/-strongs      -   Enable/disable strongs in the output.
            +/-morph        -   Enable/disable morphology in the output
            +/-notes        -   Enable/disable foot notes in the output.
            +/-added        -   Enable/disable added text in the output.
            +/-one_line     -   Enable/disable one line output.
            anything else   -   If the output is from looking up verses with
                                the lookup command, then any other words or
                                quoted phrases given as arguments will be
                                highlighted in the output.

        "

/-- The description of looking verses up, with an example. -/
def lookupDoc : String := " Lookup the verses by references.

        Example:    lookup gen1:3-5;mal3    (Look up Genesis chapter 1 verses
                                            3-5 and Malachi chapter 3.)

        "

/-- The description of looking Strong's numbers up. -/
def numbersDoc : String := " Lookup one or more Strong's Numbers.

        strongs number,number,number....

        "

/-- The description of looking tags up. -/
def tagsDoc : String := " Lookup one or more Morphological Tags.

        morph tag,tag,tag....

        "

/-- The description of the general dictionary. -/
def dictionaryDoc : String := " Lookup one or more words in Websters Dictionary.

        websters word,word,word...

        "

/-- The description of the dictionary of the Bible's words. -/
def wordBookDoc : String := " Lookup one or more words in the KJV Dictionary.

        kjvd word,word,word...

        "

/-- The description of the devotional and its dates. -/
def devotionalDoc : String := " Display a daily devotional from 'Bagsters Daily light.'

        daily date/today

        Dates are given in the format Month.Day.  The word 'today' is an alias
        to today's date.  The default is to lookup today's devotional.

        "

/-- The description of the settings. -/
def setDoc : String := " Set settings.

        Run without arguments to see the current settings.

        set show_strongs = True/False   -   Enable strongs numbers in the
                                            output.
        set show_morph = True/False     -   Enable morphology in the output.
        set context = <number>          -   Show <number> verses of context.
        set case_sensitive = True/False -   Set the search to case sensitive.
        set range = <range>             -   Confine search/output to <range>.
        set one_line = True/False       -   Don't break output at verses.
        set added = True/False          -   Show/search added text.
        set show_notes = True/False     -   Show foot-notes in output.
        set search_type = <type>        -   Use <type> for searching.
        set search_strongs = True/False -   Search Strong's numbers
                                            (deprecated).
        set search_morph = True/False   -   Search Morphological Tags
                                            (deprecated).

        "

/-- The description of system commands. -/
def systemDoc : String := " Execute shell commands.

        "

/-- The description of showing how an argument is split. -/
def testDoc : String := " A Test.

        "

/-- The description of a command. -/
def Command.doc : Command → String
  | .search => searchDoc
  | .concordance => concordanceDoc
  | .terms => termsDoc
  | .endOfInput => endOfInputDoc
  | .quit => quitDoc
  | .help => helpDoc
  | .intro => introDoc
  | .showResults => showResultsDoc
  | .lookup => lookupDoc
  | .numbers => numbersDoc
  | .tags => tagsDoc
  | .dictionary => dictionaryDoc
  | .wordBook => wordBookDoc
  | .devotional => devotionalDoc
  | .set => setDoc
  | .system => systemDoc
  | .test => testDoc

/-- The heading over the list of commands. -/
def helpHeading : String := "Documented commands (type help <topic>):"

/-- The width the list of commands may take. -/
def helpWidth : Nat := 79

/-- What `help` alone prints: an empty line, the heading underlined with `=`, the names of
the commands in columns, and an empty line. -/
def helpListing : String :=
  let rule := String.ofList (List.replicate helpHeading.length '=')
  "\n" ++ helpHeading ++ "\n" ++ rule ++ "\n" ++
    String.join ((columns (commandNames.map (·.1)) helpWidth).map (· ++ "\n")) ++ "\n"

end Scripture.Shell
