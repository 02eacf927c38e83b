import Scripture.Calendar
import Scripture.Canon.Books
import Scripture.Canon.Names
import Scripture.Canon.Normalize
import Scripture.Environment
import Scripture.Failure
import Scripture.Json.Basic
import Scripture.Json.Members
import Scripture.Json.Read
import Scripture.Json.Write
import Scripture.Main
import Scripture.Markup.Render
import Scripture.Markup.Tree
import Scripture.Markup.Xml
import Scripture.Pattern.Fold
import Scripture.Pattern.Match
import Scripture.Pattern.Parse
import Scripture.Pattern.Replace
import Scripture.Pattern.Syntax
import Scripture.Proofs.Carry
import Scripture.Proofs.CombinedForm
import Scripture.Proofs.CombinedSearch
import Scripture.Proofs.ContextWindow
import Scripture.Proofs.Ensures
import Scripture.Proofs.GatheredFacts
import Scripture.Proofs.GroupTokens
import Scripture.Proofs.ListGrammar
import Scripture.Proofs.MatchSemantics
import Scripture.Proofs.MixedMarks
import Scripture.Proofs.NodeLanguages
import Scripture.Proofs.OddWords
import Scripture.Proofs.Paragraph
import Scripture.Proofs.PartLanguages
import Scripture.Proofs.PatternSteps
import Scripture.Proofs.PhraseCandidates
import Scripture.Proofs.PhraseMatching
import Scripture.Proofs.PhrasePattern
import Scripture.Proofs.RangeIndex
import Scripture.Proofs.RangeSlice
import Scripture.Proofs.RangeWalk
import Scripture.Proofs.ReadingOrder
import Scripture.Proofs.ReadingPatterns
import Scripture.Proofs.ReferenceText
import Scripture.Proofs.Replacing
import Scripture.Proofs.SearchPatterns
import Scripture.Proofs.SearchRange
import Scripture.Proofs.SitePatterns
import Scripture.Proofs.SpelledReference
import Scripture.Proofs.Tables
import Scripture.Proofs.TermCharacters
import Scripture.Proofs.VerseArithmetic
import Scripture.Proofs.VerseNaming
import Scripture.Proofs.WordIntersection
import Scripture.Proofs.WrittenList
import Scripture.Proofs.WrittenReference
import Scripture.Reference.Range
import Scripture.Reference.RangeList
import Scripture.Reference.SortKey
import Scripture.Reference.Verse
import Scripture.Reference.Walk
import Scripture.Search.Combined
import Scripture.Search.Engine
import Scripture.Search.Highlight
import Scripture.Search.Listing
import Scripture.Search.Report
import Scripture.Search.Terms
import Scripture.Search.VerseText
import Scripture.Shell.Command
import Scripture.Shell.Help
import Scripture.Shell.Notice
import Scripture.Shell.Session
import Scripture.Shell.Setting
import Scripture.Store.Convert
import Scripture.Store.File
import Scripture.Store.Hashed
import Scripture.Store.Index
import Scripture.Store.Lookup
import Scripture.Store.Table
import Scripture.Text.Case
import Scripture.Text.Classes
import Scripture.Text.Format
import Scripture.Text.Quote
import Scripture.Text.Similarity
import Scripture.Text.Wrap
import Scripture.Web.Pages
import Scripture.Web.Passages
import Scripture.Web.Request
import Scripture.Web.Site
import Scripture.Web.Tags
