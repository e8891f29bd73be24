import CrawlFilter.Address
import CrawlFilter.CharSet
import CrawlFilter.Command.Options
import CrawlFilter.Command.Outcome
import CrawlFilter.Engine
import CrawlFilter.Event
import CrawlFilter.Main
import CrawlFilter.Pattern
import CrawlFilter.Regex.Ast
import CrawlFilter.Regex.Bracket
import CrawlFilter.Regex.ByteSequence
import CrawlFilter.Regex.Error
import CrawlFilter.Regex.Escape
import CrawlFilter.Regex.Expr
import CrawlFilter.Regex.Interpret
import CrawlFilter.Regex.Needle
import CrawlFilter.Regex.Parse
import CrawlFilter.Regex.Plan
import CrawlFilter.Regex.Search
import CrawlFilter.Regex.Size
import CrawlFilter.Regex.Token
import CrawlFilter.Report
import CrawlFilter.Resolver
import CrawlFilter.Rule
import CrawlFilter.RuleFile.Line
import CrawlFilter.RuleFile.Reader
import CrawlFilter.RuleFile.Writer
import CrawlFilter.RuleSource
import CrawlFilter.SuffixList
import CrawlFilter.Text
import CrawlFilter.Text.Json
import CrawlFilter.Text.Lines
import CrawlFilter.Text.Quoted
import CrawlFilter.Text.Utf8
import CrawlFilter.Unicode.Additions
import CrawlFilter.Unicode.Ages
import CrawlFilter.Unicode.BinaryProperties
import CrawlFilter.Unicode.Breaks
import CrawlFilter.Unicode.CaseOrbits
import CrawlFilter.Unicode.Categories
import CrawlFilter.Unicode.Property
import CrawlFilter.Unicode.ScriptExtensions
import CrawlFilter.Unicode.Scripts
import CrawlFilter.Url
import CrawlFilter.Proofs.Names
import CrawlFilter.Proofs.SuffixLookup
import CrawlFilter.Proofs.SuffixReading
import CrawlFilter.Proofs.Domain
import CrawlFilter.Proofs.Scans
import CrawlFilter.Proofs.HostGrammar
import CrawlFilter.Proofs.ScopeReach
import CrawlFilter.Proofs.FirstMatch
import CrawlFilter.Proofs.Trimming
import CrawlFilter.Proofs.Lines
import CrawlFilter.Proofs.Utf8
import CrawlFilter.Proofs.Outcomes
import CrawlFilter.Proofs.Reading
import CrawlFilter.Proofs.ByteStreams
import CrawlFilter.Proofs.RoundTrip
import CrawlFilter.Proofs.Compiling
import CrawlFilter.Proofs.SectionEdit
import CrawlFilter.Proofs.Spelling
import CrawlFilter.Proofs.CommonSuffixes
import CrawlFilter.Proofs.Subdomains
import CrawlFilter.Proofs.NamelessHosts
import CrawlFilter.Proofs.ScopeInForce
import CrawlFilter.Proofs.LineEnds
import CrawlFilter.Proofs.Faults
import CrawlFilter.Proofs.Loading
import CrawlFilter.Proofs.ReportLines
import CrawlFilter.Proofs.JsonGrammar
import CrawlFilter.Proofs.ReportStreams
import CrawlFilter.Proofs.Search
import CrawlFilter.Proofs.Readers
import CrawlFilter.Proofs.Tokens
import CrawlFilter.Proofs.PatternReading
import CrawlFilter.Proofs.Anchoring
import CrawlFilter.Proofs.Composition
import CrawlFilter.Proofs.MixedEnds
import CrawlFilter.Proofs.ShortestForm
import CrawlFilter.Proofs.RuleEdits
import CrawlFilter.Proofs.FixedDomains
import CrawlFilter.Proofs.SuffixLines
import CrawlFilter.Proofs.SuffixNames
import CrawlFilter.Proofs.DecisionTrace
import CrawlFilter.Proofs.Access
import CrawlFilter.Proofs.Bytewise
import CrawlFilter.Proofs.Places
import CrawlFilter.Proofs.BytewiseHosts
import CrawlFilter.Proofs.BytewiseDomains
import CrawlFilter.Proofs.BytewiseDecisions
