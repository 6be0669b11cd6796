import SearchRequest.Main
import SearchRequest.Build.SearchTexts
import SearchRequest.Build.Documents
import SearchRequest.Build.Places
import SearchRequest.Build.Times
import SearchRequest.Build.Values
import SearchRequest.Proofs.Number.Decimals
import SearchRequest.Proofs.Json.Numerals
import SearchRequest.Proofs.Json.Strings
import SearchRequest.Proofs.Json.Texts
import SearchRequest.Proofs.Document.Written
import SearchRequest.Proofs.Document.Reads
import SearchRequest.Proofs.Document.Records
import SearchRequest.Proofs.Json.Nesting
import SearchRequest.Proofs.Document.Yields
import SearchRequest.Proofs.Document.Names
import SearchRequest.Proofs.Document.Places
import SearchRequest.Proofs.Document.Bodies
import SearchRequest.Proofs.Document.Queries
import SearchRequest.Proofs.Document.Facets
import SearchRequest.Proofs.Document.Shapes
import SearchRequest.Proofs.Document.Clauses
import SearchRequest.Proofs.Document.Requests
import SearchRequest.Proofs.Build.Calls
import SearchRequest.Proofs.Build.Runs
import SearchRequest.Proofs.CommandLine.Loading
import SearchRequest.Proofs.Build.Scans
import SearchRequest.Proofs.Build.Places
import SearchRequest.Proofs.Build.Arrangement
import SearchRequest.Proofs.Build.Ranges
import SearchRequest.Proofs.Build.Exclusion
import SearchRequest.Proofs.Build.Modes
import SearchRequest.Proofs.Build.RangeReading
import SearchRequest.Proofs.Build.Identification
import SearchRequest.Proofs.Build.FacetReading
import SearchRequest.Proofs.Build.BucketReading
import SearchRequest.Proofs.Build.BucketRestoration
import SearchRequest.Proofs.Build.SnippetRestoration
import SearchRequest.Proofs.Build.Bindings
import SearchRequest.Proofs.Build.Tags
import SearchRequest.Proofs.Build.SortReading
import SearchRequest.Proofs.Build.Spellings
import SearchRequest.Proofs.Build.WhereReading
import SearchRequest.Proofs.Build.Pages
import SearchRequest.Proofs.Build.Declarations
import SearchRequest.Proofs.CommandLine.Paging
import SearchRequest.Proofs.Build.DefaultNames
import SearchRequest.Proofs.Build.Configurations
import SearchRequest.Proofs.Number.Denotation
import SearchRequest.Proofs.Build.PageNumbers
import SearchRequest.Proofs.Build.PlaceSpellings
import SearchRequest.Proofs.Build.ByExample
import SearchRequest.Proofs.Build.Emptiness
import SearchRequest.Number.Words
import SearchRequest.Proofs.Build.LibraryFiles
import SearchRequest.Proofs.Json.Grammar
import SearchRequest.Proofs.Number.Integers
import SearchRequest.Proofs.Build.Literals
