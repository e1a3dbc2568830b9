import DocQuery.Document.Edit
import DocQuery.Document.Walk
import DocQuery.Query.Select
import DocQuery.Selector.Printer
import DocQuery.Selector.Reporting
import DocQuery.Selector.Cursor
import DocQuery.Selector.Descent
import DocQuery.Proofs.Grammar
import DocQuery.Proofs.Grammar.Blank
import DocQuery.Proofs.Grammar.Words
import DocQuery.Proofs.Grammar.Bracketed
import DocQuery.Proofs.Grammar.Soundness
import DocQuery.Proofs.Grammar.Completeness
import DocQuery.Proofs.Grammar.Exchange
import DocQuery.Proofs.Errors.Stops
import DocQuery.Proofs.Errors.Truth
import DocQuery.Proofs.Errors.Completion
import DocQuery.Proofs.Errors.Local
import DocQuery.Proofs.Errors.Lookahead
import DocQuery.Proofs.Canonical
import DocQuery.Proofs.RoundTrip
import DocQuery.Proofs.Forest
import DocQuery.Proofs.Relatives
import DocQuery.Proofs.Descendants
import DocQuery.Proofs.Chain
import DocQuery.Proofs.Places
import DocQuery.Proofs.Levels
import DocQuery.Proofs.Queries
import DocQuery.Proofs.Embedding
import DocQuery.Proofs.Growth
import DocQuery.Proofs.Renaming
import DocQuery.Proofs.Subtree
import DocQuery.Proofs.DocumentOrder
import DocQuery.Proofs.TextContent
import DocQuery.Proofs.Algebra
import DocQuery.Proofs.Closed
import DocQuery.Proofs.Composition
import DocQuery.Proofs.Spacing
import DocQuery.Proofs.Attributes
import DocQuery.Proofs.Classes
import DocQuery.Proofs.TagNames
import DocQuery.Proofs.Warnings
import DocQuery.Proofs.Reporting
import DocQuery.Proofs.Messages
import DocQuery.Proofs.Scan.Operations
import DocQuery.Proofs.Scan.Spacing
import DocQuery.Proofs.Scan.Words
import DocQuery.Proofs.Scan.Limits
import DocQuery.Proofs.Scan.Parts
import DocQuery.Proofs.Scan.Descent
