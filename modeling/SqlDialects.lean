import SqlDialects.Session
import SqlDialects.Statement.Calls
import SqlDialects.Statement.Same
import SqlDialects.Proofs.Draft.Pieces
import SqlDialects.Proofs.Draft.Writing
import SqlDialects.Proofs.Draft.Contents
import SqlDialects.Proofs.Agreement
import SqlDialects.Proofs.Draft.Replacement
import SqlDialects.Proofs.Noninterference
import SqlDialects.Proofs.Draft.Assembly
import SqlDialects.Proofs.Draft.Clauses
import SqlDialects.Proofs.Bindable
import SqlDialects.Proofs.Arguments
import SqlDialects.Proofs.Fragments
import SqlDialects.Proofs.Draft.Dealing
import SqlDialects.Proofs.Draft.Removal
import SqlDialects.Proofs.Draft.Kinds
import SqlDialects.Proofs.Queries
import SqlDialects.Proofs.Draft.Orders
import SqlDialects.Proofs.FragmentOrder
import SqlDialects.Proofs.Subterms
import SqlDialects.Proofs.Draft.Written
import SqlDialects.Proofs.Written
import SqlDialects.Proofs.Features
import SqlDialects.Proofs.Formula
import SqlDialects.Proofs.Grammar
import SqlDialects.Proofs.Unambiguity
import SqlDialects.Proofs.Grouping
import SqlDialects.Proofs.RowLimit
import SqlDialects.Proofs.Related
import SqlDialects.Proofs.Capabilities
import SqlDialects.Proofs.Completeness
import SqlDialects.Proofs.Equality
import SqlDialects.Proofs.EqualStatements
import SqlDialects.Proofs.EqualCompilation
import SqlDialects.Proofs.Documents
import SqlDialects.Proofs.CallOrder
import SqlDialects.Proofs.DialectName
import SqlDialects.Proofs.Draft.Inside
import SqlDialects.Proofs.Inside
import SqlDialects.Proofs.Nesting
import SqlDialects.Proofs.Names
import SqlDialects.Proofs.QualifiedNames
import SqlDialects.Proofs.Registrations
import SqlDialects.Proofs.Tables
import SqlDialects.Proofs.Literals
import SqlDialects.Proofs.Surface
import SqlDialects.Proofs.Wording
import SqlDialects.Proofs.Draft.Closed
import SqlDialects.Proofs.Verbatim
import SqlDialects.Proofs.Draft.Shown
import SqlDialects.Proofs.Conjunctions
import SqlDialects.Proofs.Places
import SqlDialects.Proofs.Draft.Places
import SqlDialects.Proofs.EmptyConditions
import SqlDialects.Proofs.Filters
import SqlDialects.Proofs.AlignedRecords
import SqlDialects.Proofs.Upserts
import SqlDialects.Proofs.Draft.Listing
import SqlDialects.Proofs.ValueTables
import SqlDialects.Proofs.RecordColumns
import SqlDialects.Proofs.Membership
import SqlDialects.Proofs.ClauseLists
import SqlDialects.Proofs.Draft.Mending
import SqlDialects.Proofs.EmptyLists
import SqlDialects.Proofs.RowLocks
import SqlDialects.Proofs.FilterOrder
import SqlDialects.Proofs.RawText
import SqlDialects.Proofs.Draft.Reaching
import SqlDialects.Proofs.RepeatedColumns
import SqlDialects.Proofs.Timestamps
import SqlDialects.Proofs.DottedNames
