import MarkerInjection.Compilation
import MarkerInjection.Config.Document
import MarkerInjection.Config.Shared
import MarkerInjection.Proofs.Additions
import MarkerInjection.Proofs.ArgumentLists
import MarkerInjection.Proofs.Batches
import MarkerInjection.Proofs.Bookkeeping
import MarkerInjection.Proofs.ByteOrder
import MarkerInjection.Proofs.Calls
import MarkerInjection.Proofs.Capabilities
import MarkerInjection.Proofs.CarryingExpressions
import MarkerInjection.Proofs.CarryingItems
import MarkerInjection.Proofs.CarryingRules
import MarkerInjection.Proofs.Culprits
import MarkerInjection.Proofs.DerivedNames
import MarkerInjection.Proofs.DiagnosticTexts
import MarkerInjection.Proofs.Documents
import MarkerInjection.Proofs.DomainClasses
import MarkerInjection.Proofs.DomainFields
import MarkerInjection.Proofs.Expansions
import MarkerInjection.Proofs.FailureScopes
import MarkerInjection.Proofs.FirstFailure
import MarkerInjection.Proofs.Forgetful
import MarkerInjection.Proofs.FreshStarts
import MarkerInjection.Proofs.GeneratedTexts
import MarkerInjection.Proofs.Interleavings
import MarkerInjection.Proofs.ListedTypes
import MarkerInjection.Proofs.LogLines
import MarkerInjection.Proofs.Notations
import MarkerInjection.Proofs.PassedThrough
import MarkerInjection.Proofs.PrintedBlocks
import MarkerInjection.Proofs.PrintedClasses
import MarkerInjection.Proofs.RawNames
import MarkerInjection.Proofs.Records
import MarkerInjection.Proofs.Registrations
import MarkerInjection.Proofs.Relevance
import MarkerInjection.Proofs.Routes
import MarkerInjection.Proofs.SharedStores
import MarkerInjection.Proofs.SingleVisits
import MarkerInjection.Proofs.StoreKeys
import MarkerInjection.Proofs.StoredSettings
import MarkerInjection.Proofs.TagMembers
import MarkerInjection.Proofs.TagSpellings
import MarkerInjection.Proofs.Turns
import MarkerInjection.Proofs.Visits
import MarkerInjection.Proofs.WrittenTexts
import MarkerInjection.Scripted
import MarkerInjection.Session
import MarkerInjection.Source.History
import MarkerInjection.Source.Lexer
