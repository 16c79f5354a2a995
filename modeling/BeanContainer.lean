import BeanContainer.Bean.Definition
import BeanContainer.Bean.Naming
import BeanContainer.Bean.Program
import BeanContainer.Bean.Recipe
import BeanContainer.Bean.ScopeResolver
import BeanContainer.Bisection
import BeanContainer.Catalog
import BeanContainer.Config.Environment
import BeanContainer.Config.Placeholder
import BeanContainer.Config.Source
import BeanContainer.Config.Value
import BeanContainer.Container.Access
import BeanContainer.Container.Beans
import BeanContainer.Container.CreationChain
import BeanContainer.Container.Ledger
import BeanContainer.Container.Registry
import BeanContainer.Container.Running
import BeanContainer.Container.ScopedProxy
import BeanContainer.Container.State
import BeanContainer.Decimal.Binary64
import BeanContainer.Decimal.Notation
import BeanContainer.Decimal.Shortest
import BeanContainer.Error
import BeanContainer.Event.Listener
import BeanContainer.Event.Multicaster
import BeanContainer.Filter.Basic
import BeanContainer.Filter.ByName
import BeanContainer.Logging
import BeanContainer.NameMap
import BeanContainer.Proofs.Config.DocumentSource
import BeanContainer.Proofs.Config.Expansion
import BeanContainer.Proofs.Config.ExpansionSeam
import BeanContainer.Proofs.Config.PlaceholderParts
import BeanContainer.Proofs.Config.SourceOrder
import BeanContainer.Proofs.Container.BeanFetch
import BeanContainer.Proofs.Container.Computation
import BeanContainer.Proofs.Container.CreationChain
import BeanContainer.Proofs.Container.DefinitionHistory
import BeanContainer.Proofs.Container.Dependency
import BeanContainer.Proofs.Container.DependencySearch
import BeanContainer.Proofs.Container.EagerSingleton
import BeanContainer.Proofs.Container.ErrorPropagation
import BeanContainer.Proofs.Container.GetBean
import BeanContainer.Proofs.Container.History
import BeanContainer.Proofs.Container.Journal
import BeanContainer.Proofs.Container.Moment
import BeanContainer.Proofs.Container.RegistryChange
import BeanContainer.Proofs.Container.RegistryInvariant
import BeanContainer.Proofs.Container.RunDepth
import BeanContainer.Proofs.Container.Singleton
import BeanContainer.Proofs.Event.Publication
import BeanContainer.Proofs.Filter.AnnotationFilter
import BeanContainer.Proofs.Filter.RegexFilter
import BeanContainer.Proofs.Naming.Agreement
import BeanContainer.Proofs.Naming.NumberedName
import BeanContainer.Proofs.Naming.Stereotype
import BeanContainer.Proofs.Reference.BeanChoice
import BeanContainer.Proofs.Reference.Equality
import BeanContainer.Proofs.Reference.Lifetime
import BeanContainer.Proofs.Reference.Resolution
import BeanContainer.Proofs.Reference.Restoration
import BeanContainer.Proofs.Reference.SparedRegistry
import BeanContainer.Proofs.Reference.SuppliedDefinition
import BeanContainer.Proofs.Reference.TargetGraph
import BeanContainer.Proofs.Reference.Wiring
import BeanContainer.Proofs.Regex.ClassContinuation
import BeanContainer.Proofs.Regex.ExpressionContinuation
import BeanContainer.Proofs.Regex.Language
import BeanContainer.Proofs.Regex.Matching
import BeanContainer.Proofs.Regex.ReaderProgress
import BeanContainer.Proofs.Regex.Rendering
import BeanContainer.Proofs.Scan.Announcement
import BeanContainer.Proofs.Scan.FailedDeclaration
import BeanContainer.Proofs.Scan.FaultyFilter
import BeanContainer.Proofs.Scan.PackageExpansion
import BeanContainer.Proofs.Scan.PackageOrder
import BeanContainer.Proofs.Scan.ReferenceBeforeScan
import BeanContainer.Proofs.Scan.RegisteredTypes
import BeanContainer.Proofs.Scan.RegistryGain
import BeanContainer.Proofs.Scan.RepeatedType
import BeanContainer.Proofs.Scan.ScopedProxy
import BeanContainer.Proofs.Scan.SecondScan
import BeanContainer.Proofs.Scan.TypePassage
import BeanContainer.Proofs.Scan.TypeRegistration
import BeanContainer.Proofs.Text.Wildcard
import BeanContainer.Proofs.Toml.DocumentKeys
import BeanContainer.Proofs.TypePattern.Derivation
import BeanContainer.Proofs.TypePattern.ExpressionText
import BeanContainer.Proofs.TypePattern.NamePattern
import BeanContainer.Proofs.TypePattern.PatternLanguage
import BeanContainer.Proofs.TypePattern.PatternRegex
import BeanContainer.Proofs.TypePattern.TokenSpelling
import BeanContainer.Proofs.Types.Assignability
import BeanContainer.Proofs.Types.Distance
import BeanContainer.Proofs.Types.ResourcePattern
import BeanContainer.Proofs.Types.SupertypeOrder
import BeanContainer.Proofs.Types.Traversal
import BeanContainer.Reference.Basic
import BeanContainer.Reference.Dependency
import BeanContainer.Reference.ProxyClass
import BeanContainer.Reference.Resolution
import BeanContainer.Regex.Basic
import BeanContainer.Regex.Matching
import BeanContainer.Regex.Plan
import BeanContainer.Regex.Property
import BeanContainer.Regex.Ranges
import BeanContainer.Regex.Reading
import BeanContainer.Regex.Size
import BeanContainer.Scan.AnnotationConfig
import BeanContainer.Scan.Component
import BeanContainer.Scan.Context
import BeanContainer.Scan.Declaration
import BeanContainer.Scan.Element
import BeanContainer.Scan.Problem
import BeanContainer.Scan.Scanning
import BeanContainer.Scan.Settings
import BeanContainer.Scope
import BeanContainer.Text.Casing
import BeanContainer.Text.CharClass.Basic
import BeanContainer.Text.CharClass.Binary
import BeanContainer.Text.CharClass.Case
import BeanContainer.Text.CharClass.Category
import BeanContainer.Text.CharClass.Hidden
import BeanContainer.Text.CharClass.Letter
import BeanContainer.Text.CharClass.Mark
import BeanContainer.Text.CharClass.Recent
import BeanContainer.Text.CharClass.Script
import BeanContainer.Text.Offset
import BeanContainer.Text.Quoted
import BeanContainer.Text.Tokens
import BeanContainer.Text.Trim
import BeanContainer.Text.Utf8
import BeanContainer.Text.Wildcard
import BeanContainer.Toml.Datetime
import BeanContainer.Toml.Reading
import BeanContainer.Toml.Settled
import BeanContainer.Toml.Value
import BeanContainer.Toml.Writing
import BeanContainer.TypeName
import BeanContainer.TypePattern.Expression
import BeanContainer.TypePattern.Pattern
import BeanContainer.TypePattern.Token
import BeanContainer.Types.Metadata
import BeanContainer.Types.Reach
import BeanContainer.Types.ResourcePattern
import BeanContainer.WellKnown
