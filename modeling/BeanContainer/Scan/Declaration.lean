import BeanContainer.Scan.AnnotationConfig
import BeanContainer.Scan.Element
import BeanContainer.Scan.Scanning
import BeanContainer.Text.Tokens

/-!
# Carrying out scan declarations

A declaration is understood, the scan is run, and what it registered is announced as one component.

* `ScanElement.settings`: what a declaration means. A filter that makes no sense is reported, and if
  the reporter lets the work go on the filter is left out.
* `ScanElement.carryOut`: understands a declaration, scans and announces.
* `carryOutAll`: all declarations of a document.
-/

namespace BeanContainer

namespace TypeFilter

/-- A class that a filter's expression names. -/
def filterClass (c : Catalog) (name : String) : Except ContainerError LoadedType :=
  match c.find? name with
  | some t => .ok t
  | none => .error (.filterClassNotFound name)

/-- A filter class of the application. A class that is no filter is told from one that cannot be
made. -/
def ofClass (c : Catalog) (name : String) : Except ContainerError TypeFilter := do
  let t ← filterClass c name
  -- A class without a constructor is no filter either, so the strategy's own errors do not arise.
  if (t.constructor.bind Constructor.typeFilter?).isNone then
    .error (.configuration (.notAFilterClass name))
  c.strategy Constructor.typeFilter? WellKnown.typeFilterStrategy name

/-- The filter that a declared one stands for. Blanks around the expression do not count, and the
types it names must be in the catalog. -/
def ofElement (c : Catalog) (f : FilterElement) : Except ContainerError TypeFilter :=
  let expression := Text.trim f.expression
  match f.type with
  | "annotation" => do
    let _ ← filterClass c expression
    .ok (annotated expression)
  | "assignable" => do
    let _ ← filterClass c expression
    .ok (assignable expression)
  | "aspectj" => typePattern expression
  | "regex" => regex expression
  | "custom" => ofClass c expression
  | other => .error (.configuration (.unsupportedFilterType other))

end TypeFilter

namespace ScanElement

/-- What separates the packages of a declaration. -/
def packageDelimiters : String := ",; \t\n"

/-- The mode that a declaration's attribute stands for. -/
def proxyMode (text : String) : Except ContainerError ScopedProxyMode :=
  match Text.trim text with
  | "targetClass" => .ok .targetClass
  | "interfaces" => .ok .interfaces
  | "no" => .ok .no
  | _ => .error (.configuration .unknownScopedProxySetting)

/-- The settings that the attributes other than filters make. -/
def attributeSettings (c : Catalog) (e : ScanElement) : Except ContainerError ScanSettings := do
  if e.scopeResolver.isSome && e.scopedProxy.isSome then
    .error (.configuration .resolverAndProxyMode)
  let nameGenerator ← e.nameGenerator.mapM
    (c.strategy Constructor.nameGenerator? WellKnown.nameGeneratorStrategy)
  let scopeResolver ← e.scopeResolver.mapM
    (c.strategy Constructor.scopeResolver? WellKnown.scopeResolverStrategy)
  let scopedProxyMode ← e.scopedProxy.mapM proxyMode
  let base : ScanSettings := { basePackages := Text.tokens packageDelimiters e.basePackage }
  return { base with
    resourcePattern := e.resourcePattern.getD base.resourcePattern
    useDefaultFilters := e.useDefaultFilters.getD base.useDefaultFilters
    includeAnnotationConfig := e.annotationConfig.getD base.includeAnnotationConfig
    nameGenerator, scopeResolver, scopedProxyMode
    source := e.source }

/-- The filters that the listed declarations stand for. One that stands for none is reported. -/
def filters (c : ScanContext) (source : Option String) :
    List FilterElement → Recording (List TypeFilter)
  | [] => return []
  | f :: fs => do
    match TypeFilter.ofElement c.catalog f with
    | .ok filter => return filter :: (← filters c source fs)
    | .error e =>
      Ledger.report c.reporter (.ofError source e)
      filters c source fs

/-- What a declaration means. -/
def settings (c : ScanContext) (e : ScanElement) : Recording ScanSettings := do
  let s ← MonadExcept.ofExcept (attributeSettings c.catalog e)
  let includes ← filters c e.source e.includes
  let excludes ← filters c e.source e.excludes
  return { s with includes, excludes }

/-- Announces what a declaration registered, as one component. Unless the declaration says otherwise
the beans of annotation configuration belong to it, and those that are missing are registered. -/
def registerComponents (e : ScanElement) (scanned : List NamedDefinition) :
    Recording Component := do
  let processors ←
    if e.annotationConfig.getD true then AnnotationConfig.register e.source else pure []
  let component := .composite tagName e.source ((scanned ++ processors).map .bean)
  Ledger.announce component
  return component

/-- Carries out a declaration, and gives what the scan registered. -/
def carryOut (c : ScanContext) (e : ScanElement) : Recording (List NamedDefinition) := do
  let s ← settings c e
  let scanned ← Scan.read c s
  let _ ← registerComponents e scanned
  return scanned

/-- Carries out the listed declarations one after another. -/
def carryOutEach (c : ScanContext) : List ScanElement → Recording (List NamedDefinition)
  | [] => return []
  | e :: es => do return (← carryOut c e) ++ (← carryOutEach c es)

def carryOutAll (c : ScanContext) (content sourceName : String) :
    Recording (List NamedDefinition) := do
  carryOutEach c (← MonadExcept.ofExcept (allOf content sourceName))

end ScanElement

end BeanContainer
