import BeanContainer.Container.ScopedProxy
import BeanContainer.Scan.Context
import BeanContainer.Scan.Settings
import BeanContainer.Text.Wildcard

/-!
# Scanning

A scan goes through the packages in order and through the types of each in the order of their names,
and registers a definition for every type that is selected.

* `Scan.isSelected`: whether the filters and the type's kind select a type.
* `Scan.candidate`: the definition that a selected type has, with its name and its proxy mode.
* `Scan.registerType`: registers it, unless a compatible definition has the name.
* `Scan.read`: the whole scan.
-/

namespace BeanContainer.Scan

/-! ### Selection -/

/-- Whether a type is selected: no filter excludes it, some filter includes it, and it is a class of
which beans can be made. -/
def isSelected (c : ScanContext) (s : ScanSettings) (m : TypeMetadata) :
    Except ContainerError Bool := do
  let types := c.catalog.metadata
  -- A filter that fails ends the scan, so the order in which filters are asked matters.
  if ← TypeFilter.anyAccepts types m s.excludes then return false
  if !(← TypeFilter.anyAccepts types m s.allIncludes) then return false
  return m.isConcrete

/-! ### Definitions of scanned types -/

/-- The definition with what applies to every scanned one. -/
def applyDefaults (defaults : DefinitionDefaults) (name : String) (d : BeanDefinition) :
    BeanDefinition :=
  { d with
    isLazy := defaults.isLazy
    autowireCandidate :=
      if defaults.autowirePatterns.isEmpty then d.autowireCandidate
      else defaults.autowirePatterns.any (Text.wildcardMatches · name) }

/-- The definition with what the annotations of its class say. A class is not lazy if its annotation
says so in so many words, and lazy if it says anything else or nothing. -/
def applyAnnotations (m : TypeMetadata) (d : BeanDefinition) : BeanDefinition :=
  { d with
    isLazy := match m.annotationNamed? WellKnown.lazyInit with
      | none => d.isLazy
      | some a =>
        match a.attribute? "value" with
        | some value => !Text.equalIgnoringAsciiCase (Text.trim value) "false"
        | none => true
    primary := d.primary || m.carries WellKnown.primary }

/-- The definition of a scanned type before anything is read off its annotations. -/
def foundDefinition (c : ScanContext) (t : LoadedType) : BeanDefinition :=
  { c.catalog.definition t with source := some t.name, scanned := true }

/-- The definition of a scanned type, with the name that it is to have and the mode of its scoped
proxy. -/
def candidate (c : ScanContext) (s : ScanSettings) (r : Registry) (t : LoadedType) :
    Except ContainerError (NamedDefinition × ScopedProxyMode) := do
  let (scope, mode) ← s.resolver.resolve (foundDefinition c t)
  -- The generator sees the definition with its scope, but without defaults: those need the name.
  let d := { foundDefinition c t with scope }
  let name ← (s.generator c.catalog).generate d r
  return (⟨name, applyAnnotations t.metadata (applyDefaults c.defaults name d)⟩, mode)

/-! ### Registration -/

/-- Whether a scanned definition can be left out because of the one that is there: that one was not
found by a scan, or by a scan of the same source. -/
def isCompatible (existing d : BeanDefinition) : Bool :=
  !existing.scanned || (existing.source.isSome && existing.source == d.source)

/-- Whether a definition is to be registered: not if a compatible one has its name. A name that
belongs to an incompatible one is an error. -/
def isNew (r : Registry) (b : NamedDefinition) : Except ContainerError Bool :=
  match r.definition? b.name with
  | none => .ok true
  | some existing =>
    if isCompatible existing b.definition then .ok false
    else .error (.conflictingDefinition b.name b.definition.className existing.className)

/-- Registers a definition whose name is new, behind a proxy where one is wanted, and says what was
registered under the name. -/
def registerNew (c : ScanContext) (mode : ScopedProxyMode) (b : NamedDefinition) :
    Recording (List NamedDefinition) := do
  -- With a proxy, the hidden definition is registered first and the proxy takes the name.
  let b ← ScopedProxy.wrap c.catalog.metadata mode b
  Ledger.register b.name b.definition
  return [b]

/-- Registers the definition of a selected type, unless a compatible one has its name. -/
def registerType (c : ScanContext) (s : ScanSettings) (t : LoadedType) :
    Recording (List NamedDefinition) := do
  let r ← Ledger.currentRegistry
  let (b, mode) ← MonadExcept.ofExcept (candidate c s r t)
  if ← MonadExcept.ofExcept (isNew r b) then registerNew c mode b else return []

/-- Registers a type if it is selected, and says what was registered. -/
def registerIfSelected (c : ScanContext) (s : ScanSettings) (t : LoadedType) :
    Recording (List NamedDefinition) := do
  if ← MonadExcept.ofExcept (isSelected c s t.metadata) then registerType c s t else return []

/-- Registers the types that are selected among the listed ones. -/
def registerTypes (c : ScanContext) (s : ScanSettings) :
    List LoadedType → Recording (List NamedDefinition)
  | [] => return []
  | t :: ts => do return (← registerIfSelected c s t) ++ (← registerTypes c s ts)

/-- The paths of a package, whose placeholders are expanded and whose segments may be separated by
dots. -/
def packagePattern (c : ScanContext) (s : ScanSettings) (package : String) :
    Except ContainerError ResourcePattern := do
  let package := Text.trim (← c.environment.expand package)
  return .ofPackage
    (String.ofList (package.toList.flatMap fun ch => if ch = '.' then [':', ':'] else [ch]))
    s.resourcePattern

def readPackages (c : ScanContext) (s : ScanSettings) :
    List String → Recording (List NamedDefinition)
  | [] => return []
  | package :: packages => do
    let pattern ← MonadExcept.ofExcept (packagePattern c s package)
    let found ← registerTypes c s (c.catalog.candidates pattern)
    return found ++ (← readPackages c s packages)

/-- Scans as the settings say, and gives what was registered, the definitions behind proxies left
out. -/
def read (c : ScanContext) (s : ScanSettings) : Recording (List NamedDefinition) := do
  MonadExcept.ofExcept s.validate
  if s.basePackages.isEmpty then throw (.configuration .noBasePackage)
  readPackages c s s.basePackages

end BeanContainer.Scan
