import BeanContainer.Catalog

/-!
# Settings of a scan

What a scan goes by, once its declaration has been understood: the packages, the filters and the
strategies themselves instead of their names.
-/

namespace BeanContainer

/-- What a scan goes by. -/
structure ScanSettings where
  basePackages : List String
  resourcePattern : String := "**/*"
  useDefaultFilters : Bool := true
  includeAnnotationConfig : Bool := true
  includes : List TypeFilter := []
  excludes : List TypeFilter := []
  nameGenerator : Option NameGenerator := none
  scopeResolver : Option ScopeResolver := none
  scopedProxyMode : Option ScopedProxyMode := none
  source : Option String := none

namespace ScanSettings

/-- The settings must not hold both a resolver of scopes and a mode of scoped proxies: the mode is
one for the resolver that is taken by default. -/
def validate (s : ScanSettings) : Except ContainerError Unit :=
  if s.scopeResolver.isSome && s.scopedProxyMode.isSome then
    .error (.configuration .resolverAndProxyMode)
  else .ok ()

/-- The filters one of which has to accept a type. -/
def allIncludes (s : ScanSettings) : List TypeFilter :=
  if s.useDefaultFilters then .annotated WellKnown.component :: s.includes else s.includes

/-- The generator of names: the one that is set, or the one by annotations. -/
def generator (s : ScanSettings) (c : Catalog) : NameGenerator :=
  s.nameGenerator.getD (.fromAnnotations c.metadata)

/-- The resolver of scopes: the one that is set, or the one by annotations with the mode that is
set. -/
def resolver (s : ScanSettings) : ScopeResolver :=
  s.scopeResolver.getD (.fromAnnotations (s.scopedProxyMode.getD .no))

def shown (s : ScanSettings) : String :=
  let filters (fs : List TypeFilter) := Text.shownList Text.quoted (fs.map (·.description))
  Text.shownRecord "ComponentScanMetadata" [
    ("base_packages", Text.shownList Text.quoted s.basePackages),
    ("resource_pattern", Text.quoted s.resourcePattern),
    ("use_default_filters", Text.shownBool s.useDefaultFilters),
    ("include_annotation_config", Text.shownBool s.includeAnnotationConfig),
    ("include_filters", filters s.includes),
    ("exclude_filters", filters s.excludes),
    ("custom_name_generator", Text.shownBool s.nameGenerator.isSome),
    ("custom_scope_resolver", Text.shownBool s.scopeResolver.isSome),
    ("scoped_proxy_mode", Text.shownOption ScopedProxyMode.label s.scopedProxyMode),
    ("source", Text.shownOption Text.quoted s.source)]

end ScanSettings

end BeanContainer
