/-!
# Well-known names

The names that the container itself gives and looks for: annotations, infrastructure beans and their
classes, and the strategies that a type of the catalog may implement.
-/

namespace BeanContainer.WellKnown

/-! ### Annotations -/

/-- Marks a class that a scan takes by default. -/
def component : String := "sprig::stereotype::Component"

/-- The annotations that themselves carry `component`. -/
def specialisedStereotypes : List String :=
  ["sprig::stereotype::Service", "sprig::stereotype::Repository", "sprig::stereotype::Controller"]

/-- The annotations by which a class may name its bean, in every catalog. -/
def stereotypes : List String := component :: specialisedStereotypes

/-- Gives the scope of a class's bean and the mode of its scoped proxy. -/
def scope : String := "sprig::context::Scope"

/-- Says whether a bean is made only on request. -/
def lazyInit : String := "sprig::context::Lazy"

/-- Puts a bean before others of its type. -/
def primary : String := "sprig::context::Primary"

/-! ### Classes of the container's own beans -/

/-- The marker that every early reference's class carries. -/
def referenceMarker : String := "sprig::context::EarlyBeanReferenceProxy"

/-- The class of scoped proxies. -/
def scopedProxyClass : String := "sprig::context::ScopedProxy"

/-- The class of the status of early references. -/
def statusClass : String := "sprig::context::EarlyBeanReferenceProxyStatus"

/-- The class of the processor of annotation configuration. -/
def processorClass : String := "sprig::context::AnnotationConfigProcessor"

/-! ### Names of beans -/

/-- The bean that holds the status of early references. -/
def statusBean : String := "sprig.context.internalEarlyBeanReferenceProxyStatus"

/-- The bean that processes annotation configuration. -/
def processorBean : String := "sprig.context.internalConfigurationAnnotationProcessor"

/-- The name of the definition that hides behind a scoped proxy. -/
def scopedTarget (beanName : String) : String := "scopedTarget." ++ beanName

/-! ### What the factories of the container's own beans make -/

/-- The type of scoped proxies. -/
def scopedProxyProduct : String := "sprig_context::scoped_proxy::ScopedProxy"

/-- The type of the status of early references. -/
def statusProduct : String := "sprig_context::proxy_status::EarlyBeanReferenceProxyStatus"

/-- The type of the processor of annotation configuration. -/
def processorProduct : String := "sprig_context::annotation_config::AnnotationConfigProcessor"

/-! ### Strategies -/

/-- What a class implements that names beans. -/
def nameGeneratorStrategy : String := "sprig::context::BeanNameGenerator"

/-- What a class implements that finds the scopes of beans. -/
def scopeResolverStrategy : String := "sprig::context::ScopeMetadataResolver"

/-- What a class implements that filters types. -/
def typeFilterStrategy : String := "sprig::core::TypeFilter"

end BeanContainer.WellKnown
