import BeanContainer.Regex.Reading
import BeanContainer.Regex.Size
import BeanContainer.TypePattern.Token

/-!
# Errors of the container

What can go wrong, by cause. Every error belongs to one of a few kinds, by which callers decide what
to do, and has one message, which is worded here and nowhere else.

* `ContainerError.kind`, `ContainerError.message`: the kind and the wording of an error.
* `ContainerError.isConfiguration`: the errors of a declaration, as opposed to those of a bean.
-/

namespace BeanContainer

/-- What is wrong with a declaration or an attribute. -/
inductive Misconfiguration where
  | unsupportedScope (text : String)
  | unknownProxyMode (text : String)
  | unknownLogFormat (text : String)
  | unknownLogLevel (text : String)
  | malformedRegex (pattern : String) (fault : Regex.Fault)
  /-- The automaton of an expression would take too much room. -/
  | oversizedRegex (pattern : String)
  | malformedTypePattern (expression : String) (fault : TypePattern.Fault)
  /-- The placeholders of a text refer to one another too deeply. -/
  | circularPlaceholder (text : String)
  /-- A placeholder has neither a value nor a default. -/
  | unresolvedPlaceholder (key text : String)
  | unreadableFile (path reason : String)
  | malformedDocument (fault : String)
  | malformedScanDocument (source fault : String)
  | strategyClassNotFound (className strategy : String)
  | strategyWithoutConstructor (className strategy : String)
  | notAStrategy (strategy : String)
  /-- A definition was to be registered or removed after the configuration was frozen. -/
  | frozen (action beanName : String)
  | resolverAndProxyMode
  | noBasePackage
  | unknownScopedProxySetting
  | notAFilterClass (className : String)
  | unsupportedFilterType (type : String)
  /-- Two annotations of one type give its bean different names. -/
  | inconsistentNames (first second : String)
  | unnamedClass
  /-- A problem that a failing reporter was told of. -/
  | reported (problem : String)
  | custom (text : String)
  deriving DecidableEq, Repr

def Misconfiguration.message : Misconfiguration → String
  | unsupportedScope text =>
    s!"Unsupported scope '{text}': only 'singleton' and 'prototype' are available"
  | unknownProxyMode text => s!"Unknown scoped proxy mode '{text}'"
  | unknownLogFormat text => s!"Invalid log format: {text}"
  | unknownLogLevel text => s!"Invalid log level: {text}"
  | malformedRegex pattern fault =>
    s!"Invalid regex type filter '{pattern}': regex parse error: " ++ fault.message
  | oversizedRegex pattern =>
    s!"Invalid regex type filter '{pattern}': Compiled regex exceeds size limit of " ++
      s!"{Regex.sizeLimit} bytes."
  | malformedTypePattern expression fault =>
    s!"Invalid type pattern expression '{expression}': " ++ fault.message
  | circularPlaceholder text => s!"Circular placeholder reference in '{text}'"
  | unresolvedPlaceholder key text =>
    s!"Could not resolve placeholder '{key}' in value \"{text}\""
  | unreadableFile path reason => s!"Failed to read config file {path}: {reason}"
  | malformedDocument fault => s!"Failed to parse TOML: {fault}"
  | malformedScanDocument source fault =>
    s!"Failed to parse component-scan configuration from {source}: {fault}"
  | strategyClassNotFound className strategy =>
    s!"Class [{className}] for strategy [{strategy}] not found"
  | strategyWithoutConstructor className strategy =>
    s!"Unable to instantiate class [{className}] for strategy [{strategy}]. " ++
      "A zero-argument constructor is required"
  | notAStrategy strategy => s!"Provided class name must be an implementation of {strategy}"
  | frozen action beanName =>
    s!"Cannot {action} bean definition '{beanName}': configuration is frozen"
  | resolverAndProxyMode =>
    "Cannot define both 'scope-resolver' and 'scoped-proxy' on <component-scan> tag"
  | noBasePackage => "At least one base package must be specified"
  | unknownScopedProxySetting =>
    "scoped-proxy only supports 'no', 'interfaces' and 'targetClass'"
  | notAFilterClass className =>
    s!"Class is not assignable to [sprig::core::TypeFilter]: {className}"
  | unsupportedFilterType type => s!"Unsupported filter type: {type}"
  | inconsistentNames first second =>
    s!"Stereotype annotations suggest inconsistent component names: '{first}' versus '{second}'"
  | unnamedClass =>
    "Unnamed bean definition specifies no bean class: can't generate bean name"
  | reported problem => problem
  | custom text => text

/-- Why no early reference to a type can be made. -/
inductive ProxyObstacle where
  | finalClass
  | noConstructor
  | privateConstructor
  deriving DecidableEq, Repr

def ProxyObstacle.message : ProxyObstacle → String
  | finalClass => "class is declared final"
  | noConstructor => "class must declare a no-arg constructor"
  | privateConstructor => "no-arg constructor is private and constructor bypass is disabled"

inductive ErrorKind where
  | configuration
  | typeResolution
  | proxyCreation
  | noSuchBeanDefinition
  | unsupportedOperation
  | beanNotFound
  | beanAlreadyExists
  | conflictingBeanDefinition
  | beanCreationFailed
  | circularDependency
  | typeMismatch
  | loggingInitFailed
  | other
  deriving DecidableEq, Repr

/-- An error of the container, by cause. -/
inductive ContainerError where
  | configuration (cause : Misconfiguration)
  | classNotFound (typeName : String)
  | filterClassNotFound (typeName : String)
  /-- A type that cannot be used, with the message that says why. -/
  | unresolvedType (typeName message : String)
  | notProxyable (typeName : String) (obstacle : ProxyObstacle)
  /-- No definition of the type may be injected. -/
  | noCandidate (typeName : String)
  /-- Several definitions of the type may be injected and none of them goes first. -/
  | ambiguousCandidates (typeName : String) (names : List String)
  /-- The identity of a bean was asked of a reference that has none yet. -/
  | unresolvedIdentity
  | beanNotFound (name : String)
  | beanAlreadyExists (name : String)
  | conflictingDefinition (name className existingClassName : String)
  /-- A bean's factory failed. -/
  | creationFailed (name : String) (cause : ContainerError)
  | noDefaultConstructor (typeName : String)
  | scopedFactoryGone (targetName : String)
  /-- A factory gave up, with its own message. -/
  | creationRefused (text : String)
  /-- A bean was asked for while it was being created; the chain of creations ends with it. -/
  | circularCreation (chain : List String)
  /-- An early reference was used while its bean was being created. -/
  | circularReference (typeName : String)
  /-- A factory reports a circular dependency of its own. -/
  | circularText (text : String)
  | typeMismatch (expected found : String)
  | loggingInitFailed (text : String)
  | other (text : String)
  deriving DecidableEq, Repr

namespace ContainerError

def kind : ContainerError → ErrorKind
  | configuration _ => .configuration
  | classNotFound _ | filterClassNotFound _ | unresolvedType _ _ => .typeResolution
  | notProxyable _ _ => .proxyCreation
  | noCandidate _ | ambiguousCandidates _ _ => .noSuchBeanDefinition
  | unresolvedIdentity => .unsupportedOperation
  | beanNotFound _ => .beanNotFound
  | beanAlreadyExists _ => .beanAlreadyExists
  | conflictingDefinition _ _ _ => .conflictingBeanDefinition
  | creationFailed _ _ | noDefaultConstructor _ | scopedFactoryGone _ | creationRefused _ =>
    .beanCreationFailed
  | circularCreation _ | circularReference _ | circularText _ => .circularDependency
  | typeMismatch _ _ => .typeMismatch
  | loggingInitFailed _ => .loggingInitFailed
  | other _ => .other

def message : ContainerError → String
  | configuration cause => "Configuration problem: " ++ cause.message
  | classNotFound typeName => s!"Class [{typeName}] not found in type catalog"
  | filterClassNotFound typeName => s!"Type filter class not found: {typeName}"
  | unresolvedType _ message => message
  | notProxyable typeName obstacle =>
    s!"Cannot create early bean reference proxy for type [{typeName}]: " ++ obstacle.message
  | noCandidate typeName =>
    s!"No qualifying bean of type '{typeName}' available: " ++
      "expected at least 1 bean which qualifies as autowire candidate for this dependency"
  | ambiguousCandidates typeName names =>
    s!"No qualifying bean of type '{typeName}' available: " ++
      s!"expected single matching bean but found {names.length}: " ++ String.intercalate "," names
  | unresolvedIdentity =>
    "equals() and hashCode() methods on EarlyBeanReferenceProxy objects are not supported " ++
      "as these methods cannot be reliably invoked before the underlying bean has been resolved"
  | beanNotFound name => s!"Bean '{name}' not found"
  | beanAlreadyExists name => s!"Bean '{name}' already exists"
  | conflictingDefinition name className existing =>
    s!"Annotation-specified bean name '{name}' for bean class [{className}] conflicts with " ++
      s!"existing, non-compatible bean definition of same name and class [{existing}]"
  | creationFailed name cause => s!"Failed to create bean: {name}: " ++ cause.message
  | noDefaultConstructor typeName =>
    s!"Failed to create bean: No default constructor found for type [{typeName}]"
  | scopedFactoryGone targetName =>
    s!"Failed to create bean: Bean factory for scoped target '{targetName}' is no longer available"
  | creationRefused text => s!"Failed to create bean: {text}"
  | circularCreation chain =>
    "Circular dependency detected: " ++ String.intercalate " -> " chain
  | circularReference typeName =>
    s!"Circular dependency detected: early bean reference to [{typeName}] was invoked while " ++
      "its target was being created"
  | circularText text => s!"Circular dependency detected: {text}"
  | typeMismatch expected found => s!"Type mismatch: expected '{expected}', found '{found}'"
  | loggingInitFailed text => s!"Failed to initialize logging: {text}"
  | other text => text

/-- The type that an error of type resolution or of injection is about. -/
def typeName? : ContainerError → Option String
  | classNotFound t | filterClassNotFound t | unresolvedType t _ => some t
  | noCandidate t | ambiguousCandidates t _ => some t
  | _ => none

/-- The bean that a conflict of definitions is about. -/
def conflictingName? : ContainerError → Option String
  | conflictingDefinition name _ _ => some name
  | _ => none

/-- Whether the error lies in a declaration: it is found before the declaration has any effect. -/
def isConfiguration (e : ContainerError) : Bool :=
  e.kind == .configuration || e.kind == .typeResolution

/-- What a problem report says of an error: a misconfiguration without the words that mark it as
one, any other error in full. -/
def problemMessage : ContainerError → String
  | configuration cause => cause.message
  | e => e.message

end ContainerError

end BeanContainer
