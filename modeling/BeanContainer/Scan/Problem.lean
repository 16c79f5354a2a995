import BeanContainer.Error

/-!
# Problems

What is wrong with a declaration is told to a reporter, which decides whether the work goes on.
-/

namespace BeanContainer

/-- Something wrong, with what declared it and the error behind it. -/
structure Problem where
  message : String
  source : Option String := none
  cause : Option String := none
  deriving DecidableEq, Repr

namespace Problem

def ofError (source : Option String) (e : ContainerError) : Problem :=
  ⟨e.problemMessage, source, some e.message⟩

def text (p : Problem) : String :=
  match p.source with
  | some source => p.message ++ "\nOffending resource: " ++ source
  | none => p.message

/-- The problem in words with the error behind it. -/
def textWithCause (p : Problem) : String :=
  match p.cause with
  | some cause => p.text ++ " (caused by: " ++ cause ++ ")"
  | none => p.text

end Problem

/-- What is done with a problem. -/
inductive Reporter where
  /-- It is kept, and the work goes on. -/
  | collecting
  /-- It is logged, and the work goes on. -/
  | logging
  /-- An error ends the work; a warning is logged. -/
  | failFast
  /-- A reporter of the application. It keeps what it is told of, and judges from the errors so far
  and the new one whether the work goes on. -/
  | custom (judge : List Problem → Problem → Except ContainerError Unit)

end BeanContainer
