import BeanContainer.Container.Registry
import BeanContainer.Logging
import BeanContainer.Scan.Component
import BeanContainer.Scan.Problem

/-!
# The ledger

A registry is filled under the eyes of others: what goes wrong is reported, and what has been
registered is announced. A `Ledger` is a registry with the record of all that.

* `Recording`: computations that change a ledger and may fail. What they did before they failed
  stays done.
* `Ledger.register`, `Ledger.report`, `Ledger.announce`: the basic entries.
-/

namespace BeanContainer

/-- A registry with what was logged, reported and announced while it was filled. -/
structure Ledger where
  registry : Registry := {}
  /-- The lines that the container logged. -/
  notices : List Notice := []
  /-- The errors that a reporter which keeps them was told of. -/
  errors : List Problem := []
  /-- The warnings that a reporter which keeps them was told of. -/
  warnings : List Problem := []
  /-- The components that were announced as registered. -/
  announced : List Component := []

/-- Computations on a ledger. -/
abbrev Recording := ExceptT ContainerError (StateM Ledger)

namespace Ledger

def log (level : LogLevel) (text : String) : Recording Unit :=
  modify fun l => { l with notices := l.notices ++ [⟨level, text⟩] }

def currentRegistry : Recording Registry := Ledger.registry <$> get

/-- Carries out a change of the registry, which may be rejected. -/
def change (f : Registry → Except ContainerError Registry) : Recording Unit := do
  let r ← MonadExcept.ofExcept (f (← currentRegistry))
  modify fun l => { l with registry := r }

/-- Adds a definition. That a definition is there already is logged, too. -/
def register (name : String) (d : BeanDefinition) : Recording Unit := do
  let r ← currentRegistry
  -- On a frozen registry the name is not looked at.
  if !r.frozen && r.isDefined name then
    log .warn ("Refusing to override bean definition '" ++ name ++ "'")
  change (·.register name d)

def remove (name : String) : Recording Unit := change (·.remove name)

def keepError (p : Problem) : Recording Unit :=
  modify fun l => { l with errors := l.errors ++ [p] }

/-- Tells a reporter of an error. The computation ends if it fails fast, and if it is one of the
application that wants to end it. -/
def report (reporter : Reporter) (p : Problem) : Recording Unit :=
  match reporter with
  | .failFast => throw (.configuration (.reported p.text))
  | .logging => log .error p.textWithCause
  | .collecting => keepError p
  | .custom judge => do
    let told := (← get).errors
    keepError p
    MonadExcept.ofExcept (judge told p)

def warn (reporter : Reporter) (p : Problem) : Recording Unit :=
  match reporter with
  | .failFast | .logging => log .warn p.text
  | .collecting | .custom _ => modify fun l => { l with warnings := l.warnings ++ [p] }

def announce (c : Component) : Recording Unit :=
  modify fun l => { l with announced := l.announced ++ [c] }

end Ledger

end BeanContainer
