import Resumable.Hook

/-!
# Sites

A `Config` holds what is common to runs: a name, a fixed identity, and hooks. A `Site` is a place in
the tree of invocations of one run; it emits records that carry its trace. An `Emission` is a record
together with its virtual time and with what the hooks made of it.
-/

namespace Resumable

structure Config where
  name : Option String
  /-- The identity of every run; without one each run has its own. -/
  run : Option RunId
  hooks : Hooks

/-- A place in the tree of invocations of one run. -/
structure Site where
  config : Config
  run : RunId
  /-- The frames, the outermost first. -/
  stack : List Frame

structure Emission where
  record : Record
  /-- The virtual time, in milliseconds. -/
  time : Nat
  delivery : Delivery
deriving DecidableEq

namespace Site

/-- The place outside all invocations; `fresh` is the run's own identity. -/
def root (config : Config) (fresh : RunId) : Site :=
  ⟨config, config.run.getD fresh, []⟩

/-- The place inside one more invocation. -/
def enter (site : Site) (frame : Frame) : Site :=
  { site with stack := site.stack ++ [frame] }

/-- How many invocations enclose the place. -/
def depth (site : Site) : Nat :=
  site.stack.length

/-- The trace of records emitted here. -/
def trace (site : Site) : Trace :=
  ⟨site.config.name, site.run, site.stack⟩

/-- Offers an event to the hooks if any of them hears events of some kind. -/
def offer? (site : Site) (kind : EventKind) (event : Event) : Option Delivery :=
  if site.config.hooks.hears kind then some (site.config.hooks.deliver ⟨site.trace, event⟩)
  else none

/-- Emits an event to the hooks that hear events of its kind. -/
def emit (site : Site) (now : Nat) (event : Event) : Emission where
  record := ⟨site.trace, event⟩
  time := now
  delivery := (site.offer? event.kind event).getD .none

end Site

namespace Emission

def panic? (emission : Emission) : Option String :=
  emission.delivery.panic

end Emission

end Resumable
