import CommandMetrics.Collector
/-!
# Factories — who makes the collectors of a command

A roster lists the factories that make one collector each for a command
the engine starts to track. A factory may be a metric set, which makes
recorders; one of the two sinks; or a scripted one, which acts on the
roster it is called from before it makes a collector that discards
everything, or gives up.
-/

namespace CommandMetrics

/-- A roster of factories, by its number. -/
structure RosterId where
  index : Nat
  deriving DecidableEq, Repr

/-- The roster of the process. -/
def RosterId.default : RosterId := ⟨0⟩

mutual

/-- What makes the collectors of commands. -/
inductive Factory where
  | recorders (set : SetId)
  | memory
  | silent
  | scripted (label : String) (script : Script)

/-- What a scripted factory does when it is called. -/
inductive Script where
  /-- Makes a collector that discards everything. -/
  | make
  /-- Gives up. -/
  | giveUp
  /-- Enlists another factory in the same roster, then goes on. -/
  | enlist (factory : Factory) (rest : Script)
  /-- Empties the roster, then goes on. -/
  | clear (rest : Script)

end

end CommandMetrics
