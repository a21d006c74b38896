import Delegation.Config.Basic
import Delegation.Number.Places
import Delegation.Procedure

/-!
# Recall

Before a task is delegated it can be enriched with what the memory knows about it. The hits of a
search stand in a block after the task, between an opening and a closing marker, one line for each
hit. A search that fails, or finds nothing, leaves the task as it is.
-/

namespace Delegation.Recall

def openingMarker : String := "[相关记忆]"
def closingMarker : String := "[/相关记忆]"

/-- The line of a hit. -/
def line (h : MemoryHit) : String :=
  "- " ++ Text.trim h.content ++ " (score " ++ h.score.twoPlaces ++ ")\n"

/-- The task, and after it the block of hits, if there are any. -/
def splice (task : String) (hits : List MemoryHit) : String :=
  if hits = [] then task
  else
    task ++ "\n\n" ++ openingMarker ++ "\n" ++ String.join (hits.map line) ++ closingMarker

/-- The task as the answer to a search leaves it. -/
def enriched (task : String) : Reply (List MemoryHit) → String
  | .ok hits => splice task hits
  | .error _ => task

/-- Search the memory for the task and enrich it. -/
def augment (config : RecallConfig) (task : String) : Procedure String := do
  let answer ← .search task config.topK config.minScore
  return enriched task answer

end Delegation.Recall
