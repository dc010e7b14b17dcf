import EventRouting.Error
import EventRouting.Log
import EventRouting.RoomGraph
import EventRouting.Rule.Build

set_option autoImplicit false

namespace EventRouting

/-- A session as written; without a rule it takes every event. -/
structure SessionPlan where
  source : String
  destination : String
  rule : Option Expression

/-- What came of reading a configuration, and what was reported meanwhile. -/
structure Load where
  outcome : Except Error (List SessionPlan)
  log : Log

namespace SessionPlan

def build (plan : SessionPlan) : Build Session := do
  let rule ← (plan.rule.getD .anything).build
  return ⟨plan.source, plan.destination, rule⟩

/-- Each session keeps its rule while the next one is built. -/
def buildAll : List SessionPlan → Build (List Session)
  | [] => return []
  | plan :: rest => do
    let session ← plan.build
    return session :: (← buildAll rest)

end SessionPlan

end EventRouting
