import EventRouting.Netblock
import EventRouting.Proofs.Event.Pairs
import EventRouting.Proofs.Rule.Judging
import EventRouting.Proofs.Network.AddressSets
import EventRouting.Proofs.Structured.Payloads

set_option autoImplicit false

namespace EventRouting

open Text

namespace Netblock

variable {text : String} {extent : Option Extent} {keys others : List String}

theorem range_none (text : String) : range text none = IpRange.read text.toList := rfl

/-- The test for a value inside the block under one key. -/
def under (range : IpRange) (key : String) : Expression := .test .matching (some key) (some (.ip range))

theorem containsWhere_none_iff {event : Event} {test : String → Bool} :
    event.containsWhere none test = true ↔ ∃ key, event.containsWhere (some key) test = true := by
  simp only [Event.containsWhere, List.any_eq_true, Event.mem_values_iff]
  constructor
  · rintro ⟨⟨key, values⟩, inside, value, among, passes⟩
    exact ⟨key, value, ⟨values, inside, among⟩, passes⟩
  · rintro ⟨key, value, ⟨values, inside, among⟩, passes⟩
    exact ⟨(key, values), inside, value, among, passes⟩

/-- The block under one key is a test. -/
theorem ofRange_single_agrees (range : IpRange) (key : String) :
    (ofRange range [key]).Agrees (under range key) :=
  Expression.junction_agrees_single .or _

theorem build_of_range {range : IpRange} (known : Netblock.range text extent = .ok range)
    (keys : List String) (store : Store) :
    build text extent keys store =
      (.ok ((ofRange range keys).build store).1, ((ofRange range keys).build store).2) := by
  rw [build, expression, known]
  rfl

end Netblock

namespace Workspace

variable {work : Workspace}

open Netblock

/-- In every state, expressions of one normal form are built to one rule. -/
theorem Run.build_eq (run : Run start work) {first second : Expression} (agrees : first.Agrees second) :
    (second.build (first.build work.store).2).1 = (first.build work.store).1 :=
  (run.sound start_sound).build_agreeing (run.told start_sound start_told) agrees

end Workspace

end EventRouting
