import EventRouting.Main
import EventRouting.Proofs.Grammar.Turns
import EventRouting.Proofs.RuleText.RoundTrip
import EventRouting.Proofs.RuleText.Layouts
import EventRouting.Proofs.RuleText.AddressOperands
import EventRouting.Proofs.RuleText.Slashes
import EventRouting.Proofs.Regex.FlagGroups
import EventRouting.Proofs.RuleText.Settling
import EventRouting.Proofs.Event.Document
import EventRouting.Proofs.Store.Sharing
import EventRouting.Proofs.Network.AddressSets
import EventRouting.Proofs.Network.RangeText
import EventRouting.Proofs.Network.DomainMembership
import EventRouting.Proofs.Rule.Growth
import EventRouting.Proofs.Rule.Presence
import EventRouting.Proofs.Rule.Rounds
import EventRouting.Proofs.Classifier.Serving
import EventRouting.Proofs.RoomGraph.Sessions
import EventRouting.Proofs.RoomGraph.Statistics
import EventRouting.Proofs.Configuration.Routing
import EventRouting.Proofs.Configuration.Listing
import EventRouting.Proofs.CommandLine.Answers
