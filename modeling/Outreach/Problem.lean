import Outreach.Flow.Step
import Outreach.Json.Cursor
import Outreach.Segment.Criterion

/-!
Everything that can go wrong with a request, with its message and a coarse kind for the
caller: a mistake of the client, something that does not exist, something worth trying
again, or a fault of the system.
-/

namespace Outreach

inductive Problem
  | invalidDefinition (fault : DefinitionFault)
  | invalidFlow (fault : FlowFault)
  | invalidTransition (status event : String)
  | segmentMismatch (ofFlow ofCampaign : String)
  | notFound (what id : String)
  | unavailable (reason : String)
  | misconfigured (reason : String)
  | undecodable (mismatch : Mismatch)
  | malformed (fault : Json.SyntaxFault)
  | internal (reason : String)

namespace Problem

def message : Problem → String
  | invalidDefinition fault => fault.report
  | invalidFlow fault => fault.report
  | invalidTransition status event =>
    s!"Invalid transition: cannot {event} a {status} campaign"
  | segmentMismatch ofFlow ofCampaign =>
    s!"Segment mismatch: flow uses {ofFlow}, campaign uses {ofCampaign}"
  | notFound what id => s!"{what} not found: {id}"
  | unavailable reason => s!"Collaborator unavailable: {reason}"
  | misconfigured reason => s!"Configuration error: {reason}"
  | undecodable mismatch => s!"Serialization error: {mismatch.message}"
  | malformed fault => s!"Serialization error: {fault.message}"
  | internal reason => s!"Internal error: {reason}"

inductive Kind
  | clientError
  | notFound
  | retryable
  | internal
  deriving DecidableEq, Repr

def Kind.name : Kind → String
  | clientError => "client_error"
  | notFound => "not_found"
  | retryable => "retryable"
  | internal => "internal"

def kind : Problem → Kind
  | invalidDefinition _ => .clientError
  | invalidFlow _ => .clientError
  | invalidTransition _ _ => .clientError
  | segmentMismatch _ _ => .clientError
  | undecodable _ => .clientError
  | malformed _ => .clientError
  | notFound _ _ => .notFound
  | unavailable _ => .retryable
  | misconfigured _ => .internal
  | internal _ => .internal

end Problem

end Outreach
