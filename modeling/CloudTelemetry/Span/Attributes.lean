import CloudTelemetry.Span.Data
import CloudTelemetry.Span.Truncated

/-!
# Attribute maps

`AttributeMap.build`: the attributes of a span, an event or a link in the form that is sent. Keys
of the HTTP conventions take the cloud's names; a value without a form, a key that is too long and
everything beyond the limit is dropped and counted. The attribute that names the agent is added on
top of the limit. A value that is to be sent as text but has none that can be sent is refused, and
the map with it, whether or not there is room for the value.
-/

namespace CloudTelemetry

inductive AttributeValue where
  | bool (b : Bool)
  | int (n : Int)
  | text (t : Truncated)
deriving DecidableEq, Repr

/-! ### Limits -/

def displayNameLimit : Nat := 128

def attributeKeyLimit : Nat := 128

/-- Bytes of an attribute's text, and of the name of an event. -/
def attributeTextLimit : Nat := 256

def spanAttributeLimit : Nat := 32

def eventAttributeLimit : Nat := 4

def linkAttributeLimit : Nat := 32

def eventLimit : Nat := 32

def linkLimit : Nat := 128

/-! ### Names -/

def agentKey : String := "g.co/agent"

def libraryVersion : String := "0.1.0"

def agentText (sdkVersion : String) : String :=
  "opentelemetry-python " ++ sdkVersion ++ "; gcpotel " ++ libraryVersion

/-- What sends the spans, by the version of its SDK. Its name is sent whole. -/
structure Agent where
  sdkVersion : String
  fits : (agentText sdkVersion).utf8ByteSize ≤ attributeTextLimit

def Agent.text (agent : Agent) : String := agentText agent.sdkVersion

/-- The cloud's names for attributes of the HTTP conventions. -/
def wellKnownKeys : List (String × String) := [
  ("http.host", "/http/host"),
  ("http.method", "/http/method"),
  ("http.target", "/http/path"),
  ("http.status_code", "/http/status_code"),
  ("http.url", "/http/url"),
  ("http.user_agent", "/http/user_agent"),
  ("http.route", "/http/route"),
  ("http.request_content_length", "/http/request/size"),
  ("http.response_content_length", "/http/response/size")]

def sentKey (key : String) : String := (wellKnownKeys.lookup key).getD key

/-! ### Values -/

namespace AttributeValue

def ofText (s : String) : AttributeValue := .text (Truncated.cut s attributeTextLimit)

/-- The form of a value. Sequences are joined with commas, and what has no form of its own is
sent as text; nothing has no form. -/
def ofValue? : Value → Option AttributeValue
  | .null => none
  | .bool b => some (.bool b)
  | .int n => some (if fitsInt64 n then .int n else ofText (Value.int n).shown)
  | .list items => some (ofText (",".intercalate (items.map Value.shown)))
  | .tuple items => some (ofText (",".intercalate (items.map Value.shown)))
  | value => some (ofText value.shown)

/-- Whether the text of the value holds half of a character. Those of an item stand in the text of
a sequence; deeper inside they are escaped. -/
def hasHalves : Value → Bool
  | .broken _ => true
  | .list items => items.any Value.isBroken
  | .tuple items => items.any Value.isBroken
  | _ => false

/-- Whether the text of the value can be sent: not too much of it is cut. -/
def isCountable (v : Value) : Bool :=
  match ofValue? v with
  | some (.text t) => t.isCountable
  | _ => true

/-- Refuses a value that is sent as text and has none that can be sent. -/
def check (v : Value) : Except Failure Unit := do
  v.checkWritable
  if hasHalves v then fails .halfCharacter
  else if isCountable v then .ok ()
  else fails .badValue

def form (v : Value) : Except Failure (Option AttributeValue) := do
  check v
  return ofValue? v

end AttributeValue

/-! ### Maps -/

/-- Attributes in the form that is sent, and how many were dropped. -/
structure AttributeMap where
  attributes : Fields AttributeValue
  dropped : Int

namespace AttributeMap

/-- The form of an attribute that may be sent at all, under the name that it takes. -/
def admissible? (entry : String × Value) : Option (String × AttributeValue) :=
  let key := sentKey entry.1
  match AttributeValue.ofValue? entry.2 with
  | some value => if Text.size key.toList ≤ attributeKeyLimit then some (key, value) else none
  | none => none

/-- Takes in one attribute while there is room, else counts it. -/
def add (limit : Int) (done : AttributeMap) (entry : String × Value) : AttributeMap :=
  match admissible? entry with
  | some (key, value) =>
    if done.attributes.size < limit then
      { done with attributes := done.attributes.insert key value }
    else { done with dropped := done.dropped + 1 }
  | none => { done with dropped := done.dropped + 1 }

def collect (limit : Int) (entries : List (String × Value)) : AttributeMap :=
  entries.foldl (add limit) ⟨.empty, 0⟩

def withAgent (agent : Option Agent) (done : AttributeMap) : AttributeMap :=
  match agent with
  | some agent => { done with attributes := done.attributes.insert agentKey (.ofText agent.text) }
  | none => done

/-- The map of the recorded attributes and then the extra ones. The count of dropped attributes
includes the recorder's and must fit in 32 bits. -/
def build (limit : Int) (recorded : RecordedAttributes) (extra : Fields Value)
    (agent : Option Agent) : Except Failure AttributeMap :=
  let own := match recorded.kept with
    | some kept => kept.entries
    | none => []
  let entries := own ++ extra.entries
  entries.forM (fun entry => AttributeValue.check entry.2) >>= fun _ =>
    let done := (collect limit entries).withAgent agent
    let dropped := done.dropped + recorded.dropped
    if fitsInt32 dropped then .ok { done with dropped := dropped } else fails .badValue

end AttributeMap

end CloudTelemetry
