import BroSpotd.Library.Binary64

/-! Broccoli as the daemon uses it: records read by field name, and a heap of events
addressed by pointer. The library is outside the repository. Its record lookup is a
parameter with the documented value-result contract as fields; the event calls act on
an explicit heap and leave their pointers in `calls`. -/
namespace BroSpotd

/-- A C++ `double`. -/
abbrev Double := Binary64

/-- The exceptions the daemon's own code raises or meets, with their texts. -/
inductive Exn where
  | runtime_error (what : String)
  | invalid_argument (what : String)
  | overflow_error (what : String)
  | failure (what : String)
  | bad_alloc
  deriving DecidableEq, Repr

/-- `ios_base::failure(message)`: its `what()` ends in the text of the error code. -/
def ios_base_failure (message : String) : Exn := .failure (message ++ ": iostream error")

def BRO_TYPE_UNKNOWN : Int32 := 0
def BRO_TYPE_INT : Int32 := 2
def BRO_TYPE_COUNT : Int32 := 3
def BRO_TYPE_COUNTER : Int32 := 4
def BRO_TYPE_DOUBLE : Int32 := 5
def BRO_TYPE_TIME : Int32 := 6
def BRO_TYPE_INTERVAL : Int32 := 7

/-- A record field: its actual type and the 64 bits its value pointer leads to. -/
structure BroVal where
  tag : Int32
  payload : BitVec 64
  deriving DecidableEq, Repr

/-- Records of type `R`. The lookup returns the pointed bits, or none for NULL, together
with what it wrote through `type`; nothing is promised about `type` after NULL.
`event_allocated n` is the outcome of the n-th `bro_event_new` of the process. -/
structure Broccoli (R : Type) where
  field : R → String → Option BroVal
  bro_record_get_named_val : R → String → Int32 → Option (BitVec 64) × Int32
  event_allocated : Nat → Bool
  absent : ∀ record name type, field record name = none →
    (bro_record_get_named_val record name type).1 = none
  mismatch : ∀ record name type value, field record name = some value →
    type ≠ BRO_TYPE_UNKNOWN → value.tag ≠ type → (bro_record_get_named_val record name type).1 = none
  present : ∀ record name type value, field record name = some value →
    (type = BRO_TYPE_UNKNOWN ∨ value.tag = type) →
    bro_record_get_named_val record name type = (some value.payload, value.tag)

/-- A successful lookup returns the field's bits and sets `type` to the field's type. -/
theorem Broccoli.lookup_some {R : Type} (bro : Broccoli R) {record : R} {name : String}
    {type : Int32} (succeeds : (bro.bro_record_get_named_val record name type).1.isSome = true) :
    ∃ value, bro.field record name = some value ∧
      (type = BRO_TYPE_UNKNOWN ∨ value.tag = type) ∧
      bro.bro_record_get_named_val record name type = (some value.payload, value.tag) := by
  cases stored : bro.field record name with
  | none => simp [bro.absent record name type stored] at succeeds
  | some value =>
    by_cases agrees : type = BRO_TYPE_UNKNOWN ∨ value.tag = type
    · exact ⟨value,rfl,agrees,bro.present record name type value stored agrees⟩
    · obtain ⟨known,differs⟩ := not_or.mp agrees
      simp [bro.mismatch record name type value stored known differs] at succeeds

/-- A record given as its fields, looked up as documented; `type` keeps its value on NULL. -/
def Broccoli.ofFields (event_allocated : Nat → Bool) : Broccoli (List (String × BroVal)) where
  field := fun record name => record.lookup name
  bro_record_get_named_val := fun record name type =>
    match record.lookup name with
    | none => (none, type)
    | some value =>
      if type = BRO_TYPE_UNKNOWN ∨ value.tag = type then (some value.payload, value.tag)
      else (none, type)
  event_allocated := event_allocated
  absent := by intro record name type stored; simp [stored]
  mismatch := by intro record name type value stored known differs; simp [stored,known,differs]
  present := by intro record name type value stored agrees; simp [stored,agrees]

/-- A value added to an event: `bro_event_add_val` copies what it is given. -/
inductive EventVal where
  | int (value : Int32)
  | string (value : String)
  | double (value : Double)
  deriving DecidableEq, Repr

structure BroEvent where
  name : String
  vals : List EventVal
  deriving DecidableEq, Repr

/-- The address of an event; none is the null pointer. -/
abbrev EventPtr := Option Nat

/-- The calls that give, send or take back an event, with the pointer each one carried. -/
inductive Call where
  | new (event : Nat)
  | send (event : EventPtr)
  | free (event : EventPtr)
  deriving DecidableEq, Repr

/-- Every event ever allocated stands at its address in `events`; `live` are those not
freed yet, `wire` what Bro has been sent. -/
structure EventHeap where
  events : List BroEvent
  live : List Nat
  attempts : Nat
  calls : List Call
  wire : List BroEvent
  deriving DecidableEq, Repr

namespace EventHeap

def empty : EventHeap := ⟨[], [], 0, [], []⟩

def bro_event_new (allocated : Nat → Bool) (name : String) (heap : EventHeap) : EventPtr × EventHeap :=
  if allocated heap.attempts then
    (some heap.events.length,
      { heap with
        events := heap.events ++ [⟨name, []⟩]
        live := heap.live ++ [heap.events.length]
        attempts := heap.attempts + 1
        calls := heap.calls ++ [.new heap.events.length] })
  else (none, { heap with attempts := heap.attempts + 1 })

/-- Writing through the pointer of the event allocated last. -/
@[simp] theorem modify_last (events : List BroEvent) (event : BroEvent) (write : BroEvent → BroEvent) :
    (events ++ [event]).modify events.length write = events ++ [write event] := by
  induction events with
  | nil => rfl
  | cons first rest ih => simpa using ih

def bro_event_add_val (event : Nat) (value : EventVal) (heap : EventHeap) : EventHeap :=
  { heap with events := heap.events.modify event (fun e => { e with vals := e.vals ++ [value] }) }

/-- Bro is sent the event behind the pointer; a null pointer sends nothing. -/
def bro_event_send (event : EventPtr) (heap : EventHeap) : EventHeap :=
  { heap with
    calls := heap.calls ++ [.send event]
    wire := heap.wire ++ (event.bind (heap.events[·]?)).toList }

/-- A null pointer frees nothing. -/
def bro_event_free (event : EventPtr) (heap : EventHeap) : EventHeap :=
  { heap with
    calls := heap.calls ++ [.free event]
    live := match event with | some address => heap.live.erase address | none => heap.live }

end EventHeap

end BroSpotd
