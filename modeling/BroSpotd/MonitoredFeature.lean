import BroSpotd.Broccoli

/-! `MonitoredFeature`: one SPOT instance, its feature name and Broccoli type, and what
`process` does with one observation. libspot is a parameter: a state built from a
config, stepped on doubles, with its probabilities, status and config read off it. -/
namespace BroSpotd

/-- libspot's `SpotConfig`; its integers are 4-byte ints. -/
structure SpotConfig where
  q : Double
  bounded : Bool
  max_excess : Int32
  alert : Bool
  up : Bool
  down : Bool
  n_init : Int32
  level : Double
  deriving DecidableEq, Repr

structure SpotStatus where
  n : Int32
  ex_up : Int32
  ex_down : Int32
  Nt_up : Int32
  Nt_down : Int32
  al_up : Int32
  al_down : Int32
  t_up : Double
  t_down : Double
  z_up : Double
  z_down : Double
  deriving DecidableEq, Repr

structure Spot (S : Type) where
  new : SpotConfig → S
  step : S → Double → S × Int32
  up_probability : S → Double → Double
  down_probability : S → Double → Double
  status : S → SpotStatus
  config : S → SpotConfig

/-- libspot reports the config an instance was built from, whatever it has observed. -/
structure Spot.KeepsConfig {S : Type} (spot : Spot S) : Prop where
  new : ∀ config, spot.config (spot.new config) = config
  step : ∀ state data, spot.config (spot.step state data).1 = spot.config state

/-- An instance that stores what it observes and returns one code for it: 3 while it
calibrates, 1 for an upper anomaly. -/
def Spot.returning (code : Int32) : Spot (SpotConfig × List Double) where
  new := fun config => (config, [])
  step := fun state data => ((state.1, state.2 ++ [data]), code)
  up_probability := fun _ _ => ⟨0x3F1A36E2EB1C432D⟩
  down_probability := fun _ _ => ⟨0x3F1A36E2EB1C432D⟩
  status := fun state => ⟨.ofNat state.2.length, 0, 0, 0, 0, 0, 0, ⟨0⟩, ⟨0⟩, ⟨0⟩, ⟨0⟩⟩
  config := fun state => state.1

theorem Spot.returning_keepsConfig (code : Int32) : (Spot.returning code).KeepsConfig :=
  ⟨fun _ => rfl, fun _ _ => rfl⟩

/-- The profile of bro-spotd.ini's [default] section. -/
def SpotConfig.shipped : SpotConfig where
  q := ⟨0x3F1A36E2EB1C432D⟩
  bounded := true
  max_excess := 200
  alert := true
  up := true
  down := false
  n_init := 2000
  level := ⟨0x3FEFAE147AE147AE⟩

/-- C's `abs` on a 32-bit int. -/
def abs (value : Int32) : Int32 := if value < 0 then -value else value

theorem abs_eq_one_iff (value : Int32) : abs value = 1 ↔ value = 1 ∨ value = -1 := by
  unfold abs
  split
  · constructor
    · intro negated
      exact .inr (by rw [← negated, Int32.neg_neg])
    · rintro (rfl | rfl)
      · contradiction
      · decide
  · constructor
    · exact Or.inl
    · rintro (rfl | rfl)
      · rfl
      · contradiction

structure MonitoredFeature (S : Type) where
  _spot : S
  _name : String
  _bro_type : Int32
  deriving DecidableEq, Repr

/-- What the statics and the event calls of the process have come to. -/
structure World where
  req_id : Int32
  heap : EventHeap
  deriving DecidableEq, Repr

def World.initial : World := ⟨0, .empty⟩

namespace MonitoredFeature

variable {S R : Type}

def new (spot : Spot S) (name : String) (type : Int32) (config : SpotConfig) : MonitoredFeature S :=
  ⟨spot.new config, name, type⟩

/-- `out_event` is a pointer passed by value: `out_event = ev` ends with the call, so the
event's address reaches nobody. -/
def process (spot : Spot S) (bro : Broccoli R) (f : MonitoredFeature S) (data : Double)
    (_out_event : EventPtr) (w : World) : Except Exn Bool × MonitoredFeature S × World :=
  let stepped := spot.step f._spot data
  let f := { f with _spot := stepped.1 }
  let spot_result := stepped.2
  if abs spot_result = 1 then
    match w.heap.bro_event_new bro.event_allocated "spot_anomaly" with
    | (none, heap) => (.error (.runtime_error "Could not allocate new event"), f, { w with heap := heap })
    | (some ev, heap) =>
      let heap := heap.bro_event_add_val ev (.int w.req_id)
      let heap := heap.bro_event_add_val ev (.string f._name)
      let p := if spot_result = 1 then spot.up_probability f._spot data
        else spot.down_probability f._spot data
      let heap := heap.bro_event_add_val ev (.double p)
      (.ok true, f, { req_id := w.req_id + 1, heap := heap })
  else (.ok false, f, w)

def status (spot : Spot S) (f : MonitoredFeature S) : SpotStatus := spot.status f._spot
def config (spot : Spot S) (f : MonitoredFeature S) : SpotConfig := spot.config f._spot

end MonitoredFeature

end BroSpotd
