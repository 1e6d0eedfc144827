import BroSpotd.Client
import BroSpotd.Listening
import BroSpotd.Main
import BroSpotd.Roster

/-! The life of the program after the start-up. While it lives, no exception has left
`callback`, so every record so far was read whole and the threads have their serial order
without further assumption. -/
namespace BroSpotd

open Cola (Text)

namespace Program

variable {S R : Type} {spot : Spot S} {bro : Broccoli R} {platform : Platform} {p : Program S R}

/-- What a turn of the program is to the two threads. -/
def taken (p : Program S R) (turn : Turn R) : List (BroSpotd.Turn R) :=
  if p.process.ended.isSome then []
  else match turn, p.point with
    | .input event record, .handling => if p.conn.registered event then [.arrive record] else []
    | .callback, .handling => [.receiver]
    | .message msg, point => if point.listens then [.bus msg] else []
    | _, _ => []

theorem next_ended {ending : Ending} (finished : p.process.ended = some ending) (turn : Turn R) :
    p.next spot bro platform turn = p := by
  simp [next,finished]

/-- What a turn makes of the two threads' process. -/
inductive Stepped (spot : Spot S) (bro : Broccoli R) (platform : Platform) (p : Program S R) (turn : Turn R) :
    Process S R → Prop
  | nothing (silent : p.taken turn = []) : Stepped spot bro platform p turn p.process
  | input (event : Text) (record : R) (told : turn = .input event record) (takes : p.taken turn = [.arrive record]) :
      Stepped spot bro platform p turn (p.process.next spot bro platform (.arrive record))
  | message (msg : DBusMessage) (told : turn = .message msg) (listens : p.point.listens = true)
      (takes : p.taken turn = [.bus msg]) :
      Stepped spot bro platform p turn (p.process.next spot bro platform (.bus msg))
  | callback (told : turn = .callback) (handles : p.point = .handling) (takes : p.taken turn = [.receiver]) :
      Stepped spot bro platform p turn
        { p.process.next spot bro platform .receiver with
          ended := (raised spot bro p.process).map .terminate }
  | failed (failure : BusFailure) (told : turn = .listener (some failure)) (creates : p.point = .listener)
      (silent : p.taken turn = []) :
      Stepped spot bro platform p turn
        { p.process with ended := some (.terminate (.runtime_error failure.what)) }
  | signal (signal : Signal) (told : turn = .signal signal) (silent : p.taken turn = []) :
      Stepped spot bro platform p turn { p.process with ended := some signal.ending }

theorem next_stepped (spot : Spot S) (bro : Broccoli R) (platform : Platform) (running : p.process.ended = none)
    (turn : Turn R) : Stepped spot bro platform p turn (p.next spot bro platform turn).process := by
  obtain ⟨conn,point,⟨receiver,dbus,ended⟩⟩ := p
  cases running
  cases turn with
  | alive answer =>
    cases point <;> cases answer <;> exact .nothing rfl
  | listener failure =>
    cases failure with
    | none => cases point <;> exact .nothing rfl
    | some failure =>
      cases point with
      | listener => exact .failed failure rfl rfl rfl
      | _ => exact .nothing rfl
  | input event record =>
    cases point with
    | handling =>
      by_cases registered : conn.registered event = true
      · simp only [next, registered, if_true]
        exact .input event record rfl (by simp [taken,registered])
      · simp only [next, registered]
        exact .nothing (by simp [taken,registered])
    | _ => exact .nothing rfl
  | callback =>
    cases point with
    | handling => exact .callback rfl rfl rfl
    | _ => exact .nothing rfl
  | handled =>
    cases point with
    | handling =>
      obtain ⟨daemon,loop⟩ := receiver
      cases loop <;> exact .nothing rfl
    | _ => exact .nothing rfl
  | message msg =>
    cases listens : point.listens with
    | true =>
      simp only [next, listens, if_true]
      exact .message msg rfl listens (by simp [taken,listens])
    | false =>
      simp only [next, listens]
      exact .nothing (by simp [taken,listens])
  | signal signal => exact .signal signal rfl (by simp [taken])

theorem run_ended {ending : Ending} (finished : p.process.ended = some ending) (all : List (Turn R)) :
    p.run spot bro platform all = p :=
  Runs.invariant _ (fun q => q = p) (fun _ turn same => by rw [same]; exact next_ended finished turn) p all rfl

theorem next_message (live : p.process.ended = none) (listens : p.point.listens = true) (msg : DBusMessage) :
    (p.next spot bro platform (.message msg)).process = p.process.next spot bro platform (.bus msg) := by
  simp [next,live,listens]

/-- The reset that a turn brings, if any, spares the node that the loop points at. -/
def Spares (p : Program S R) (turn : Turn R) : Prop := ∀ t ∈ p.taken turn, p.process.Spares t

instance decidableSpares (p : Program S R) (turn : Turn R) : Decidable (p.Spares turn) :=
  inferInstanceAs (Decidable (∀ t ∈ p.taken turn, p.process.Spares t))

/-- The turns of the two threads in a run of the program. -/
def turns (spot : Spot S) (bro : Broccoli R) (platform : Platform) (p : Program S R) (all : List (Turn R)) :
    List (BroSpotd.Turn R) := Runs.output (next spot bro platform) taken p all

end Program

end BroSpotd
