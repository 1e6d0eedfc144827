import BroSpotd.Config
import BroSpotd.Serial
import BroSpotd.Settings

/-! `main` from its arguments on. The start-up raises at the first thing that fails. Then the
main thread connects, creates the listener, takes records while the connection lives, and
waits for the bus thread, which never returns. A signal can end it at any point. -/
namespace BroSpotd

open Cola (Text)

/-- What leaves the start-up as an exception. -/
inductive StartError where
  | cola (e : Cola.Error)
  | exn (e : Exn)
  | bro_init_failure (what : String)
  deriving DecidableEq, Repr

/-- The connection: `dst` is what the Broccoli pointer is connected to, `registry` the events
that `callback` is registered for. -/
structure BroConnection where
  _ip : Text
  _port : Int32
  dst : Text
  registry : List Text
  deriving DecidableEq, Repr

namespace BroConnection

def address (ip : Text) (port : Int32) : Text := ip ++ ":".toList ++ (toString port.toInt).toList

/-- `opens` is whether `bro_conn_new_str` returns a pointer. -/
def new (opens : Text → Bool) (ip : Text) (port : Int32) : Except StartError BroConnection :=
  if opens (address ip port) then .ok ⟨ip, port, address ip port, []⟩
  else .error (.bro_init_failure "The bro connection pointer is null")

def add_event (conn : BroConnection) (event_name : Text) : BroConnection :=
  { conn with registry := conn.registry ++ [event_name] }

/-- An event of this name is handed to `callback`. -/
def registered (conn : BroConnection) (event_name : Text) : Bool := conn.registry.any (fun name => name = event_name)

end BroConnection

/-- Where the main thread is. In `connect` it asks whether Bro is there until it is, and once
more; in `run` it asks before each round of input. -/
inductive Point where
  | connecting
  | connected
  | listener
  | running
  | handling
  | joining
  deriving DecidableEq, Repr

/-- The bus thread exists. -/
def Point.listens : Point → Bool
  | .running | .handling | .joining => true
  | _ => false

structure Program (S R : Type) where
  conn : BroConnection
  point : Point
  process : Process S R

/-- The texts of the constructor of `Dbuspotcher`. -/
inductive BusFailure where
  | connection (message : String)
  | name (message : String)
  deriving DecidableEq, Repr

def BusFailure.what : BusFailure → String
  | .connection message => "Connection error (" ++ message ++ ")\n"
  | .name message => "Name error (" ++ message ++ ")\n"

/-- The signals that `main` installs a handler for. -/
inductive Signal where
  | SIGHUP
  | SIGINT
  | SIGTERM
  deriving DecidableEq, Repr

def sigterm_handler (signal : Int32) : Ending := .exit signal

def sighup_handler (signal : Int32) : Ending := .exit signal

namespace Signal

def number : Signal → Int32
  | .SIGHUP => 1
  | .SIGINT => 2
  | .SIGTERM => 15

/-- What the handler that is installed for a signal does with it. -/
def handler : Signal → Int32 → Ending
  | .SIGTERM => sigterm_handler
  | .SIGHUP => sighup_handler
  | .SIGINT => sighup_handler

def ending (signal : Signal) : Ending := signal.handler signal.number

end Signal

namespace Program

variable {S R : Type}

/-- What a thread of the program does next, with what it is told, or a signal that comes. -/
inductive Turn (R : Type) where
  | alive (answer : Bool)
  | listener (failure : Option BusFailure)
  | input (event : Text) (record : R)
  | callback
  | handled
  | message (msg : DBusMessage)
  | signal (signal : Signal)

/-- The exception that the next step of `callback` lets out. Nothing catches it on the way. -/
def raised (spot : Spot S) (bro : Broccoli R) (p : Process S R) : Option Exn :=
  match p.receiver.loop with
  | .body record it => (p.dsp._features.get? it).bind (fun node =>
      match (visit spot bro record none node.value p.receiver.daemon.world).1 with
      | .error e => some e
      | .ok () => none)
  | _ => none

/-- The answer of `connect` is not looked at, and a connection that is lost is not taken up
again. A turn that is not the thread's to take changes nothing; a signal ends the process
whatever its threads are at. -/
def next (spot : Spot S) (bro : Broccoli R) (platform : Platform) (p : Program S R) (turn : Turn R) :
    Program S R :=
  if p.process.ended.isSome then p
  else match turn, p.point with
    | .alive answer, .connecting => if answer then { p with point := .connected } else p
    | .alive _, .connected => { p with point := .listener }
    | .listener none, .listener => { p with point := .running }
    | .listener (some failure), .listener =>
      { p with process := { p.process with ended := some (.terminate (.runtime_error failure.what)) } }
    | .alive answer, .running => { p with point := if answer then .handling else .joining }
    | .input event record, .handling =>
      if p.conn.registered event then
        { p with process := p.process.next spot bro platform (.arrive record) }
      else p
    | .callback, .handling =>
      let process := p.process.next spot bro platform .receiver
      { p with process := { process with ended := (raised spot bro p.process).map .terminate } }
    | .handled, .handling =>
      match p.process.receiver.loop with
      | .idle => { p with point := .running }
      | _ => p
    | .message msg, point =>
      if point.listens then { p with process := p.process.next spot bro platform (.bus msg) } else p
    | .signal signal, _ => { p with process := { p.process with ended := some signal.ending } }
    | _, _ => p

def run (spot : Spot S) (bro : Broccoli R) (platform : Platform) (p : Program S R) (turns : List (Turn R)) :
    Program S R := Runs.run (next spot bro platform) p turns

/-- `main` up to `connect`. -/
def start_up (real : Text → Option Double) (parser : IniParser) (spot : Spot S)
    (files : Text → Option Dictionary) (opens : Text → Bool) (argv : List Text) :
    Except StartError (Program S R) := do
  let s ← (settings real argv).mapError .cola
  let dsp ← (Dispotcher.load parser spot (files s.ini_file)).mapError .exn
  let conn ← BroConnection.new opens s.ip s.port
  return ⟨conn.add_event s.event, .connecting, .start ⟨0, dsp, .initial⟩⟩

section StartUp

variable (real : Text → Option Double) (parser : IniParser) (spot : Spot S)
  (files : Text → Option Dictionary) (opens : Text → Bool) (argv : List Text)

/-- The program that some settings and a loaded file come to. -/
def ready (s : Settings) (ini : Dictionary) : Program S R where
  conn := ⟨s.ip, s.port, BroConnection.address s.ip s.port, [s.event]⟩
  point := .connecting
  process := .start (.start spot (loadEntries parser ini))

/-- What raises after the settings are known. -/
inductive Fails (s : Settings) : StartError → Prop
  | file (missing : files s.ini_file = none) : Fails s (.exn (ios_base_failure "The config file has not been loaded"))
  | pointer (ini : Dictionary) (loaded : files s.ini_file = some ini)
      (null : opens (BroConnection.address s.ip s.port) = false) :
      Fails s (.bro_init_failure "The bro connection pointer is null")

/-- With the settings known, the file and then the pointer decide. -/
theorem start_up_cases {s : Settings} (answered : settings real argv = .ok s) :
    (∃ ini, files s.ini_file = some ini ∧ opens (BroConnection.address s.ip s.port) = true ∧
      start_up real parser spot files opens argv = .ok (ready (R := R) parser spot s ini)) ∨
    ∃ e, Fails files opens s e ∧
      start_up real parser spot files opens argv = (.error e : Except StartError (Program S R)) := by
  cases loaded : files s.ini_file with
  | none =>
    refine .inr ⟨_, .file loaded, ?_⟩
    simp only [start_up, answered, Except.mapError, bind, Except.bind, loaded, Dispotcher.load]
  | some ini =>
    cases pointer : opens (BroConnection.address s.ip s.port) with
    | false =>
      refine .inr ⟨_, .pointer ini loaded pointer, ?_⟩
      simp [start_up,answered,Except.mapError,bind,Except.bind,loaded,Dispotcher.load,BroConnection.new,pointer]
    | true =>
      refine .inl ⟨ini, rfl, rfl, ?_⟩
      simp only [start_up, answered, Except.mapError, bind, Except.bind, loaded, Dispotcher.load,
        BroConnection.new, pointer, if_true]
      rfl

theorem start_up_stops {e : Cola.Error} (raised : settings real argv = .error e) :
    (start_up real parser spot files opens argv : Except StartError (Program S R)) = .error (.cola e) := by
  simp only [start_up, raised, Except.mapError]
  rfl

/-- Nothing fails twice over. -/
theorem fails_unique {s : Settings} {e e' : StartError} (one : Fails files opens s e)
    (other : Fails files opens s e') : e = e' := by
  cases one with
  | file missing => cases other with
    | file => rfl
    | pointer ini loaded null => rw [missing] at loaded; cases loaded
  | pointer ini loaded null => cases other with
    | file missing => rw [missing] at loaded; cases loaded
    | pointer => rfl

theorem start_up_ok_iff (program : Program S R) : start_up real parser spot files opens argv = .ok program ↔
    ∃ s ini, settings real argv = .ok s ∧ files s.ini_file = some ini ∧
      opens (BroConnection.address s.ip s.port) = true ∧ program = ready parser spot s ini := by
  constructor
  · intro started
    cases answer : settings real argv with
    | error e =>
      rw [start_up_stops real parser spot files opens argv answer] at started
      cases started
    | ok s =>
      rcases start_up_cases (R := R) real parser spot files opens argv answer with
        ⟨ini,loaded,opened,ran⟩ | ⟨e,_,ran⟩
      · exact ⟨s, ini, rfl, loaded, opened, Except.ok.inj (started.symm.trans ran)⟩
      · cases started.symm.trans ran
  · rintro ⟨s,ini,answer,loaded,opened,rfl⟩
    rcases start_up_cases (R := R) real parser spot files opens argv answer with
      ⟨ini',loaded',_,ran⟩ | ⟨e,fails,_⟩
    · obtain rfl : ini = ini' := Option.some.inj (loaded.symm.trans loaded')
      exact ran
    · cases fails with
      | file missing => rw [loaded] at missing; cases missing
      | pointer ini' loaded' null => rw [opened] at null; cases null

theorem start_up_error_iff (e : StartError) :
    start_up real parser spot files opens argv = (.error e : Except StartError (Program S R)) ↔
      (∃ e', settings real argv = .error e' ∧ e = .cola e') ∨
      ∃ s, settings real argv = .ok s ∧ Fails files opens s e := by
  cases answer : settings real argv with
  | error e' =>
    rw [start_up_stops real parser spot files opens argv answer]
    constructor
    · intro raised
      exact .inl ⟨e', rfl, (Except.error.inj raised).symm⟩
    · rintro (⟨_,same,rfl⟩ | ⟨_,answered,_⟩)
      · rw [Except.error.inj same]
      · cases answered
  | ok s =>
    rcases start_up_cases (R := R) real parser spot files opens argv answer with
      ⟨ini,loaded,opened,ran⟩ | ⟨e',fails,ran⟩
    · refine iff_of_false (fun raised => by cases raised.symm.trans ran) ?_
      rintro (⟨_,answered,_⟩ | ⟨_,answered,fails⟩)
      · cases answered
      · cases answered
        cases fails with
        | file missing => rw [loaded] at missing; cases missing
        | pointer ini' loaded' null => rw [opened] at null; cases null
    · rw [ran]
      constructor
      · intro raised
        exact .inr ⟨s, rfl, Except.error.inj raised ▸ fails⟩
      · rintro (⟨_,answered,_⟩ | ⟨_,answered,fails'⟩)
        · cases answered
        · cases answered
          rw [fails_unique files opens fails fails']

end StartUp

end Program

open Program Cola in
/-- For every command line, every config file and every library: the program gets to connect
exactly when its line is accepted, the file that the line names is loaded and the pointer for
`ip:port` is not null; it monitors then what the file configures and listens to one event. It
raises else, at the first of the three that fails. -/
theorem start_up_of_command_line {S R : Type} (real : Text → Option Double) (parser : IniParser) (spot : Spot S)
    (files : Text → Option Dictionary) (opens : Text → Bool) (argv : List Text) :
    (∀ program : Program S R, start_up real parser spot files opens argv = .ok program ↔
      ∃ (line : Line) (ini : Dictionary), line.Valid real Parser.main.signature ∧ argv.drop 1 = line.spell ∧
        files (Settings.of (line.account Parser.main.signature)).ini_file = some ini ∧
        opens (BroConnection.address (Settings.of (line.account Parser.main.signature)).ip
          (Settings.of (line.account Parser.main.signature)).port) = true ∧
        program = ready parser spot (.of (line.account Parser.main.signature)) ini) ∧
    ∀ e, start_up real parser spot files opens argv = (.error e : Except StartError (Program S R)) ↔
      (∃ e' account, StopsAt real Parser.main.signature (argv.drop 1) e' account ∧ e = .cola e') ∨
      ∃ line : Line, line.Valid real Parser.main.signature ∧ argv.drop 1 = line.spell ∧
        Fails files opens (.of (line.account Parser.main.signature)) e := by
  constructor
  · intro program
    rw [start_up_ok_iff]
    constructor
    · rintro ⟨s,ini,answer,loaded,opened,rfl⟩
      obtain ⟨line,valid,spelled,rfl⟩ := (settings_ok_iff real argv s).mp answer
      exact ⟨line, ini, valid, spelled, loaded, opened, rfl⟩
    · rintro ⟨line,ini,valid,spelled,loaded,opened,rfl⟩
      exact ⟨_, ini, (settings_ok_iff real argv _).mpr ⟨line, valid, spelled, rfl⟩, loaded, opened, rfl⟩
  · intro e
    rw [start_up_error_iff]
    refine or_congr ?_ ?_
    · constructor
      · rintro ⟨e',answer,rfl⟩
        obtain ⟨account,stops⟩ := (settings_error_iff real argv e').mp answer
        exact ⟨e', account, stops, rfl⟩
      · rintro ⟨e',account,stops,rfl⟩
        exact ⟨e', (settings_error_iff real argv e').mpr ⟨account,stops⟩, rfl⟩
    · constructor
      · rintro ⟨s,answer,fails⟩
        obtain ⟨line,valid,spelled,rfl⟩ := (settings_ok_iff real argv s).mp answer
        exact ⟨line, valid, spelled, fails⟩
      · rintro ⟨line,valid,spelled,fails⟩
        exact ⟨_, (settings_ok_iff real argv _).mpr ⟨line, valid, spelled, rfl⟩, fails⟩

end BroSpotd
