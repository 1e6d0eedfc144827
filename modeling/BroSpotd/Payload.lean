import BroSpotd.Dbuspotcher

/-! What a client reads out of Status and Config replies. The decoders take the arguments by
position and type, as the header documents them, and stand for the client; a reply carries
its value when the decoder gives that value back. -/
namespace BroSpotd

/-- The D-Bus type of an argument, among those that a status or a config is made of. -/
def DBusArg.basic : DBusArg → Option DBusBasic
  | .int32 _ => some .INT32
  | .double _ => some .DOUBLE
  | .boolean _ => some .BOOLEAN
  | _ => none

def statusTypes : List DBusBasic :=
  [.INT32, .INT32, .INT32, .INT32, .INT32, .INT32, .INT32, .DOUBLE, .DOUBLE, .DOUBLE, .DOUBLE]

def configTypes : List DBusBasic :=
  [.DOUBLE, .BOOLEAN, .INT32, .BOOLEAN, .BOOLEAN, .BOOLEAN, .INT32, .DOUBLE]

def decodeStatus : List DBusArg → Option SpotStatus
  | [.int32 n, .int32 ex_up, .int32 ex_down, .int32 Nt_up, .int32 Nt_down, .int32 al_up, .int32 al_down,
      .double t_up, .double t_down, .double z_up, .double z_down] =>
    some ⟨n, ex_up, ex_down, Nt_up, Nt_down, al_up, al_down, t_up, t_down, z_up, z_down⟩
  | _ => none

def decodeConfig : List DBusArg → Option SpotConfig
  | [.double q, .boolean bounded, .int32 max_excess, .boolean alert, .boolean up, .boolean down,
      .int32 n_init, .double level] => some ⟨q, bounded, max_excess, alert, up, down, n_init, level⟩
  | _ => none

/-- The documented number, order and types of arguments, and the value itself. -/
def Carries {α : Type} (types : List DBusBasic) (decode : List DBusArg → Option α) (args : List DBusArg)
    (value : α) : Prop :=
  args.map DBusArg.basic = types.map some ∧ decode args = some value

def CarriesStatus (args : List DBusArg) (ss : SpotStatus) : Prop := Carries statusTypes decodeStatus args ss
def CarriesConfig (args : List DBusArg) (sc : SpotConfig) : Prop := Carries configTypes decodeConfig args sc

theorem decodeStatus_eq_some_iff (args : List DBusArg) (ss : SpotStatus) :
    decodeStatus args = some ss ↔ args = statusArgs ss := by
  constructor
  · intro decoded
    unfold decodeStatus at decoded
    split at decoded
    · cases decoded
      rfl
    · cases decoded
  · rintro rfl
    rfl

theorem decodeConfig_eq_some_iff (args : List DBusArg) (sc : SpotConfig) :
    decodeConfig args = some sc ↔ args = configArgs sc := by
  constructor
  · intro decoded
    unfold decodeConfig at decoded
    split at decoded
    · cases decoded
      rfl
    · cases decoded
  · rintro rfl
    rfl

/-- Where the decoder inverts the documented arguments, nothing else carries the value. -/
theorem carries_iff {α : Type} {types : List DBusBasic} {decode : List DBusArg → Option α}
    {args documented : List DBusArg} {value : α} (inverse : decode args = some value ↔ args = documented)
    (typed : documented.map DBusArg.basic = types.map some) :
    Carries types decode args value ↔ args = documented := by
  rw [Carries, inverse]
  apply and_iff_right_of_imp
  rintro rfl
  exact typed

theorem carriesStatus_iff (args : List DBusArg) (ss : SpotStatus) :
    CarriesStatus args ss ↔ args = statusArgs ss :=
  carries_iff (decodeStatus_eq_some_iff args ss) rfl

theorem carriesConfig_iff (args : List DBusArg) (sc : SpotConfig) :
    CarriesConfig args sc ↔ args = configArgs sc :=
  carries_iff (decodeConfig_eq_some_iff args sc) rfl

/-- For every status and every config, whatever stands beside their fields in memory: both
are carried exactly when the three bytes after each boolean of the config are zero. -/
theorem carried_iff_clean (beside beside' : String → BitVec 24) (ss : SpotStatus) (sc : SpotConfig) :
    CarriesStatus (append_spot_status beside ss) ss ∧ CarriesConfig (append_spot_config beside' sc) sc ↔
      ∀ field ∈ booleanFields, beside' field = 0 := by
  rw [carriesStatus_iff, carriesConfig_iff, append_spot_config_iff]
  exact and_iff_right (append_spot_status_eq beside ss)

/-- A boolean with a set byte beside it is left out of the reply, and what follows moves up.
In the shipped profile `alert`, `up` and `down` stand side by side, then one byte of padding
and the low bytes 0xD0 and 0x07 of `n_init`: the reply has five arguments. -/
theorem shipped_booleans_left_out :
    let beside := fun field => if field = "alert" then 0x000001 else if field = "up" then 0xD00000
      else if field = "down" then 0x07D000 else (0 : BitVec 24)
    append_spot_config beside .shipped = [.double ⟨0x3F1A36E2EB1C432D⟩, .boolean true, .int32 200,
      .int32 2000, .double ⟨0x3FEFAE147AE147AE⟩] ∧
    ¬ CarriesConfig (append_spot_config beside .shipped) .shipped := by
  intro beside
  have appended : append_spot_config beside .shipped = [.double ⟨0x3F1A36E2EB1C432D⟩, .boolean true,
      .int32 200, .int32 2000, .double ⟨0x3FEFAE147AE147AE⟩] := by decide
  refine ⟨appended, ?_⟩
  rw [appended]
  intro carries
  exact absurd (congrArg List.length carries.1) (by decide)

end BroSpotd
