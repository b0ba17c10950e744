/-
# SqlDriver.Call.Environment -- opening drivers and connecting

The prefix of an environment's errors comes from its settings and goes on to its
connections and their cursors.
-/
import SqlDriver.Call.Basic
import SqlDriver.Config.Decode

namespace SqlDriver.Call

set_option autoImplicit false

/-- Opens a driver with settings; zero if there is no such driver. -/
def openDriver (driver : String) (config : Config) : Call Int64 := do
  match ← perform (Environment.openNamed driver config) with
  | .ok e =>
      let h ← get
      let (handle, environments) := h.environments.insert e config.errorPrefix
      set { h with environments }
      tell (.environmentOpened driver handle)
      return Int64.ofNat handle
  | .error e =>
      raise e config.errorPrefix
      return 0

def openDefault (driver : Address) : Call Int64 := do
  openDriver (← textAt driver) {}

/-- Opens the driver of a name with the settings in a file. -/
def openWithConfig (driver path : Address) : Call Int64 := do
  let driver ← textAt driver
  let path ← textAt path
  match Config.ofFile path ((← get).state.world.disk.readText path) with
  | .ok config => openDriver driver config
  | .error e =>
      raise e defaultPrefix
      return 0

/-- The driver of a name in words; no object if there is none. -/
def driverInfo (driver : Address) : Call Address := do
  let driver ← textAt driver
  match DriverInfo.find? driver with
  | some d => newText d.summary
  | none =>
      raise (.unknownDriver driver) defaultPrefix
      return 0

/-- Connects to a database.  A timeout below zero is none. -/
def connect (environment : Int64) (source : Address) (timeout : Int64) : Call Ended :=
  withEntry Host.environments environment refused fun e => do
    let source ← textAt source
    let timeout := if timeout.toInt < 0 then none else some timeout.toInt.toNat
    match ← perform (Environment.connect e.object source timeout) with
    | .ok (.connection c) =>
        let h ← get
        let (handle, connections) := h.connections.insert c e.errorPrefix
        set { h with connections }
        return ⟨.ok, Int64.ofNat handle⟩
    | .ok .crashed => return refused
    | .error error => report error e.errorPrefix

def closeEnvironment (environment : Int64) : Call Int64 :=
  withEntry Host.environments environment 0 fun e =>
    orRaise e (Environment.close e.object) 0 fun closed => return flag closed

/-- Gives up the handle of an environment. -/
def releaseEnvironment (environment : Int64) : Call Int64 := do
  let h ← get
  let (object, environments) := h.environments.remove environment
  set { h with environments }
  return flag object.isSome

end SqlDriver.Call
