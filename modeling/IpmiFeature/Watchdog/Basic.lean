import IpmiFeature.CommandLib.Basic

/-!
# The watchdog driver

`IpmiWatchdogLib.c`, `WatchdogPei.c` and `WatchdogDxe.c` over a base library.  The DXE driver reads
the policy at its entry and uses it in the callbacks of two events; other components set the policy
as they like (`Happening`).  What the locals of a function hold at first is the parameter `stack`.
The build has no `ASSERT`s: an error of `GetPolicy` is returned.
-/

namespace IpmiFeature

open Interaction BaseLib CommandLib

namespace Watchdog

/-! ### Constants -/

/-- `IPMI_WATCHDOG_TIMER_BIOS_FRB2`. -/
def timerBiosFrb2 : UInt8 := 0x01

/-- `IPMI_WATCHDOG_TIMER_OS_LOADER`. -/
def timerOsLoader : UInt8 := 0x03

/-- `IPMI_WATCHDOG_TIMER_EXPIRATION_FLAG_BIOS_FRB2`. -/
def expirationFlagBiosFrb2 : UInt8 := 0x02

/-- `IPMI_WATCHDOG_TIMER_EXPIRATION_FLAG_OS_LOAD`. -/
def expirationFlagOsLoad : UInt8 := 0x08

/-! ### The library -/

section

variable (stack : Memory UInt8)

/-- The locals of a caller of the command library, with a request in one of them. -/
def locals (request : List UInt8) : Caller :=
  ⟨false, stack.store 0 request, 0, stack, 0, stack, stack⟩

/-- The bytes of `IPMI_SET_WATCHDOG_TIMER_REQUEST`. -/
def setWatchdogTimerRequest (timerUse timeoutAction flagsClear : UInt8)
    (initialCountdownValue : UInt16) : List UInt8 :=
  [timerUse &&& 0x07, timeoutAction &&& 0x07, 0, flagsClear] ++
    (byteOfShort initialCountdownValue).slice 0 2

/-- `TimerUse.Bits.TimerRunning` of `IPMI_GET_WATCHDOG_TIMER_RESPONSE`. -/
def timerRunning (watchdogTimer : Memory UInt8) : Bool := watchdogTimer 1 &&& 0x40 != 0

/-- What `IpmiEnableWatchdogTimer` and `IpmiDisableWatchdogTimer` make of a status and the
completion code. -/
def checkCompletionCode (result : EfiStatus × Caller) : EfiStatus :=
  if result.1.isError then
    result.1
  else if result.2.response 0 ≠ compCodeNormal then
    .protocolError
  else
    result.1

/-- `IpmiEnableWatchdogTimer`. -/
def ipmiEnableWatchdogTimer (timerUse timerAction flagsClear : UInt8) (countdownValue : UInt16) :
    SubmitProg EfiStatus :=
  if timerUse = 0 ∨ countdownValue = 0 then
    return .invalidParameter
  else do
    let (status, _) ← ipmiGetWatchdogTimer submitBuffered specSizes (locals stack [])
    if status.isError then
      return status
    else
      -- from seconds to 100 ms
      let request := setWatchdogTimerRequest timerUse timerAction flagsClear (countdownValue * 10)
      let set ← ipmiSetWatchdogTimer submitBuffered specSizes (locals stack request)
      if (checkCompletionCode set).isError then
        return checkCompletionCode set
      else
        let reset ← ipmiResetWatchdogTimer submitBuffered (locals stack [])
        return checkCompletionCode reset

/-- `IpmiDisableWatchdogTimer`. -/
def ipmiDisableWatchdogTimer (timerUse flagsClear : UInt8) : SubmitProg EfiStatus := do
  let (status, getWatchdogTimer) ← ipmiGetWatchdogTimer submitBuffered specSizes (locals stack [])
  if status.isError then
    return status
  else if ¬ timerRunning getWatchdogTimer.response then
    return .success
  else
    let request := setWatchdogTimerRequest timerUse 0 flagsClear 0
    let set ← ipmiSetWatchdogTimer submitBuffered specSizes (locals stack request)
    return checkCompletionCode set

end

/-! ### The driver -/

/-- `IPMI_WATCHDOG_POLICY`. -/
structure IpmiWatchdogPolicy where
  frb2Enabled : Bool
  frb2TimeoutAction : UInt8
  frb2TimeoutSeconds : UInt16
  osWatchdogEnabled : Bool
  osTimeoutAction : UInt8
  osTimeoutSeconds : UInt16
  deriving DecidableEq, Repr

/-- The globals of the driver. -/
structure WatchdogDxe where
  /-- `mWatchdogPolicy`. -/
  watchdogPolicy : IpmiWatchdogPolicy
  /-- `mReadyToBootEvent` has been created and not been closed. -/
  readyToBootEvent : Bool
  /-- `mExitBootServicesEvent` has been created and not been closed. -/
  exitBootServicesEvent : Bool

/-- The statuses that the creation of the two events returns. -/
structure CreateEvents where
  /-- `EfiCreateEventReadyToBootEx`. -/
  readyToBoot : EfiStatus
  /-- `CreateEvent`. -/
  exitBootServices : EfiStatus

section

variable (stack : Memory UInt8)

/-- `DisableFrb2WatchdogTimer`. -/
def disableFrb2WatchdogTimer (driver : WatchdogDxe) : SubmitProg WatchdogDxe := do
  let status ← ipmiDisableWatchdogTimer stack timerBiosFrb2 expirationFlagBiosFrb2
  if status.isError then
    return driver
  else
    return { driver with readyToBootEvent := false }

/-- `EnableOsWatchdogTimer`. -/
def enableOsWatchdogTimer (driver : WatchdogDxe) : SubmitProg WatchdogDxe :=
  let closed := { driver with exitBootServicesEvent := false }
  if driver.watchdogPolicy.osWatchdogEnabled then do
    -- nothing looks at the status
    let _ ← ipmiEnableWatchdogTimer stack timerOsLoader driver.watchdogPolicy.osTimeoutAction
      expirationFlagOsLoad driver.watchdogPolicy.osTimeoutSeconds
    return closed
  else
    return closed

/-- `InitializeWatchdogPei`, with what `GetPolicy` gives. -/
def initializeWatchdogPei (getPolicy : Except EfiStatus IpmiWatchdogPolicy) :
    SubmitProg EfiStatus :=
  match getPolicy with
  | .error status => return status
  | .ok policy =>
    if policy.frb2Enabled then do
      let _ ← ipmiEnableWatchdogTimer stack timerBiosFrb2 policy.frb2TimeoutAction
        expirationFlagBiosFrb2 policy.frb2TimeoutSeconds
      return .success
    else
      return .success

/-- The FRB2 timer is started by the entry point if it is not running. -/
def enableFrb2WatchdogTimer (policy : IpmiWatchdogPolicy) (watchdogTimer : Memory UInt8) :
    SubmitProg Unit :=
  if policy.frb2Enabled ∧ ¬ timerRunning watchdogTimer then do
    -- nor at this one
    let _ ← ipmiEnableWatchdogTimer stack timerBiosFrb2 policy.frb2TimeoutAction
      expirationFlagBiosFrb2 policy.frb2TimeoutSeconds
    return ()
  else
    return ()

/-- The end of the entry point: the two events. -/
def createEvents (events : CreateEvents) (driver : WatchdogDxe) : EfiStatus × WatchdogDxe :=
  if events.readyToBoot.isError then
    (events.readyToBoot, driver)
  else if events.exitBootServices.isError then
    (events.exitBootServices, { driver with readyToBootEvent := true })
  else
    (events.exitBootServices,
      { driver with readyToBootEvent := true, exitBootServicesEvent := true })

/-- `IpmiWatchdogDxeEntryPoint`, with what `GetPolicy` gives. -/
def ipmiWatchdogDxeEntryPoint (getPolicy : Except EfiStatus IpmiWatchdogPolicy)
    (events : CreateEvents) (driver : WatchdogDxe) : SubmitProg (EfiStatus × WatchdogDxe) :=
  match getPolicy with
  | .error status => return (status, driver)
  | .ok policy => do
    let driver := { driver with watchdogPolicy := policy }
    let (status, watchdogTimer) ← ipmiGetWatchdogTimer submitBuffered specSizes (locals stack [])
    if status.isError then
      return (status, driver)
    else
      enableFrb2WatchdogTimer stack policy watchdogTimer.response
      let (status, watchdogTimer) ← ipmiGetWatchdogTimer submitBuffered specSizes (locals stack [])
      if status.isError then
        return (status, driver)
      else if watchdogTimer.response 0 ≠ compCodeNormal then
        return (.protocolError, driver)
      else
        return createEvents events driver

/-! ### The boot -/

/-- The driver, and the policy that the policy service holds. -/
structure System where
  published : IpmiWatchdogPolicy
  driver : WatchdogDxe

/-- What happens around the driver until `ExitBootServices`. -/
inductive Happening where
  /-- A component sets the policy. -/
  | setPolicy (policy : IpmiWatchdogPolicy)
  /-- `ReadyToBoot` is signalled. -/
  | readyToBoot
  deriving DecidableEq, Repr

/-- One thing happens. -/
def happen (system : System) : Happening → SubmitProg System
  | .setPolicy policy => return { system with published := policy }
  | .readyToBoot =>
    if system.driver.readyToBootEvent then do
      let driver ← disableFrb2WatchdogTimer stack system.driver
      return { system with driver }
    else
      return system

/-- The entry point is called. -/
def enter (events : CreateEvents) (system : System) : SubmitProg System := do
  let (_, driver) ← ipmiWatchdogDxeEntryPoint stack (.ok system.published) events system.driver
  return { system with driver }

/-- `ExitBootServices` is signalled. -/
def exitBootServices (system : System) : SubmitProg System :=
  if system.driver.exitBootServicesEvent then do
    let driver ← enableOsWatchdogTimer stack system.driver
    return { system with driver }
  else
    return system

/-- What happens until `ExitBootServices`.  The entry point reads the policy first, so what is set
while it runs is set after it. -/
def untilExit (events : CreateEvents) (before after : List Happening) (system : System) :
    SubmitProg System := do
  let system ← before.foldlM (happen stack) system
  let system ← enter stack events system
  after.foldlM (happen stack) system

/-- All of it. -/
def boot (events : CreateEvents) (before after : List Happening) (system : System) :
    SubmitProg System := do
  let system ← untilExit stack events before after system
  exitBootServices stack system

end

/-- The driver before it is entered; a global is zero at first. -/
def unloaded (initial : IpmiWatchdogPolicy) : System :=
  ⟨initial, ⟨⟨false, 0, 0, false, 0, 0⟩, false, false⟩⟩

end Watchdog

end IpmiFeature
