import PulseEcu.Hal.Timer
import PulseEcu.Timing.SecurityClock
import PulseEcu.Timing.SessionClock
import PulseEcu.Timing.TransportClock

open Foundation

namespace Uds

/-- The run and the run `c` later compare every deadline that is set on its lap. -/
def ClearOfWrap {State Event Output : Type} (machine : Machine State Event Output) (shift : Word → Event → Event)
    (Steady : State → Event → Prop) (start : State) (c : Word) (events : List Event) : Prop :=
  machine.AllSteps Steady start events ∧ machine.AllSteps Steady start (events.map (shift c))

/-- Where no deadline wraps before it is compared, no component that holds one sees where its clock stands. -/
theorem deadlines_translate (c : Word) :
    (∀ timing calls, ClearOfWrap (udsSession.noting UdsSession.noteSet) SessionCall.shift UdsSession.Steady
        (.create timing, none) c calls →
      udsSession.Translates SessionCall.shift UdsSession.timeless (.create timing) c calls) ∧
    (∀ cfg rxBuf events,
      ClearOfWrap Transport.isoTp Transport.Event.shift Transport.IsoTp.Steady (.create cfg rxBuf) c events →
        Transport.isoTp.Translates Transport.Event.shift Transport.IsoTp.timeless (.create cfg rxBuf) c events) ∧
    (∀ (ω : Type) (events : List (SecurityEvent ω)),
      ClearOfWrap ((securityService ω).noting SecurityAccessService.noteUpdate) SecurityEvent.shift
          SecurityAccessService.Steady (.create, false) c events →
        (securityService ω).Translates SecurityEvent.shift SecurityAccessService.timeless .create c events) ∧
    (∀ period calls,
      ClearOfWrap Hal.periodicTimer Hal.PeriodicCall.shift Hal.PeriodicTimer.Steady (.create period) c calls →
        Hal.periodicTimer.Translates Hal.PeriodicCall.shift Hal.PeriodicTimer.timeless (.create period) c calls) := by
  refine ⟨?_, ?_, ?_, ?_⟩
  · intro timing calls clear
    exact UdsSession.translates timing c calls clear.1 clear.2
  · intro cfg rxBuf events clear
    exact Transport.IsoTp.translates cfg rxBuf c events clear.1 clear.2
  · intro ω events clear
    exact SecurityAccessService.translates c events clear.1 clear.2
  · intro period calls clear
    exact Hal.PeriodicTimer.translates period c calls clear.1 clear.2

def keptAlive : List SessionCall := [.transition .extended, .keepAlive 0, .update 1]

def halfReceived : List Transport.Event :=
  [.frame ⟨0, fun _ => true⟩ (fun _ => Region.fill 0) (.make 0x7DF [0x10, 0x08, 0x36, 0x01, 0xDE, 0xAD, 0xBE, 0xEF] 8),
    .update 1]

def halfSent : List Transport.Event :=
  [.send ⟨0, fun _ => true⟩ (fun _ => Region.fill 0) (some 0) 20, .update 1]

def lockedOut : List (SecurityEvent Unit) :=
  [.register SecuritySession.mirrorLevel, .update 1] ++
    (List.replicate 3 [SecurityAccessService.extendedRequest [0x27, 0x01],
      SecurityAccessService.extendedRequest [0x27, 0x02, 0x00]]).flatten ++
    [SecurityAccessService.extendedRequest [0x27, 0x01]]

def justStarted : List Hal.PeriodicCall := [.start 0, .tick 1]

def timingOut : List SessionCall := [.transition .extended, .keepAlive 0, .update 5000]

def acrossWrap : List SessionCall := [.update 0xFFFFFF00, .transition .extended, .keepAlive 0, .update 5000]

theorem acrossWrap_clear : ClearOfWrap (udsSession.noting UdsSession.noteSet) SessionCall.shift UdsSession.Steady
    (.create kDefaultTiming, none) 1000 acrossWrap :=
  ⟨by decide, by decide⟩

theorem deadlines_translate_acrossWrap :
    udsSession.Translates SessionCall.shift UdsSession.timeless (.create kDefaultTiming) 1000 acrossWrap :=
  (deadlines_translate 1000).1 kDefaultTiming acrossWrap acrossWrap_clear

/-- With the clock just below 2 ^ 32 every deadline wraps and is over a millisecond later;
    an S3 deadline that comes to 0 is never over. -/
theorem deadlines_translate_not :
    ¬ udsSession.Translates SessionCall.shift UdsSession.timeless (.create kDefaultTiming) 0xFFFFEC78 timingOut ∧
    ¬ udsSession.Translates SessionCall.shift UdsSession.timeless (.create kDefaultTiming) 0xFFFFFFF0 keptAlive ∧
    ¬ Transport.isoTp.Translates Transport.Event.shift Transport.IsoTp.timeless
      (.create Transport.kDefaultIsoTpConfig (Region.fill 0)) 0xFFFFFFF0 halfReceived ∧
    ¬ Transport.isoTp.Translates Transport.Event.shift Transport.IsoTp.timeless
      (.create Transport.kDefaultIsoTpConfig (Region.fill 0)) 0xFFFFFFF0 halfSent ∧
    ¬ (securityService Unit).Translates SecurityEvent.shift SecurityAccessService.timeless .create 0xFFFFFFF0 lockedOut ∧
    ¬ Hal.periodicTimer.Translates Hal.PeriodicCall.shift Hal.PeriodicTimer.timeless (.create 100) 0xFFFFFFF0
      justStarted := by
  refine ⟨?_, ?_, ?_, ?_, ?_, ?_⟩
  · intro same
    exact absurd (congrArg (fun view => view.1) same.2) (by decide)
  · intro same
    exact absurd (congrArg (fun view => view.1) same.2) (by decide)
  · intro same
    exact absurd (congrArg (fun view => view.rxState) same.2) (by decide)
  · intro same
    exact absurd (congrArg (fun view => view.txState) same.2) (by decide)
  · intro same
    have answers := congrArg (List.map fun reply => match reply with
      | SecurityReply.answered message _ _ => message
      | _ => []) same.1
    exact absurd answers (by decide)
  · intro same
    exact absurd same.1 (by decide)

end Uds
