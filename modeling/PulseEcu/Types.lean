namespace Uds

abbrev Byte := BitVec 8
abbrev Word := BitVec 32

/-- `enum class ServiceId : uint8_t`; a request may carry any byte. -/
abbrev ServiceId := Byte

namespace ServiceId

def diagnosticSessionControl : ServiceId := 0x10
def ecuReset : ServiceId := 0x11
def clearDiagnosticInformation : ServiceId := 0x14
def readDtcInformation : ServiceId := 0x19
def readDataByIdentifier : ServiceId := 0x22
def readMemoryByAddress : ServiceId := 0x23
def securityAccess : ServiceId := 0x27
def communicationControl : ServiceId := 0x28
def writeDataByIdentifier : ServiceId := 0x2E
def inputOutputControlByIdentifier : ServiceId := 0x2F
def routineControl : ServiceId := 0x31
def requestDownload : ServiceId := 0x34
def requestUpload : ServiceId := 0x35
def transferData : ServiceId := 0x36
def requestTransferExit : ServiceId := 0x37
def writeMemoryByAddress : ServiceId := 0x3D
def testerPresent : ServiceId := 0x3E
def controlDtcSetting : ServiceId := 0x85
def responseOnEvent : ServiceId := 0x86
def linkControl : ServiceId := 0x87
def negativeResponse : ServiceId := 0x7F

end ServiceId

inductive NrcCode where
  | serviceNotSupported
  | subFunctionNotSupported
  | incorrectMessageLengthOrInvalidFormat
  | responseTooLong
  | conditionsNotCorrect
  | requestSequenceError
  | failurePreventsExecutionOfRequestedAction
  | requestOutOfRange
  | securityAccessDenied
  | invalidKey
  | exceededNumberOfAttempts
  | requiredTimeDelayNotExpired
  | uploadDownloadNotAccepted
  | generalProgrammingFailure
  | wrongBlockSequenceCounter
  | serviceNotSupportedInActiveSession
  deriving DecidableEq, Repr

def NrcCode.toByte : NrcCode → Byte
  | serviceNotSupported => 0x11
  | subFunctionNotSupported => 0x12
  | incorrectMessageLengthOrInvalidFormat => 0x13
  | responseTooLong => 0x14
  | conditionsNotCorrect => 0x22
  | requestSequenceError => 0x24
  | failurePreventsExecutionOfRequestedAction => 0x26
  | requestOutOfRange => 0x31
  | securityAccessDenied => 0x33
  | invalidKey => 0x35
  | exceededNumberOfAttempts => 0x36
  | requiredTimeDelayNotExpired => 0x37
  | uploadDownloadNotAccepted => 0x70
  | generalProgrammingFailure => 0x72
  | wrongBlockSequenceCounter => 0x73
  | serviceNotSupportedInActiveSession => 0x7F

inductive SessionType where
  | default
  | programming
  | extended
  deriving DecidableEq, Repr

def SessionType.toByte : SessionType → Byte
  | default => 0x01
  | programming => 0x02
  | extended => 0x03

/-- The cast from a byte; the callers have checked that it is one of the enumerators. -/
def SessionType.ofByte (b : Byte) : SessionType :=
  if b = 0x02 then .programming else if b = 0x03 then .extended else .default

structure TimingConfig where
  p2Ms : BitVec 16
  p2StarMs : BitVec 16
  s3Ms : BitVec 16
  deriving DecidableEq

def kDefaultTiming : TimingConfig := ⟨50, 5000, 5000⟩

/-- The targets the code is built for, by the width of their `size_t`. -/
inductive Target where
  | cortexM
  | host
  deriving DecidableEq, Repr

def Target.sizeBits : Target → Nat
  | cortexM => 32
  | host => 64

abbrev Target.SizeT (target : Target) := BitVec target.sizeBits

end Uds
