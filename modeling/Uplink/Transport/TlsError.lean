import Uplink.Text.Utf8

/-!
# TLS faults

Why a handshake or a secured stream fails, with the names under which this is
reported. Alerts are named after their level and their description.
-/

namespace Uplink

/-- How grave an alert is. -/
inductive AlertLevel where
  | warning
  | fatal
deriving DecidableEq, Repr

namespace AlertLevel

/-- The level that a byte stands for. -/
def ofCode? (code : UInt8) : Option AlertLevel :=
  if code = 1 then some warning else if code = 2 then some fatal else none

/-- The name of a level. -/
def name : AlertLevel → String
  | warning => "Warning"
  | fatal => "Fatal"

end AlertLevel

/-- What an alert is about. -/
inductive AlertDescription where
  | closeNotify
  | unexpectedMessage
  | badRecordMac
  | recordOverflow
  | handshakeFailure
  | badCertificate
  | unsupportedCertificate
  | certificateRevoked
  | certificateExpired
  | certificateUnknown
  | illegalParameter
  | unknownCa
  | accessDenied
  | decodeError
  | decryptError
  | protocolVersion
  | insufficientSecurity
  | internalError
  | inappropriateFallback
  | userCanceled
  | missingExtension
  | unsupportedExtension
  | unrecognizedName
  | badCertificateStatusResponse
  | unknownPskIdentity
  | certificateRequired
  | noApplicationProtocol
deriving DecidableEq, Repr

namespace AlertDescription

/-- The description that a byte stands for. -/
def ofCode? (code : UInt8) : Option AlertDescription :=
  match code.toNat with
  | 0 => some closeNotify
  | 10 => some unexpectedMessage
  | 20 => some badRecordMac
  | 22 => some recordOverflow
  | 40 => some handshakeFailure
  | 42 => some badCertificate
  | 43 => some unsupportedCertificate
  | 44 => some certificateRevoked
  | 45 => some certificateExpired
  | 46 => some certificateUnknown
  | 47 => some illegalParameter
  | 48 => some unknownCa
  | 49 => some accessDenied
  | 50 => some decodeError
  | 51 => some decryptError
  | 70 => some protocolVersion
  | 71 => some insufficientSecurity
  | 80 => some internalError
  | 86 => some inappropriateFallback
  | 90 => some userCanceled
  | 109 => some missingExtension
  | 110 => some unsupportedExtension
  | 112 => some unrecognizedName
  | 113 => some badCertificateStatusResponse
  | 115 => some unknownPskIdentity
  | 116 => some certificateRequired
  | 120 => some noApplicationProtocol
  | _ => none

/-- The name of a description. -/
def name : AlertDescription → String
  | closeNotify => "CloseNotify"
  | unexpectedMessage => "UnexpectedMessage"
  | badRecordMac => "BadRecordMac"
  | recordOverflow => "RecordOverflow"
  | handshakeFailure => "HandshakeFailure"
  | badCertificate => "BadCertificate"
  | unsupportedCertificate => "UnsupportedCertificate"
  | certificateRevoked => "CertificateRevoked"
  | certificateExpired => "CertificateExpired"
  | certificateUnknown => "CertificateUnknown"
  | illegalParameter => "IllegalParameter"
  | unknownCa => "UnknownCa"
  | accessDenied => "AccessDenied"
  | decodeError => "DecodeError"
  | decryptError => "DecryptError"
  | protocolVersion => "ProtocolVersion"
  | insufficientSecurity => "InsufficientSecurity"
  | internalError => "InternalError"
  | inappropriateFallback => "InappropriateFallback"
  | userCanceled => "UserCanceled"
  | missingExtension => "MissingExtension"
  | unsupportedExtension => "UnsupportedExtension"
  | unrecognizedName => "UnrecognizedName"
  | badCertificateStatusResponse => "BadCertificateStatusResponse"
  | unknownPskIdentity => "UnknownPskIdentity"
  | certificateRequired => "CertificateRequired"
  | noApplicationProtocol => "NoApplicationProtocol"

end AlertDescription

/-- Faults of a secured stream. -/
inductive TlsError where
  /-- The stream ended inside a record. -/
  | ioError
  /-- The connection below was reset. -/
  | connectionReset
  /-- The peer closed the stream. -/
  | connectionClosed
  /-- The stream is not open. -/
  | missingHandshake
  /-- Something other than a record arrived. -/
  | invalidRecord
  /-- A record is larger than the buffer for it. -/
  | insufficientSpace
  /-- A handshake message cannot be understood. -/
  | invalidHandshake
  /-- A handshake message is none that a client handles. -/
  | unimplemented
  /-- A message is cut short. -/
  | insufficientBytes
  /-- An alert cannot be understood. -/
  | decodeError
  /-- A message does not fit the buffer for it. -/
  | encodeError
  /-- The peer refused the handshake. -/
  | handshakeAborted (level : AlertLevel) (description : AlertDescription)
deriving DecidableEq, Repr

/-- The name under which a fault is reported. -/
def TlsError.name : TlsError → String
  | ioError => "IoError"
  | connectionReset => "Io(ConnectionReset)"
  | connectionClosed => "ConnectionClosed"
  | missingHandshake => "MissingHandshake"
  | invalidRecord => "InvalidRecord"
  | insufficientSpace => "InsufficientSpace"
  | invalidHandshake => "InvalidHandshake"
  | unimplemented => "Unimplemented"
  | insufficientBytes => "ParseError(InsufficientBytes)"
  | decodeError => "DecodeError"
  | encodeError => "EncodeError"
  | handshakeAborted level description =>
    "HandshakeAborted(" ++ level.name ++ ", " ++ description.name ++ ")"

end Uplink
