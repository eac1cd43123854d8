import SaslBind.Enumeration

/-!
# Result codes

The result codes of the directory protocol and, from 80 to 91, those that a client gives to what went
wrong on its own side.
-/

namespace SaslBind

/-- A result code. -/
inductive ResultCode where
  | success
  | operationsError
  | protocolError
  | timeLimitExceeded
  | sizeLimitExceeded
  | compareFalse
  | compareTrue
  | authMethodNotSupported
  | strongerAuthRequired
  | referral
  | adminLimitExceeded
  | unavailableCriticalExtension
  | confidentialityRequired
  | saslBindInProgress
  | noSuchAttribute
  | undefinedAttributeType
  | inappropriateMatching
  | constraintViolation
  | attributeOrValueExists
  | invalidAttributeSyntax
  | noSuchObject
  | aliasProblem
  | invalidDnSyntax
  | aliasDereferencingProblem
  | inappropriateAuthentication
  | invalidCredentials
  | insufficientAccessRights
  | busy
  | unavailable
  | unwillingToPerform
  | loopDetect
  | namingViolation
  | objectClassViolation
  | notAllowedOnNonLeaf
  | notAllowedOnRdn
  | entryAlreadyExists
  | objectClassModsProhibited
  | affectsMultipleDsas
  | other
  | serverDown
  | localError
  | encodingError
  | decodingError
  | timeout
  | authUnknown
  | filterError
  | userCanceled
  | paramError
  | noMemory
  | connectError
deriving DecidableEq, Repr

namespace ResultCode

def all : List ResultCode :=
  [.success, .operationsError, .protocolError, .timeLimitExceeded, .sizeLimitExceeded,
   .compareFalse, .compareTrue, .authMethodNotSupported, .strongerAuthRequired, .referral,
   .adminLimitExceeded, .unavailableCriticalExtension, .confidentialityRequired,
   .saslBindInProgress, .noSuchAttribute, .undefinedAttributeType, .inappropriateMatching,
   .constraintViolation, .attributeOrValueExists, .invalidAttributeSyntax, .noSuchObject,
   .aliasProblem, .invalidDnSyntax, .aliasDereferencingProblem, .inappropriateAuthentication,
   .invalidCredentials, .insufficientAccessRights, .busy, .unavailable, .unwillingToPerform,
   .loopDetect, .namingViolation, .objectClassViolation, .notAllowedOnNonLeaf, .notAllowedOnRdn,
   .entryAlreadyExists, .objectClassModsProhibited, .affectsMultipleDsas, .other, .serverDown,
   .localError, .encodingError, .decodingError, .timeout, .authUnknown, .filterError,
   .userCanceled, .paramError, .noMemory, .connectError]

def name : ResultCode → String
  | .success => "SUCCESS"
  | .operationsError => "OPERATIONS_ERROR"
  | .protocolError => "PROTOCOL_ERROR"
  | .timeLimitExceeded => "TIME_LIMIT_EXCEEDED"
  | .sizeLimitExceeded => "SIZE_LIMIT_EXCEEDED"
  | .compareFalse => "COMPARE_FALSE"
  | .compareTrue => "COMPARE_TRUE"
  | .authMethodNotSupported => "AUTH_METHOD_NOT_SUPPORTED"
  | .strongerAuthRequired => "STRONGER_AUTH_REQUIRED"
  | .referral => "REFERRAL"
  | .adminLimitExceeded => "ADMIN_LIMIT_EXCEEDED"
  | .unavailableCriticalExtension => "UNAVAILABLE_CRITICAL_EXTENSION"
  | .confidentialityRequired => "CONFIDENTIALITY_REQUIRED"
  | .saslBindInProgress => "SASL_BIND_IN_PROGRESS"
  | .noSuchAttribute => "NO_SUCH_ATTRIBUTE"
  | .undefinedAttributeType => "UNDEFINED_ATTRIBUTE_TYPE"
  | .inappropriateMatching => "INAPPROPRIATE_MATCHING"
  | .constraintViolation => "CONSTRAINT_VIOLATION"
  | .attributeOrValueExists => "ATTRIBUTE_OR_VALUE_EXISTS"
  | .invalidAttributeSyntax => "INVALID_ATTRIBUTE_SYNTAX"
  | .noSuchObject => "NO_SUCH_OBJECT"
  | .aliasProblem => "ALIAS_PROBLEM"
  | .invalidDnSyntax => "INVALID_DN_SYNTAX"
  | .aliasDereferencingProblem => "ALIAS_DEREFERENCING_PROBLEM"
  | .inappropriateAuthentication => "INAPPROPRIATE_AUTHENTICATION"
  | .invalidCredentials => "INVALID_CREDENTIALS"
  | .insufficientAccessRights => "INSUFFICIENT_ACCESS_RIGHTS"
  | .busy => "BUSY"
  | .unavailable => "UNAVAILABLE"
  | .unwillingToPerform => "UNWILLING_TO_PERFORM"
  | .loopDetect => "LOOP_DETECT"
  | .namingViolation => "NAMING_VIOLATION"
  | .objectClassViolation => "OBJECT_CLASS_VIOLATION"
  | .notAllowedOnNonLeaf => "NOT_ALLOWED_ON_NON_LEAF"
  | .notAllowedOnRdn => "NOT_ALLOWED_ON_RDN"
  | .entryAlreadyExists => "ENTRY_ALREADY_EXISTS"
  | .objectClassModsProhibited => "OBJECT_CLASS_MODS_PROHIBITED"
  | .affectsMultipleDsas => "AFFECTS_MULTIPLE_DSAS"
  | .other => "OTHER"
  | .serverDown => "SERVER_DOWN"
  | .localError => "LOCAL_ERROR"
  | .encodingError => "ENCODING_ERROR"
  | .decodingError => "DECODING_ERROR"
  | .timeout => "TIMEOUT"
  | .authUnknown => "AUTH_UNKNOWN"
  | .filterError => "FILTER_ERROR"
  | .userCanceled => "USER_CANCELED"
  | .paramError => "PARAM_ERROR"
  | .noMemory => "NO_MEMORY"
  | .connectError => "CONNECT_ERROR"

def number : ResultCode → Nat
  | .success => 0
  | .operationsError => 1
  | .protocolError => 2
  | .timeLimitExceeded => 3
  | .sizeLimitExceeded => 4
  | .compareFalse => 5
  | .compareTrue => 6
  | .authMethodNotSupported => 7
  | .strongerAuthRequired => 8
  | .referral => 10
  | .adminLimitExceeded => 11
  | .unavailableCriticalExtension => 12
  | .confidentialityRequired => 13
  | .saslBindInProgress => 14
  | .noSuchAttribute => 16
  | .undefinedAttributeType => 17
  | .inappropriateMatching => 18
  | .constraintViolation => 19
  | .attributeOrValueExists => 20
  | .invalidAttributeSyntax => 21
  | .noSuchObject => 32
  | .aliasProblem => 33
  | .invalidDnSyntax => 34
  | .aliasDereferencingProblem => 36
  | .inappropriateAuthentication => 48
  | .invalidCredentials => 49
  | .insufficientAccessRights => 50
  | .busy => 51
  | .unavailable => 52
  | .unwillingToPerform => 53
  | .loopDetect => 54
  | .namingViolation => 64
  | .objectClassViolation => 65
  | .notAllowedOnNonLeaf => 66
  | .notAllowedOnRdn => 67
  | .entryAlreadyExists => 68
  | .objectClassModsProhibited => 69
  | .affectsMultipleDsas => 71
  | .other => 80
  | .serverDown => 81
  | .localError => 82
  | .encodingError => 83
  | .decodingError => 84
  | .timeout => 85
  | .authUnknown => 86
  | .filterError => 87
  | .userCanceled => 88
  | .paramError => 89
  | .noMemory => 90
  | .connectError => 91

def enumeration : Enumeration ResultCode where
  title := "LDAPCodes"
  members := all
  name := name
  value := fun c => .number c.number

end ResultCode

end SaslBind
