import SaslBind.Enumeration

/-!
# Mechanisms

The names of the authentication mechanisms that can be asked for in a bind.
-/

namespace SaslBind

/-- An authentication mechanism. -/
inductive Mechanism where
  | plain
  | external
  | gssapi
  | cramMd5
  | digestMd5
  | scramSha1
  | scramSha256
  | oauthBearer
deriving DecidableEq, Repr

namespace Mechanism

/-- All mechanisms, in the order in which they are listed. -/
def all : List Mechanism :=
  [.plain, .external, .gssapi, .cramMd5, .digestMd5, .scramSha1, .scramSha256, .oauthBearer]

def name : Mechanism → String
  | .plain => "PLAIN"
  | .external => "EXTERNAL"
  | .gssapi => "GSSAPI"
  | .cramMd5 => "CRAM_MD5"
  | .digestMd5 => "DIGEST_MD5"
  | .scramSha1 => "SCRAM_SHA_1"
  | .scramSha256 => "SCRAM_SHA_256"
  | .oauthBearer => "OAUTHBEARER"

/-- The name of a mechanism in the protocol. -/
def value : Mechanism → Text
  | .plain => "PLAIN".toText
  | .external => "EXTERNAL".toText
  | .gssapi => "GSSAPI".toText
  | .cramMd5 => "CRAM-MD5".toText
  | .digestMd5 => "DIGEST-MD5".toText
  | .scramSha1 => "SCRAM-SHA-1".toText
  | .scramSha256 => "SCRAM-SHA-256".toText
  | .oauthBearer => "OAUTHBEARER".toText

def enumeration : Enumeration Mechanism where
  title := "SASLMethod"
  members := all
  name := name
  value := fun m => .text m.value

end Mechanism

def Qop.enumeration : Enumeration Qop where
  title := "SASLQualityOfProtection"
  members := all
  name := name
  value := fun q => .text q.value

end SaslBind
