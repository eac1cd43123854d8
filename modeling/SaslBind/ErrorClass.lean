import SaslBind.Fault

/-!
# Classes of domain errors

Every class of domain errors carries a code, its own or that of the class it derives from, and the
code is a member of an enumeration of integers.  `ErrorClass.derive` checks this when a class is made;
`Catalogue` holds the classes that there are.
-/

namespace SaslBind

/-- The general classes of errors that a class may belong to. -/
inductive Kin where
  | domain
  | sasl
  | invalidQop
  | value
deriving DecidableEq, Repr

def Kin.title : Kin → String
  | .domain => "BaseDomainException"
  | .sasl => "SASLError"
  | .invalidQop => "InvalidQoPError"
  | .value => "ValueError"

/-- A class of domain errors. -/
structure ErrorClass where
  name : Text
  kin : List Kin
  code : Option (Text × Int)
  resultCode : Option ResultCode
deriving DecidableEq, Repr

/-- What a new class gives as its code: a member of an enumeration of integers, or anything else. -/
inductive DeclaredCode where
  | member (name : Text) (number : Int)
  | other
deriving DecidableEq, Repr

namespace ErrorClass

def domain : ErrorClass := ⟨Kin.domain.title.toText, [.domain], none, none⟩

/-- A domain code with its name. -/
def ofDomainCode (c : DomainCode) : Option (Text × Int) := some (c.name.toText, c.number)

/-- The class of errors in the configuration of a bind. -/
def sasl : ErrorClass :=
  ⟨Kin.sasl.title.toText, [.domain, .sasl], ofDomainCode .base, some .localError⟩

def invalidQop : ErrorClass :=
  ⟨Kin.invalidQop.title.toText, [.domain, .sasl, .invalidQop, .value], ofDomainCode .invalidQop,
    some .paramError⟩

/-- The code of a class that derives from another one. -/
def inheritedCode (parent : ErrorClass) : Option DeclaredCode → Option (Text × Int)
  | none => parent.code
  | some (.member name number) => some (name, number)
  | some .other => none

/-- The fault of a name that no class can have. -/
def nameFault? (name : Text) : Option Fault :=
  match name.surrogateRun? with
  | some run => some (.unencodable run)
  | none => if name.any (·.value = 0) then some .nullInName else none

/-- A class that derives from another one; it must have a code. -/
def derive (parent : ErrorClass) (name : Text) (code : Option DeclaredCode)
    (resultCode : Option ResultCode) : Except Fault ErrorClass :=
  match nameFault? name, parent.inheritedCode code with
  | some f, _ => .error f
  | none, none => .error (.codeNotEnumerated name)
  | none, some c => .ok ⟨name, parent.kin, some c, resultCode.or parent.resultCode⟩

/-- The text of an error that was made from these values. -/
def text : List Value → Text
  | [] => []
  | [v] => v.str
  | vs => (Value.tuple vs).repr

end ErrorClass

/-- The classes that there are, the latest first. -/
abbrev Catalogue := List ErrorClass

namespace Catalogue

/-- The classes that come with the library. -/
def initial : Catalogue := [.invalidQop, .sasl, .domain]

/-- The class of this name. -/
def get (c : Catalogue) (name : Text) : Except Fault ErrorClass :=
  match List.find? (·.name = name) c with
  | some found => .ok found
  | none => .error (.unknownKey name.quoted)

end Catalogue

end SaslBind
