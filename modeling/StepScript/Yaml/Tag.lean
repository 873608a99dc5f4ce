set_option autoImplicit false

/-!
# YAML: tags

A tag is a run of octets.  It is written in ASCII, but percent escapes can give it any octets that
look like UTF-8 one by one, so it need not be a text.  A local tag begins with `!`, and what follows
names something of the application; the mark alone names itself.
-/

namespace StepScript.Yaml

/-- A tag by its octets. -/
structure Tag where
  octets : List UInt8
  deriving DecidableEq, Repr, Inhabited

namespace Tag

/-- The octets of a text. -/
def octetsOf (text : String) : List UInt8 := text.toList.flatMap String.utf8EncodeChar

/-- The octet of `!`. -/
def bang : UInt8 := 0x21

/-- The tag of a text. -/
def ofText (text : String) : Tag := ⟨octetsOf text⟩

/-- Tag of the values of a core type. -/
def core (name : String) : Tag := ofText ("tag:yaml.org,2002:" ++ name)

/-- Whether a tag is local. -/
def isLocal (t : Tag) : Bool := t.octets.head? == some bang

/-- What a local tag names, if that is a text. -/
def localName? (t : Tag) : Option String :=
  match t.octets with
  | [] => none
  | octet :: rest =>
      if octet = bang then
        String.fromUTF8? ⟨(if rest.isEmpty then [bang] else rest).toArray⟩
      else none

end Tag

end StepScript.Yaml
