import AttestationSdk.Error
import AttestationSdk.Effects

/-! RIM documents as the stores hand them out. -/
namespace AttestationSdk.Rim
open Effects

/-- An attribute with the namespace URI it is bound to, if any. -/
structure XmlAttr where
  nsUri : Option String
  name : String
  value : String
  deriving Repr, DecidableEq

inductive Xml where
  | text (content : String)
  | element (nsUri : Option String) (name : String) (attrs : List XmlAttr) (children : List Xml)
  deriving Repr

/-- `RimDocument`. A `std::string` is a `String` whose characters are its bytes. -/
structure RimDocument where
  rimId : String := ""
  doc : Option Xml := none
  rimData : String := ""

/-- `RimDocument::create_from_rim_data` with `xmlReadDoc` as `readDoc`: it leaves
the RIM id of the document it fills as it was. -/
def createFromRimData (readDoc : String → Option Xml) (rimData : String) (out : RimDocument) :
    Error × RimDocument :=
  match readDoc rimData with
  | none => (.InternalError, out)
  | some doc => (.Ok, { out with rimData := rimData, doc := some doc })

/-- `IRimStore`. -/
structure RimStore (σ : Type) where
  getRim : String → RimDocument → Prog Fault σ (Error × RimDocument)

end AttestationSdk.Rim
