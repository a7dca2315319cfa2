import AuthProxy.Object.Metadata
import AuthProxy.Text.Base64

/-! # Secrets and ConfigMaps

Objects that hold named data for others: bytes that are kept secret, and configuration texts.
-/

namespace AuthProxy

/-- Named bytes. -/
structure Secret where
  data : Option (StringMap Bytes) := none
  immutable : Option Bool := none
  metadata : ObjectMeta := {}
  stringData : Option Labels := none
  type : Option String := none
deriving DecidableEq, Repr, Inhabited

/-- Named texts, and named bytes beside them. -/
structure ConfigMap where
  binaryData : Option (StringMap Bytes) := none
  data : Option Labels := none
  immutable : Option Bool := none
  metadata : ObjectMeta := {}
deriving DecidableEq, Repr, Inhabited

end AuthProxy
