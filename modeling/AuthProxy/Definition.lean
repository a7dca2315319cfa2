import AuthProxy.Kind

/-! # The resource definition

What a cluster has to be told before it stores authenticators: their names, the version in which
they are served, and the schema of their documents.
-/

namespace AuthProxy

/-- What a schema says about a value besides its type. -/
structure SchemaInfo where
  title : Option String := none
  description : Option String := none
  default : Option Json := none
  nullable : Bool := false
deriving Inhabited

/-- The schema of a document. -/
inductive Schema where
  | boolean (info : SchemaInfo)
  /-- A whole number of 32 bits. -/
  | int32 (info : SchemaInfo)
  | text (info : SchemaInfo)
  /-- One of several texts. -/
  | choice (info : SchemaInfo) (texts : List String)
  | list (info : SchemaInfo) (item : Schema)
  /-- Texts under any keys. -/
  | texts (info : SchemaInfo)
  | object (info : SchemaInfo) (fields : List (String × Schema)) (required : List String)

namespace Schema

/-- A schema of the type `type` with more members. -/
def typed (info : SchemaInfo) (type : String) (more : List (String × Json)) : Json :=
  (Json.ofMembers ([
    ("title", info.title.map .str),
    ("description", info.description.map .str),
    ("default", info.default),
    ("nullable", if info.nullable then some (.bool true) else none),
    ("type", some (.str type))] ++ more.map fun m => (m.1, some m.2))).sortKeys

mutual

/-- The document of a schema. -/
def write : Schema → Json
  | boolean info => typed info "boolean" []
  | int32 info => typed info "integer" [("format", .str "int32")]
  | text info => typed info "string" []
  | choice info cs => typed info "string" [("enum", .arr (cs.map .str))]
  | list info item => typed info "array" [("items", item.write)]
  | texts info => typed info "object" [("additionalProperties", typed {} "string" [])]
  | object info fields required =>
    typed info "object" (("properties", .obj (writeFields fields)) ::
      if required.isEmpty then [] else [("required", .arr (required.map .str))])

def writeFields : List (String × Schema) → List (String × Json)
  | [] => []
  | (k, s) :: rest => (k, s.write) :: writeFields rest

end

end Schema

namespace LabelRequirement

def schema : Schema :=
  .object
    { description := some ("A label selector requirement is a selector that contains values, a "
        ++ "key, and an operator that relates the key and values.") }
    [ ("key", .text
        { description := some "key is the label key that the selector applies to." }),
      ("operator", .text
        { description := some ("operator represents a key's relationship to a set of values. "
            ++ "Valid operators are In, NotIn, Exists and DoesNotExist.") }),
      ("values", .list
        { description := some ("values is an array of string values. If the operator is In or "
            ++ "NotIn, the values array must be non-empty. If the operator is Exists or "
            ++ "DoesNotExist, the values array must be empty. This array is replaced during a "
            ++ "strategic merge patch.") }
        (.text {}))]
    ["key", "operator"]

end LabelRequirement

namespace LabelSelector

def schema : Schema :=
  .object
    { description := some ("A label selector is a label query over a set of resources. The result "
        ++ "of matchLabels and matchExpressions are ANDed. An empty label selector matches all "
        ++ "objects. A null label selector matches no objects.")
      default := some (LabelSelector.write {}) }
    [ ("matchExpressions", .list
        { description := some ("matchExpressions is a list of label selector requirements. The "
            ++ "requirements are ANDed.") }
        LabelRequirement.schema),
      ("matchLabels", .texts
        { description := some ("matchLabels is a map of \x7bkey,value\x7d pairs. A single "
            ++ "\x7bkey,value\x7d in the matchLabels map is equivalent to an element of "
            ++ "matchExpressions, whose key field is \"key\", the operator is \"In\", and the "
            ++ "values array contains only \"value\". The requirements are ANDed.") })]
    []

end LabelSelector

namespace Authenticator

def specSchema : Schema :=
  .object {}
    [ ("adaptiveScale", .boolean { default := some (.bool false) }),
      ("appPort", .int32 {}),
      ("appService", .text { default := some (.str "") }),
      ("credentialsSecretRef", .text
        { description := some "Name of the credentials secret; left empty to have one generated"
          default := some (.str "") }),
      ("proxyPort", .int32 { nullable := true }),
      ("replicas", .int32 { default := some (Json.ofInt32 1) }),
      ("selector", LabelSelector.schema),
      ("type", .choice
        { description := some
            "Whether the proxy runs as its own deployment or inside the target workloads"
          default := some (Mode.write .standalone) }
        (Mode.all.map (·.name)))]
    ["appPort"]

def statusSchema : Schema :=
  .object { nullable := true } [("readyReplicas", .int32 { default := some (Json.ofInt32 0) })] []

def schema : Schema :=
  .object
    { title := some kindName
      description := some ("Auto-generated derived type for BasicAuthenticatorSpec via "
        ++ "`CustomResource`") }
    [("spec", specSchema), ("status", statusSchema)]
    ["spec"]

/-- The names of the resource. -/
def resourceNames : Json :=
  .obj [
    ("categories", .arr []),
    ("kind", .str kindName),
    ("plural", .str (Kind.plural .authenticator)),
    ("shortNames", .arr [.str "ba"]),
    ("singular", .str "basicauthenticator")]

/-- The version in which authenticators are served and stored; their status is written apart. -/
def servedVersion : Json :=
  .obj [
    ("additionalPrinterColumns", .arr []),
    ("name", .str version),
    ("schema", .obj [("openAPIV3Schema", schema.write)]),
    ("served", .bool true),
    ("storage", .bool true),
    ("subresources", .obj [("status", .obj [])])]

/-- The definition of the resource. -/
def definition : Json :=
  .obj [
    ("apiVersion", .str "apiextensions.k8s.io/v1"),
    ("kind", .str "CustomResourceDefinition"),
    ("metadata", .obj [("name", .str (Kind.plural .authenticator ++ "." ++ apiGroup))]),
    ("spec", .obj [
      ("group", .str apiGroup),
      ("names", resourceNames),
      ("scope", .str "Namespaced"),
      ("versions", .arr [servedVersion])])]

end Authenticator

end AuthProxy
