import RingKeeper.Json.Writer
import RingKeeper.Kube.Schema.Metadata

/-!
# Metadata

What every object of the cluster carries: its name and namespace, its version, and its tables of
labels and annotations. A typed object is written with the API version and its kind in front, and
with everything that it was given, in regular form.
-/

namespace RingKeeper

structure Metadata where
  name : Option String := none
  generateName : Option String := none
  inNamespace : Option String := none
  uid : Option String := none
  /-- Changes with every write, and guards a replacement against a write in between. -/
  resourceVersion : Option String := none
  labels : Option TextTable := none
  annotations : Option TextTable := none
  finalizers : Option (List String) := none
  /-- The other fields, in regular form. -/
  rest : Json.Fields := []
deriving DecidableEq, Repr

namespace Metadata

def empty : Metadata := {}

/-- Fields of metadata lie in the object and in its metadata. -/
def depth : Nat := 2

open Json in
def ofJson (j : Json) : Option Metadata := do
  let fs ← readFields j
  some
    { name := ← fs.read? "name" str?
      generateName := ← fs.read? "generateName" str?
      inNamespace := ← fs.read? "namespace" str?
      uid := ← fs.read? "uid" str?
      resourceVersion := ← fs.read? "resourceVersion" str?
      labels := ← fs.read? "labels" readTable
      annotations := ← fs.read? "annotations" readTable
      finalizers := ← fs.read? "finalizers" (readList str?)
      rest := ← Shape.readGroups depth Kube.Schema.metadataRest fs }

open Json in
def toJson (m : Metadata) : Json :=
  obj (field "annotations" ofTable m.annotations
    ++ field "finalizers" ofTexts m.finalizers
    ++ field "generateName" str m.generateName
    ++ field "labels" ofTable m.labels
    ++ field "name" str m.name
    ++ field "namespace" str m.inNamespace
    ++ field "resourceVersion" str m.resourceVersion
    ++ field "uid" str m.uid
    ++ m.rest)

/-- The name, or the empty text. -/
def nameOrEmpty (m : Metadata) : String := m.name.getD ""

/-- The namespace, or the empty text. -/
def namespaceOrEmpty (m : Metadata) : String := m.inNamespace.getD ""

end Metadata

namespace Json

def apiVersion : String := "v1"

/-- Whether the document may be an object of this kind: what it says of its kind and version. -/
def Fields.areOfKind (fs : Fields) (kind : String) : Bool :=
  (Fields.all fs "apiVersion").all (fun j => decide (j = str apiVersion))
    && (Fields.all fs "kind").all fun j => decide (j = str kind)

/-- The fields of a document that may be an object of this kind. -/
def readObject (kind : String) (j : Json) : Option Fields :=
  match j with
  | obj fs => if Fields.areOfKind fs kind then some fs else none
  | _ => none

/-- A part of an object, read against its shape. -/
def Fields.part (fs : Fields) (key : String) (shape : Shape) : Option (Option Json) :=
  Fields.read? fs key (shape.read 1)

/-- The metadata of an object. -/
def Fields.metadata (fs : Fields) : Option Metadata :=
  (fs.read? "metadata" Metadata.ofJson).map (·.getD .empty)

/-- An object of this kind with its metadata and further fields. -/
def object (kind : String) (m : Metadata) (fs : Fields) : Json :=
  obj ([("apiVersion", str apiVersion), ("kind", str kind), ("metadata", m.toJson)] ++ fs)

end Json

end RingKeeper
