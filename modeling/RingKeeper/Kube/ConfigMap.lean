import RingKeeper.Kube.Metadata

/-!
# Configmaps

A configmap carries data, texts under keys, and perhaps bytes under further keys.
-/

namespace RingKeeper

structure ConfigMap where
  metadata : Metadata
  data : Option TextTable := none
  immutable : Option Bool := none
  /-- The other fields, in regular form. -/
  rest : Json.Fields := []
deriving DecidableEq, Repr

namespace ConfigMap

def kind : String := "ConfigMap"

def restGroups : List Json.Shape.Group := [Json.Shape.may ["binaryData"] (.table .bytes)]

open Json in
def ofJson (j : Json) : Option ConfigMap := do
  let fs ← readObject kind j
  some
    { metadata := ← fs.metadata
      data := ← fs.read? "data" readTable
      immutable := ← fs.read? "immutable" bool?
      rest := ← Shape.readGroups 1 restGroups fs }

open Json in
def toJson (c : ConfigMap) : Json :=
  object kind c.metadata
    (field "data" ofTable c.data ++ field "immutable" bool c.immutable ++ c.rest)

def name (c : ConfigMap) : String := c.metadata.nameOrEmpty

/-- The value of an annotation, or the empty text. -/
def annotationAt (c : ConfigMap) (key : String) : String :=
  (c.metadata.annotations.bind (·.get? key)).getD ""

def annotate (c : ConfigMap) (key value : String) : ConfigMap :=
  { c with metadata :=
    { c.metadata with annotations := (c.metadata.annotations.getD .empty).insert key value } }

/-- The value of a data key, if there is one. -/
def dataAt? (c : ConfigMap) (key : String) : Option String := c.data.bind (·.get? key)

def setData (c : ConfigMap) (key value : String) : ConfigMap :=
  { c with data := (c.data.getD .empty).insert key value }

@[simp] theorem annotationAt_annotate_self (c : ConfigMap) (key value : String) :
    (c.annotate key value).annotationAt key = value := by
  simp [annotationAt, annotate]

@[simp] theorem dataAt?_annotate (c : ConfigMap) (key value k : String) :
    (c.annotate key value).dataAt? k = c.dataAt? k := rfl

@[simp] theorem dataAt?_setData_self (c : ConfigMap) (key value : String) :
    (c.setData key value).dataAt? key = some value := by
  simp [dataAt?, setData]

@[simp] theorem annotationAt_setData (c : ConfigMap) (key value k : String) :
    (c.setData key value).annotationAt k = c.annotationAt k := rfl

end ConfigMap

end RingKeeper
