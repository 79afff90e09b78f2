import RingKeeper.Kube.Volume
import RingKeeper.Proofs.Kube.ConfigMap

/-!
# Volumes are read as they are written

1. A requirement, a term, an affinity and a reference are read from the document that is written of
   them, whatever they are.
2. `Volume.IsRegular` is what is known of a volume that was read (`Volume.isRegular_of_ofJson`), and
   `Volume.ofJson_toJson` says that a regular volume is read as it is written.
3. A regular volume stays so when it is taken from its claim, or given another version.
-/

namespace RingKeeper

open Json

namespace Json

variable {α : Type} {fs : Fields} {key : String} {read : Json → Option α} {write : α → Json}

theorem str_ne_null (s : String) : str s ≠ null := by simp

theorem arr_ne_null (items : List Json) : arr items ≠ null := by simp

theorem obj_ne_null (fs : Fields) : obj fs ≠ null := by simp

theorem readList_written (h : ∀ a, read (write a) = some a) (as : List α) :
    readList read (arr (as.map write)) = some as := by
  show (as.map write).mapM read = some as
  induction as with
  | nil => rfl
  | cons a as ih =>
    rw [List.map_cons, List.mapM_cons, h, ih]
    rfl

theorem Fields.read?_texts {o : Option String} (hall : Fields.all fs key = o.toList.map str) :
    fs.read? key str? = some o :=
  Fields.read?_written hall fun s _ => ⟨str_ne_null s, str?_str s⟩

end Json

/-! ## Node affinity -/

namespace NodeRequirement

def written (r : NodeRequirement) : Fields :=
  field "key" str (some r.key) ++ field "operator" str (some r.operator)
    ++ field "values" ofTexts r.values

theorem ofJson_toJson (r : NodeRequirement) : ofJson r.toJson = some r := by
  have hkey : Fields.all r.written "key" = (some r.key).toList.map str := by
    simp [written, Fields.all_append, Fields.all_field]
  have hoperator : Fields.all r.written "operator" = (some r.operator).toList.map str := by
    simp [written, Fields.all_append, Fields.all_field]
  have hvalues : Fields.all r.written "values" = r.values.toList.map ofTexts := by
    simp [written, Fields.all_append, Fields.all_field]
  rw [show r.toJson = obj r.written from rfl]
  simp [ofJson, readFields, Fields.text, Fields.read?_texts hkey, Fields.read?_texts hoperator,
    Fields.read?_written hvalues fun ts _ => ⟨arr_ne_null _, readList_ofTexts ts⟩]

end NodeRequirement

namespace NodeTerm

def ofRequirements (rs : List NodeRequirement) : Json := arr (rs.map (·.toJson))

def written (t : NodeTerm) : Fields :=
  field "matchExpressions" ofRequirements t.matchExpressions
    ++ field "matchFields" ofRequirements t.matchFields

theorem ofJson_toJson (t : NodeTerm) : ofJson t.toJson = some t := by
  have hlist (rs : List NodeRequirement) :
      ofRequirements rs ≠ .null ∧ readList NodeRequirement.ofJson (ofRequirements rs) = some rs :=
    ⟨arr_ne_null _, readList_written NodeRequirement.ofJson_toJson rs⟩
  have hexpressions : Fields.all t.written "matchExpressions" =
      t.matchExpressions.toList.map ofRequirements := by
    simp [written, Fields.all_append, Fields.all_field]
  have hfields : Fields.all t.written "matchFields" =
      t.matchFields.toList.map ofRequirements := by
    simp [written, Fields.all_append, Fields.all_field]
  rw [show t.toJson = obj t.written from rfl]
  simp [ofJson, readFields, Fields.read?_written hexpressions fun rs _ => hlist rs,
    Fields.read?_written hfields fun rs _ => hlist rs]

end NodeTerm

namespace NodeAffinity

def ofTerms (terms : List NodeTerm) : Json :=
  obj [("nodeSelectorTerms", arr (terms.map (·.toJson)))]

def readTerms (j : Json) : Option (List NodeTerm) := do
  let terms ← (← readFields j).read? "nodeSelectorTerms" (readList NodeTerm.ofJson)
  some (terms.getD [])

theorem readTerms_ofTerms (terms : List NodeTerm) : readTerms (ofTerms terms) = some terms := by
  have hall : Fields.all [("nodeSelectorTerms", arr (terms.map (·.toJson)))] "nodeSelectorTerms" =
      (some terms).toList.map fun ts => arr (ts.map (·.toJson)) := Fields.all_cons_self _ _ _
  have hterms : Fields.read? [("nodeSelectorTerms", arr (terms.map (·.toJson)))]
      "nodeSelectorTerms" (readList NodeTerm.ofJson) = some (some terms) :=
    Fields.read?_written hall fun ts _ => ⟨arr_ne_null _, readList_written NodeTerm.ofJson_toJson ts⟩
  simp [readTerms, ofTerms, readFields, hterms]

theorem ofJson_toJson (a : NodeAffinity) : ofJson a.toJson = some a := by
  have hrequired : Fields.all (field "required" ofTerms a.required) "required" =
      a.required.toList.map ofTerms := by
    simp [Fields.all_field]
  have hread : Fields.read? (field "required" ofTerms a.required) "required" readTerms =
      some a.required :=
    Fields.read?_written hrequired fun terms _ => ⟨obj_ne_null _, readTerms_ofTerms terms⟩
  show (Fields.read? (field "required" ofTerms a.required) "required" readTerms).bind
    (fun required => some { required := required }) = some a
  rw [hread]
  rfl

end NodeAffinity

namespace ObjectReference

def written (r : ObjectReference) : Fields :=
  field "apiVersion" str r.apiVersion ++ field "fieldPath" str r.fieldPath
    ++ field "kind" str r.kind ++ field "name" str r.name ++ field "namespace" str r.inNamespace
    ++ field "resourceVersion" str r.resourceVersion ++ field "uid" str r.uid

theorem all_written (r : ObjectReference) (key : String) : Fields.all r.written key =
    (if "apiVersion" = key then r.apiVersion.toList.map str else [])
      ++ (if "fieldPath" = key then r.fieldPath.toList.map str else [])
      ++ (if "kind" = key then r.kind.toList.map str else [])
      ++ (if "name" = key then r.name.toList.map str else [])
      ++ (if "namespace" = key then r.inNamespace.toList.map str else [])
      ++ (if "resourceVersion" = key then r.resourceVersion.toList.map str else [])
      ++ (if "uid" = key then r.uid.toList.map str else []) := by
  simp only [written, Fields.all_append, Fields.all_field]

theorem ofJson_toJson (r : ObjectReference) : ofJson r.toJson = some r := by
  have htext {key : String} {o : Option String} (h : Fields.all r.written key = o.toList.map str) :
      Fields.read? r.written key str? = some o := Fields.read?_texts h
  have hapi : Fields.all r.written "apiVersion" = r.apiVersion.toList.map str := by
    simp [all_written]
  have hpath : Fields.all r.written "fieldPath" = r.fieldPath.toList.map str := by
    simp [all_written]
  have hkind : Fields.all r.written "kind" = r.kind.toList.map str := by simp [all_written]
  have hname : Fields.all r.written "name" = r.name.toList.map str := by simp [all_written]
  have hnamespace : Fields.all r.written "namespace" = r.inNamespace.toList.map str := by
    simp [all_written]
  have hversion : Fields.all r.written "resourceVersion" = r.resourceVersion.toList.map str := by
    simp [all_written]
  have huid : Fields.all r.written "uid" = r.uid.toList.map str := by simp [all_written]
  rw [show r.toJson = obj r.written from rfl]
  simp [ofJson, readFields, htext hapi, htext hpath, htext hkind, htext hname, htext hnamespace,
    htext hversion, htext huid]

end ObjectReference

/-! ## Specifications -/

namespace VolumeSpec

/-- The fields that nobody looks at are as they are read. -/
def IsRegular (s : VolumeSpec) : Prop :=
  Shape.readGroups depth Kube.Schema.volumeSpecRest s.rest = some s.rest

theorem specRest_isProper : Shape.areProper Kube.Schema.volumeSpecRest = true ∧
    (Shape.keysOf Kube.Schema.volumeSpecRest).Nodup := by
  decide

variable {s : VolumeSpec} {j : Json}

theorem isRegular_of_ofJson (h : ofJson j = some s) : s.IsRegular := by
  simp only [ofJson, Option.bind_eq_bind, Option.bind_eq_some_iff] at h
  obtain ⟨fs, -, claimRef, -, affinity, -, rest, hrest, h⟩ := h
  cases h
  exact Shape.readGroups_read _ specRest_isProper.1 specRest_isProper.2 hrest fun _ _ => rfl

def written (s : VolumeSpec) : Fields :=
  field "claimRef" ObjectReference.toJson s.claimRef
    ++ field "nodeAffinity" NodeAffinity.toJson s.nodeAffinity ++ s.rest

theorem ofJson_toJson (hs : s.IsRegular) : ofJson s.toJson = some s := by
  have hrest : ∀ key, key ∉ Shape.keysOf Kube.Schema.volumeSpecRest →
      Fields.all s.rest key = [] := fun key hkey => Shape.all_readGroups hs hkey
  have hclaim : Fields.all s.written "claimRef" = s.claimRef.toList.map ObjectReference.toJson := by
    simp [written, Fields.all_append, Fields.all_field, hrest "claimRef" (by decide)]
  have haffinity : Fields.all s.written "nodeAffinity" =
      s.nodeAffinity.toList.map NodeAffinity.toJson := by
    simp [written, Fields.all_append, Fields.all_field, hrest "nodeAffinity" (by decide)]
  have hgroups : Shape.readGroups depth Kube.Schema.volumeSpecRest s.written = some s.rest := by
    refine Shape.readGroups_read _ specRest_isProper.1 specRest_isProper.2 hs ?_
    intro key hkey
    have hclaimRef : "claimRef" ≠ key := fun h => absurd (h ▸ hkey) (by decide)
    have hnodeAffinity : "nodeAffinity" ≠ key := fun h => absurd (h ▸ hkey) (by decide)
    simp [written, Fields.all_append, Fields.all_field, hclaimRef, hnodeAffinity]
  rw [show s.toJson = obj s.written from rfl]
  simp [ofJson, readFields, hgroups,
    Fields.read?_written hclaim fun r _ => ⟨obj_ne_null _, ObjectReference.ofJson_toJson r⟩,
    Fields.read?_written haffinity fun a _ => ⟨obj_ne_null _, NodeAffinity.ofJson_toJson a⟩]

end VolumeSpec

/-! ## Volumes -/

namespace Volume

/-- The volume is as a volume that was read. -/
structure IsRegular (v : Volume) : Prop where
  metadata : v.metadata.IsRegular
  spec : ∀ s, v.spec = some s → s.IsRegular
  rest : Shape.readGroups 1 restGroups v.rest = some v.rest

theorem restGroups_isProper : Shape.areProper restGroups = true ∧
    (Shape.keysOf restGroups).Nodup := by
  decide

variable {v : Volume} {j : Json}

theorem isRegular_of_ofJson (h : ofJson j = some v) : v.IsRegular := by
  simp only [ofJson, Option.bind_eq_bind, Option.bind_eq_some_iff] at h
  obtain ⟨fs, -, m, hm, spec, hspec, rest, hrest, h⟩ := h
  cases h
  obtain ⟨value, hvalue, rfl⟩ := Option.map_eq_some_iff.mp hm
  refine ⟨?_, ?_,
    Shape.readGroups_read _ restGroups_isProper.1 restGroups_isProper.2 hrest fun _ _ => rfl⟩
  · cases value with
    | none => exact Metadata.isRegular_empty
    | some m =>
      obtain ⟨j, -, hj⟩ := Fields.exists_of_read? hvalue
      exact Metadata.isRegular_of_ofJson hj
  · rintro s rfl
    obtain ⟨j, -, hj⟩ := Fields.exists_of_read? hspec
    exact VolumeSpec.isRegular_of_ofJson hj

def written (v : Volume) : Fields :=
  field "apiVersion" str (some apiVersion) ++ field "kind" str (some kind)
    ++ field "metadata" Metadata.toJson (some v.metadata)
    ++ field "spec" VolumeSpec.toJson v.spec ++ v.rest

theorem toJson_eq (v : Volume) : v.toJson = obj v.written := by
  simp [toJson, object, written, field]

/-- A regular volume is read as it is written. -/
theorem ofJson_toJson (hv : v.IsRegular) : ofJson v.toJson = some v := by
  have hrest : ∀ key, key ∉ Shape.keysOf restGroups → Fields.all v.rest key = [] :=
    fun key hkey => Shape.all_readGroups hv.rest hkey
  have hversion : Fields.all v.written "apiVersion" = [str apiVersion] := by
    simp [written, Fields.all_append, Fields.all_field, hrest "apiVersion" (by decide)]
  have hkind : Fields.all v.written "kind" = [str kind] := by
    simp [written, Fields.all_append, Fields.all_field, hrest "kind" (by decide)]
  have hmetadata : Fields.all v.written "metadata" =
      (some v.metadata).toList.map Metadata.toJson := by
    simp [written, Fields.all_append, Fields.all_field, hrest "metadata" (by decide)]
  have hspec : Fields.all v.written "spec" = v.spec.toList.map VolumeSpec.toJson := by
    simp [written, Fields.all_append, Fields.all_field, hrest "spec" (by decide)]
  have hgroups : Shape.readGroups 1 restGroups v.written = some v.rest := by
    refine Shape.readGroups_read _ restGroups_isProper.1 restGroups_isProper.2 hv.rest ?_
    intro key hkey
    obtain rfl : key = "status" := by simpa [Shape.keysOf, restGroups, Shape.may] using hkey
    simp [written, Fields.all_append, Fields.all_field]
  have hobject : Fields.areOfKind v.written kind = true := by
    simp [Fields.areOfKind, hversion, hkind]
  rw [toJson_eq]
  simp [ofJson, readObject, hobject, Fields.metadata, hgroups,
    Fields.read?_written hmetadata fun m hm =>
      ⟨obj_ne_null _, Option.some.inj hm ▸ Metadata.ofJson_toJson hv.metadata⟩,
    Fields.read?_written hspec fun s hs => ⟨obj_ne_null _, VolumeSpec.ofJson_toJson (hv.spec s hs)⟩]

theorem IsRegular.unclaimed (hv : v.IsRegular) : v.unclaimed.IsRegular := by
  refine ⟨hv.metadata, fun s hs => ?_, hv.rest⟩
  obtain ⟨s', hs', rfl⟩ := Option.map_eq_some_iff.mp hs
  exact hv.spec s' hs'

/-- The volume in another version. -/
def withVersion (v : Volume) (version : String) : Volume :=
  { v with metadata := { v.metadata with resourceVersion := some version } }

theorem IsRegular.withVersion (hv : v.IsRegular) (version : String) :
    (v.withVersion version).IsRegular :=
  ⟨⟨hv.metadata.labels, hv.metadata.annotations, hv.metadata.rest⟩, hv.spec, hv.rest⟩

end Volume

end RingKeeper
