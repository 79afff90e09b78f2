import RingKeeper.Kube.ConfigMap
import RingKeeper.Proofs.Json.Shape
import RingKeeper.Registry.Basic

/-!
# Configmaps are read as they are written

1. `ConfigMap.IsRegular` is what is known of a configmap that was read: each key stands once in its
   tables, and the fields that nobody looks at are in their regular form (`isRegular_of_ofJson`).
2. `ConfigMap.ofJson_toJson`: a regular configmap is read from the document that is written of it.
3. The registry's edits keep a configmap regular.
-/

namespace RingKeeper

open Json

/-! ## Fields of a document -/

namespace Json

variable {α : Type} {fs : Fields} {key k : String} {read : Json → Option α} {write : α → Json}

theorem Fields.all_field (key k : String) (write : α → Json) (o : Option α) :
    Fields.all (field key write o) k = if key = k then o.toList.map write else [] := by
  cases o with
  | none => split <;> rfl
  | some a =>
    split
    · rename_i h
      subst h
      exact Fields.all_cons_self key (write a) []
    · rename_i h
      exact Fields.all_cons_of_ne h (write a) []

/-- A field is read as it was written, if its value is. -/
theorem Fields.read?_written {o : Option α} (hall : Fields.all fs key = o.toList.map write)
    (hread : ∀ a, o = some a → write a ≠ .null ∧ read (write a) = some a) :
    fs.read? key read = some o := by
  cases o with
  | none => exact Fields.read?_absent hall
  | some a =>
    obtain ⟨hne, ha⟩ := hread a rfl
    rw [Fields.read?_single hall, Fields.readOptional_of_ne hne, ha]
    rfl

theorem nodup_of_readTable {j : Json} {t : TextTable} (h : readTable j = some t) :
    t.keys.Nodup := by
  cases j with
  | obj fs =>
    obtain ⟨es, -, rfl⟩ := Option.map_eq_some_iff.mp h
    exact Table.nodup_ofList es
  | _ => cases h

theorem nodup_of_read? {o : Option TextTable} (h : fs.read? key readTable = some o) :
    ∀ t, o = some t → t.keys.Nodup := by
  rintro t rfl
  obtain ⟨j, -, hj⟩ := Fields.exists_of_read? h
  exact nodup_of_readTable hj

end Json

/-! ## Metadata -/

namespace Metadata

/-- The metadata is as metadata that was read. -/
structure IsRegular (m : Metadata) : Prop where
  labels : ∀ t, m.labels = some t → t.keys.Nodup
  annotations : ∀ t, m.annotations = some t → t.keys.Nodup
  rest : Shape.readGroups depth Kube.Schema.metadataRest m.rest = some m.rest

theorem metadataRest_isProper : Shape.areProper Kube.Schema.metadataRest = true ∧
    (Shape.keysOf Kube.Schema.metadataRest).Nodup := by
  decide

variable {m : Metadata} {j : Json}

theorem isRegular_empty : empty.IsRegular := ⟨nofun, nofun, rfl⟩

theorem isRegular_of_ofJson (h : ofJson j = some m) : m.IsRegular := by
  simp only [ofJson, Option.bind_eq_bind, Option.bind_eq_some_iff] at h
  obtain ⟨fs, -, _, -, _, -, _, -, _, -, _, -, labels, hlabels, annotations, hannotations, _, -,
    rest, hrest, h⟩ := h
  cases h
  exact ⟨nodup_of_read? hlabels, nodup_of_read? hannotations,
    Shape.readGroups_read _ metadataRest_isProper.1 metadataRest_isProper.2 hrest fun _ _ => rfl⟩

/-- The fields of metadata as it is written. -/
def written (m : Metadata) : Fields :=
  field "annotations" ofTable m.annotations
    ++ field "finalizers" ofTexts m.finalizers
    ++ field "generateName" str m.generateName
    ++ field "labels" ofTable m.labels
    ++ field "name" str m.name
    ++ field "namespace" str m.inNamespace
    ++ field "resourceVersion" str m.resourceVersion
    ++ field "uid" str m.uid
    ++ m.rest

theorem toJson_eq (m : Metadata) : m.toJson = obj m.written := rfl

/-- No other field of metadata has a key of the fields that nobody looks at. -/
theorem identity_ne_rest : ∀ key ∈ Shape.keysOf Kube.Schema.metadataRest,
    ∀ k ∈ Shape.keysOf Kube.Schema.metadataIdentity, k ≠ key := by
  decide

theorem readGroups_written (hm : m.IsRegular) :
    Shape.readGroups depth Kube.Schema.metadataRest m.written = some m.rest := by
  refine Shape.readGroups_read _ metadataRest_isProper.1 metadataRest_isProper.2 hm.rest ?_
  intro key hkey
  have hne := identity_ne_rest key hkey
  simp [written, Fields.all_append, Fields.all_field, hne "annotations" (by decide),
    hne "finalizers" (by decide), hne "generateName" (by decide), hne "labels" (by decide),
    hne "name" (by decide), hne "namespace" (by decide), hne "resourceVersion" (by decide),
    hne "uid" (by decide)]

/-- Regular metadata is read as it is written. -/
theorem ofJson_toJson (hm : m.IsRegular) : ofJson m.toJson = some m := by
  have hrest : ∀ key, key ∉ Shape.keysOf Kube.Schema.metadataRest → Fields.all m.rest key = [] :=
    fun key hkey => Shape.all_readGroups hm.rest hkey
  -- Under each of these keys there is what was written, and nothing in the other fields.
  have hname : Fields.all m.written "name" = m.name.toList.map str := by
    simp [written, Fields.all_append, Fields.all_field, hrest "name" (by decide)]
  have hgenerate : Fields.all m.written "generateName" = m.generateName.toList.map str := by
    simp [written, Fields.all_append, Fields.all_field, hrest "generateName" (by decide)]
  have hnamespace : Fields.all m.written "namespace" = m.inNamespace.toList.map str := by
    simp [written, Fields.all_append, Fields.all_field, hrest "namespace" (by decide)]
  have huid : Fields.all m.written "uid" = m.uid.toList.map str := by
    simp [written, Fields.all_append, Fields.all_field, hrest "uid" (by decide)]
  have hversion : Fields.all m.written "resourceVersion" = m.resourceVersion.toList.map str := by
    simp [written, Fields.all_append, Fields.all_field, hrest "resourceVersion" (by decide)]
  have hlabels : Fields.all m.written "labels" = m.labels.toList.map ofTable := by
    simp [written, Fields.all_append, Fields.all_field, hrest "labels" (by decide)]
  have hannotations : Fields.all m.written "annotations" = m.annotations.toList.map ofTable := by
    simp [written, Fields.all_append, Fields.all_field, hrest "annotations" (by decide)]
  have hfinalizers : Fields.all m.written "finalizers" = m.finalizers.toList.map ofTexts := by
    simp [written, Fields.all_append, Fields.all_field, hrest "finalizers" (by decide)]
  have htext : ∀ (s : String), str s ≠ .null ∧ str? (str s) = some s := fun s => ⟨nofun, rfl⟩
  rw [toJson_eq]
  simp [ofJson, readFields, Fields.read?_written hname fun s _ => htext s,
    Fields.read?_written hgenerate fun s _ => htext s,
    Fields.read?_written hnamespace fun s _ => htext s,
    Fields.read?_written huid fun s _ => htext s,
    Fields.read?_written hversion fun s _ => htext s,
    Fields.read?_written hlabels fun t ht => ⟨nofun, readTable_ofTable (hm.labels t ht)⟩,
    Fields.read?_written hannotations fun t ht => ⟨nofun, readTable_ofTable (hm.annotations t ht)⟩,
    Fields.read?_written hfinalizers fun ts _ => ⟨nofun, readList_ofTexts ts⟩,
    readGroups_written hm]

end Metadata

/-! ## Configmaps -/

namespace ConfigMap

/-- The configmap is as a configmap that was read. -/
structure IsRegular (c : ConfigMap) : Prop where
  metadata : c.metadata.IsRegular
  data : ∀ t, c.data = some t → t.keys.Nodup
  rest : Shape.readGroups 1 restGroups c.rest = some c.rest

theorem restGroups_isProper : Shape.areProper restGroups = true ∧
    (Shape.keysOf restGroups).Nodup := by
  decide

variable {c : ConfigMap} {j : Json}

theorem isRegular_of_ofJson (h : ofJson j = some c) : c.IsRegular := by
  simp only [ofJson, Option.bind_eq_bind, Option.bind_eq_some_iff] at h
  obtain ⟨fs, -, m, hm, data, hdata, _, -, rest, hrest, h⟩ := h
  cases h
  obtain ⟨value, hvalue, rfl⟩ := Option.map_eq_some_iff.mp hm
  refine ⟨?_, nodup_of_read? hdata,
    Shape.readGroups_read _ restGroups_isProper.1 restGroups_isProper.2 hrest fun _ _ => rfl⟩
  cases value with
  | none => exact Metadata.isRegular_empty
  | some m =>
    obtain ⟨j, -, hj⟩ := Fields.exists_of_read? hvalue
    exact Metadata.isRegular_of_ofJson hj

/-- The fields of a configmap as it is written. -/
def written (c : ConfigMap) : Fields :=
  [("apiVersion", str apiVersion), ("kind", str kind), ("metadata", c.metadata.toJson)]
    ++ (field "data" ofTable c.data ++ field "immutable" bool c.immutable ++ c.rest)

theorem toJson_eq (c : ConfigMap) : c.toJson = obj c.written := rfl

theorem all_written (c : ConfigMap) (key : String) : Fields.all c.written key =
    (if "apiVersion" = key then [str apiVersion] else [])
      ++ (if "kind" = key then [str kind] else [])
      ++ (if "metadata" = key then [c.metadata.toJson] else [])
      ++ (if "data" = key then c.data.toList.map ofTable else [])
      ++ (if "immutable" = key then c.immutable.toList.map bool else [])
      ++ Fields.all c.rest key := by
  have hwritten : c.written = field "apiVersion" id (some (str apiVersion))
      ++ field "kind" id (some (str kind)) ++ field "metadata" id (some c.metadata.toJson)
      ++ field "data" ofTable c.data ++ field "immutable" bool c.immutable ++ c.rest := by
    simp [written, field]
  rw [hwritten]
  simp only [Fields.all_append, Fields.all_field]
  rfl

/-- A regular configmap is read as it is written. -/
theorem ofJson_toJson (hc : c.IsRegular) : ofJson c.toJson = some c := by
  have hrest : ∀ key, key ∉ Shape.keysOf restGroups → Fields.all c.rest key = [] :=
    fun key hkey => Shape.all_readGroups hc.rest hkey
  have hversion : Fields.all c.written "apiVersion" = [str apiVersion] := by
    simp [all_written, hrest "apiVersion" (by decide)]
  have hkind : Fields.all c.written "kind" = [str kind] := by
    simp [all_written, hrest "kind" (by decide)]
  have hmetadata : Fields.all c.written "metadata" =
      (some c.metadata).toList.map Metadata.toJson := by
    simp [all_written, hrest "metadata" (by decide)]
  have hbool : ∀ b, bool b ≠ .null ∧ bool? (bool b) = some b := fun b => ⟨nofun, rfl⟩
  have hdata : Fields.all c.written "data" = c.data.toList.map ofTable := by
    simp [all_written, hrest "data" (by decide)]
  have himmutable : Fields.all c.written "immutable" = c.immutable.toList.map bool := by
    simp [all_written, hrest "immutable" (by decide)]
  have hgroups : Shape.readGroups 1 restGroups c.written = some c.rest := by
    refine Shape.readGroups_read _ restGroups_isProper.1 restGroups_isProper.2 hc.rest ?_
    intro key hkey
    obtain rfl : key = "binaryData" := by simpa [Shape.keysOf, restGroups, Shape.may] using hkey
    simp [all_written]
  have hobject : Fields.areOfKind c.written kind = true := by
    simp [Fields.areOfKind, hversion, hkind]
  rw [toJson_eq]
  simp [ofJson, readObject, hobject, Fields.metadata, hgroups,
    Fields.read?_written hmetadata fun m hm =>
      ⟨nofun, Option.some.inj hm ▸ Metadata.ofJson_toJson hc.metadata⟩,
    Fields.read?_written hdata fun t ht => ⟨nofun, readTable_ofTable (hc.data t ht)⟩,
    Fields.read?_written himmutable fun b _ => hbool b]

/-! ### Edits -/

theorem IsRegular.annotate (hc : c.IsRegular) (key value : String) :
    (c.annotate key value).IsRegular := by
  refine ⟨⟨hc.metadata.labels, fun t ht => ?_, hc.metadata.rest⟩, hc.data, hc.rest⟩
  obtain rfl := Option.some.inj ht
  cases hannotations : c.metadata.annotations with
  | none => exact Table.nodup_insert (t := .empty) List.nodup_nil key value
  | some t => exact Table.nodup_insert (hc.metadata.annotations t hannotations) key value

theorem IsRegular.setData (hc : c.IsRegular) (key value : String) :
    (c.setData key value).IsRegular := by
  refine ⟨hc.metadata, fun t ht => ?_, hc.rest⟩
  obtain rfl := Option.some.inj ht
  cases hdata : c.data with
  | none => exact Table.nodup_insert (t := .empty) List.nodup_nil key value
  | some t => exact Table.nodup_insert (hc.data t hdata) key value

theorem IsRegular.lockFor (hc : c.IsRegular) (holder : String) : (c.lockFor holder).IsRegular :=
  hc.annotate Registry.lockKey holder

theorem IsRegular.recordAddress (hc : c.IsRegular) (pod address : String) :
    (c.recordAddress pod address).IsRegular :=
  (hc.setData pod address).setData Registry.writerKey pod

end ConfigMap

end RingKeeper
