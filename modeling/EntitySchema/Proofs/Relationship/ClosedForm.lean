import EntitySchema.Proofs.Dict
import EntitySchema.Proofs.Noun.Shape
import EntitySchema.Relationship.Materialize
import Mathlib.Algebra.BigOperators.Group.List.Lemmas
import Mathlib.Algebra.GroupWithZero.Nat

/-! The closed form of materialization. The records are turned into demands by a table with one row
for each cardinality; an entity keeps its fields and gains one field for the first demand of each name
that is free. `Met` is the invariant of the run over the records. -/
namespace EntitySchema

theorem eraseDupsBy_sublist {α : Type} (r : α → α → Bool) (l : List α) :
    (l.eraseDupsBy r).Sublist l := by
  match l with
  | [] => exact List.Sublist.slnil
  | a :: as =>
    rw [List.eraseDupsBy_cons]
    exact ((eraseDupsBy_sublist r _).trans List.filter_sublist).cons_cons a
termination_by l.length
decreasing_by exact Nat.lt_succ_of_le (List.length_filter_le _ as)

theorem pairwise_eraseDupsBy {α : Type} (r : α → α → Bool) (l : List α) :
    (l.eraseDupsBy r).Pairwise fun a b => r b a = false := by
  match l with
  | [] => exact List.Pairwise.nil
  | a :: as =>
    rw [List.eraseDupsBy_cons, List.pairwise_cons]
    refine ⟨fun b hb => ?_, pairwise_eraseDupsBy r _⟩
    simpa using (List.mem_filter.mp ((eraseDupsBy_sublist r _).subset hb)).2
termination_by l.length
decreasing_by exact Nat.lt_succ_of_le (List.length_filter_le _ as)

/-- Of members with the same key the first is left. -/
theorem mem_eraseDupsBy_iff {α β : Type} [BEq β] [LawfulBEq β] (key : α → β) {l : List α} {a : α} :
    a ∈ l.eraseDupsBy (fun x y => key x == key y) ↔ l.find? (key · == key a) = some a := by
  match l with
  | [] => simp
  | b :: bs =>
    rw [List.eraseDupsBy_cons, List.mem_cons, mem_eraseDupsBy_iff key, List.find?_filter,
      List.find?_cons]
    by_cases hb : key b = key a
    · -- The members that are left have other keys than `b`, and so than `a`.
      have hnone : bs.find? (fun x => decide (decide ((key x == key b) = false) = true ∧
          (key x == key a) = true)) = none := by
        rw [List.find?_eq_none]
        intro x _
        simp [hb]
      rw [hnone, beq_iff_eq.mpr hb]
      simp [eq_comm]
    · have hrest (x : α) : decide (decide ((key x == key b) = false) = true ∧
          (key x == key a) = true) = (key x == key a) := by
        by_cases hx : key x = key a
        · simp [hx, Ne.symm hb]
        · simp [hx]
      have hne : a ≠ b := fun h => hb (by rw [h])
      rw [beq_eq_false_iff_ne.mpr hb]
      simp only [hrest, hne, false_or]
termination_by l.length
decreasing_by exact Nat.lt_succ_of_le (List.length_filter_le _ bs)

/-- A name given in a statement, or else the default. -/
def nameOr (given : Option String) (default : String) : String :=
  match given with
  | some name => if name = "" then default else name
  | none => default

/-- The default name of a field that holds one of its target. -/
def singleName (target : String) : String := String.ofList (Noun.lowerFirst target.toList)

def collectionName (target : String) : String :=
  String.ofList (Noun.plural [] (Noun.lowerFirst target.toList))

namespace RelationshipRecord

/-- The demand on the far side where only a name that is given creates the field. -/
def namedFarSide (r : RelationshipRecord) (c : Cardinality) : List Demand :=
  if nameOr r.targetField "" = "" then [] else [⟨r.target, nameOr r.targetField "", c, r.source⟩]

/-- The demands of a record, a row for each cardinality. -/
def demandTable (r : RelationshipRecord) : List Demand :=
  match r.cardinality? with
  | none => []
  | some .oneToMany =>
    [⟨r.source, nameOr r.sourceField (collectionName r.target), .oneToMany, r.target⟩,
      ⟨r.target, nameOr r.targetField (singleName r.source), .manyToOne, r.source⟩]
  | some .manyToMany =>
    [⟨r.source, nameOr r.sourceField (collectionName r.target), .manyToMany, r.target⟩,
      ⟨r.target, nameOr r.targetField (collectionName r.source), .manyToMany, r.source⟩]
  | some .manyToOne =>
    ⟨r.source, nameOr r.sourceField (singleName r.target), .manyToOne, r.target⟩ ::
      r.namedFarSide .oneToMany
  | some .oneToOne =>
    ⟨r.source, nameOr r.sourceField (singleName r.target), .oneToOne, r.target⟩ ::
      r.namedFarSide .oneToOne

def isKnown (declared : List String) (r : RelationshipRecord) : Bool :=
  declared.contains r.source && declared.contains r.target

/-- The demands of all records whose entities are declared, in the order of the records. -/
def allDemands (declared : List String) (records : List RelationshipRecord) : List Demand :=
  (records.filter (isKnown declared)).flatMap demandTable

end RelationshipRecord

namespace Demand

def on (entity : String) (ds : List Demand) : List Demand := ds.filter (·.owner == entity)

/-- Whether the name is reserved for the identifier or held by a relationship field already. -/
def isBlocked (fields : List Field) (d : Demand) : Bool :=
  Text.lowered d.name == "id" || fields.any fun f => f.isRelationship && f.name == d.name

/-- The demands that lead to a field: of those that are not blocked, the first with each name. -/
def kept (fields : List Field) (ds : List Demand) : List Demand :=
  (ds.filter fun d => !d.isBlocked fields).eraseDupsBy fun d e => d.name == e.name

/-- What a demand asks of its field. -/
structure IsMetBy (d : Demand) (f : Field) : Prop where
  name : f.name = d.name
  type : f.type = "relationship"
  required : f.required = false
  nullable : f.nullable = true
  isRelationship : f.isRelationship = true
  cardinality : f.cardinality = some d.cardinality
  target : f.target = some d.target
  isAudit : f.isAudit = none
  readOnly : f.readOnly = none

def field? (d : Demand) : Option Field := Field.relationship? d.name d.cardinality d.target

theorem field?_isSome {d : Demand} (h : d.name ≠ "") : ∃ f, d.field? = some f ∧ d.IsMetBy f := by
  simp only [field?, Field.relationship?, h, dite_false, Option.some.injEq, exists_eq_left']
  constructor <;> rfl

def addTo (fields : List Field) (d : Demand) : List Field :=
  match d.field? with
  | some f => (addRelationshipField fields (some d.owner) f).1
  | none => fields

theorem addTo_eq {d : Demand} {f : Field} (fields : List Field) (hf : d.field? = some f)
    (hm : d.IsMetBy f) : d.addTo fields = if d.isBlocked fields then fields else fields ++ [f] := by
  simp only [addTo, hf, addRelationshipField, Field.isId, isBlocked, hm.name]
  by_cases hid : (Text.lowered d.name == "id") = true
  · simp [hid]
  · by_cases ht : (fields.any fun g => g.isRelationship && g.name == d.name) = true <;>
      simp [hid, ht]

theorem kept_cons_of_blocked {fields : List Field} {d : Demand} (h : d.isBlocked fields = true)
    (ds : List Demand) : kept fields (d :: ds) = kept fields ds := by
  simp [kept, h]

/-- After a demand has its field, later demands with its name are blocked by that field. -/
theorem kept_cons_of_free {fields : List Field} {d : Demand} {f : Field}
    (h : d.isBlocked fields = false) (hm : d.IsMetBy f) (ds : List Demand) :
    kept fields (d :: ds) = d :: kept (fields ++ [f]) ds := by
  have hb (e : Demand) :
      (!(e.isBlocked fields) && !(e.name == d.name)) = !e.isBlocked (fields ++ [f]) := by
    simp only [isBlocked, List.any_append, List.any_cons, List.any_nil, Bool.or_false,
      hm.isRelationship, Bool.true_and, hm.name, ← Bool.not_or, Bool.or_assoc]
    rw [BEq.comm (a := e.name)]
  simp only [kept, List.filter_cons, h, Bool.not_false, if_true, List.eraseDupsBy_cons,
    List.filter_filter]
  congr 2
  apply List.filter_congr
  intro e _
  rw [← hb, Bool.and_comm, Bool.decide_eq_false]

theorem foldl_addTo {ds : List Demand} (h : ∀ d ∈ ds, d.name ≠ "") (fields : List Field) :
    ds.foldl (fun fs d => d.addTo fs) fields = fields ++ (kept fields ds).filterMap field? := by
  induction ds generalizing fields with
  | nil => simp [kept]
  | cons d ds ih =>
    obtain ⟨f, hf, hm⟩ := field?_isSome (h d (by simp))
    have ih := ih fun e he => h e (by simp [he])
    rw [List.foldl_cons, addTo_eq fields hf hm]
    by_cases hb : d.isBlocked fields = true
    · rw [if_pos hb, kept_cons_of_blocked hb, ih]
    · rw [if_neg hb, kept_cons_of_free (by simpa using hb) hm, ih, List.filterMap_cons, hf]
      simp

theorem kept_sublist (fields : List Field) (ds : List Demand) : (kept fields ds).Sublist ds :=
  (eraseDupsBy_sublist _ _).trans List.filter_sublist

theorem not_isBlocked_of_mem_kept {fields : List Field} {d : Demand} {ds : List Demand}
    (h : d ∈ kept fields ds) : d.isBlocked fields = false := by
  simpa using (List.mem_filter.mp ((eraseDupsBy_sublist _ _).subset h)).2

theorem isBlocked_congr {fields : List Field} {d e : Demand} (h : d.name = e.name) :
    d.isBlocked fields = e.isBlocked fields := by
  rw [isBlocked, isBlocked, h]

/-- The demands that are kept are those that are not blocked and come first with their name. -/
theorem mem_kept_iff {fields : List Field} {ds : List Demand} {d : Demand} :
    d ∈ kept fields ds ↔ d.isBlocked fields = false ∧ ds.find? (·.name == d.name) = some d := by
  have hname (e : Demand) : decide ((!e.isBlocked fields) = true ∧ (e.name == d.name) = true) =
      (!d.isBlocked fields && e.name == d.name) := by
    by_cases he : e.name = d.name
    · simp [isBlocked_congr he, he]
    · simp [he]
  rw [kept, mem_eraseDupsBy_iff name, List.find?_filter]
  simp only [hname]
  cases d.isBlocked fields with
  | false => simp
  | true =>
    have hnone : ds.find? (fun _ => false) = none := List.find?_eq_none.mpr (by simp)
    simp [hnone]

theorem nodup_map_name_kept (fields : List Field) (ds : List Demand) :
    ((kept fields ds).map Demand.name).Nodup := by
  rw [List.Nodup, List.pairwise_map]
  refine (pairwise_eraseDupsBy _ _).imp fun {d e} h he => ?_
  simp [he] at h

/-- The fields that the kept demands lead to are those demands in the form of fields. -/
theorem forall₂_filterMap_field? {ds : List Demand} (h : ∀ d ∈ ds, d.name ≠ "") :
    List.Forall₂ IsMetBy ds (ds.filterMap field?) := by
  induction ds with
  | nil => exact .nil
  | cons d ds ih =>
    obtain ⟨f, hf, hm⟩ := field?_isSome (h d (by simp))
    rw [List.filterMap_cons, hf]
    exact .cons hm (ih fun e he => h e (by simp [he]))

/-- Fields that meet demands have their names, and all of them are relationship fields. -/
theorem map_name_of_forall₂ {ds : List Demand} {fs : List Field} (h : List.Forall₂ IsMetBy ds fs) :
    (fs.filter (·.isRelationship)).map Field.name = ds.map name := by
  induction h with
  | nil => rfl
  | cons hm _ ih => simp [hm.isRelationship, hm.name, ih]

end Demand

namespace RelationshipRecord

theorem given?_getD (given : Option String) (default : String) :
    (given? given).getD default = nameOr given default := by
  cases given with
  | none => rfl
  | some name => by_cases h : name = "" <;> simp [given?, nameOr, h, Option.filter]

theorem given?_eq_none_iff (given : Option String) : given? given = none ↔ nameOr given "" = "" := by
  cases given with
  | none => simp [given?, nameOr]
  | some name => by_cases h : name = "" <;> simp [given?, nameOr, h]

theorem demands_eq_demandTable {r : RelationshipRecord} {c : Cardinality}
    (h : r.cardinality? = some c) : r.demands c = r.demandTable := by
  have near (d : String) := given?_getD r.sourceField d
  cases ht : given? r.targetField with
  | none =>
    have hn := (given?_eq_none_iff r.targetField).mp ht
    have far (d : String) : nameOr r.targetField d = d := by rw [← given?_getD, ht]; rfl
    cases c <;>
      simp [demands, demandTable, namedFarSide, h, ht, hn, near, far, alwaysTwoSided, defaultName,
        Cardinality.isCollection, Cardinality.inverse, singleName, collectionName]
  | some name =>
    have hn : nameOr r.targetField "" ≠ "" := by
      rw [ne_eq, ← given?_eq_none_iff, ht]
      simp
    have far (d : String) : nameOr r.targetField d = name := by rw [← given?_getD, ht]; rfl
    rw [far] at hn
    cases c <;>
      simp [demands, demandTable, namedFarSide, h, ht, hn, near, far, defaultName,
        Cardinality.isCollection, Cardinality.inverse, singleName, collectionName]

theorem nameOr_ne_empty {default : String} (h : default ≠ "") (given : Option String) :
    nameOr given default ≠ "" := by
  cases given with
  | none => exact h
  | some name => by_cases hn : name = "" <;> simp [nameOr, hn, h]

theorem singleName_ne_empty {target : String} (h : target ≠ "") : singleName target ≠ "" := by
  have ht : target.toList ≠ [] := by simpa using h
  simpa [singleName, ← String.toList_inj] using Noun.lowerFirst_ne_nil ht

theorem collectionName_ne_empty {target : String} (h : target ≠ "") : collectionName target ≠ "" := by
  have ht : target.toList ≠ [] := by simpa using h
  simpa [collectionName, ← String.toList_inj] using Noun.plural_ne_nil (Noun.lowerFirst_ne_nil ht)

/-- The names that a side can have: the given one, or a default made of the entity that it targets. -/
def SideName (given : Option String) (target name : String) : Prop :=
  name = nameOr given (singleName target) ∨ name = nameOr given (collectionName target) ∨
    name = nameOr given "" ∧ name ≠ ""

/-- Each demand of a record is on one of its entities, targets the other and has the name of its
side. -/
theorem mem_demandTable {r : RelationshipRecord} {d : Demand} (h : d ∈ r.demandTable) :
    d.owner = r.source ∧ d.target = r.target ∧ SideName r.sourceField r.target d.name ∨
      d.owner = r.target ∧ d.target = r.source ∧ SideName r.targetField r.source d.name := by
  have far {c : Cardinality} (hd : d ∈ r.namedFarSide c) :
      d.owner = r.target ∧ d.target = r.source ∧ SideName r.targetField r.source d.name := by
    unfold namedFarSide at hd
    split at hd
    · simp at hd
    · rename_i hn
      rw [List.mem_singleton.mp hd]
      exact ⟨rfl, rfl, .inr (.inr ⟨rfl, hn⟩)⟩
  unfold demandTable at h
  split at h
  · simp at h
  · simp only [List.mem_cons, List.not_mem_nil, or_false] at h
    rcases h with rfl | rfl
    · exact .inl ⟨rfl, rfl, .inr (.inl rfl)⟩
    · exact .inr ⟨rfl, rfl, .inl rfl⟩
  · simp only [List.mem_cons, List.not_mem_nil, or_false] at h
    rcases h with rfl | rfl
    · exact .inl ⟨rfl, rfl, .inr (.inl rfl)⟩
    · exact .inr ⟨rfl, rfl, .inr (.inl rfl)⟩
  · rcases List.mem_cons.mp h with rfl | h
    · exact .inl ⟨rfl, rfl, .inl rfl⟩
    · exact .inr (far h)
  · rcases List.mem_cons.mp h with rfl | h
    · exact .inl ⟨rfl, rfl, .inl rfl⟩
    · exact .inr (far h)

theorem SideName.ne_empty {given : Option String} {target name : String}
    (h : SideName given target name) (ht : target ≠ "") : name ≠ "" := by
  rcases h with rfl | rfl | h
  · exact nameOr_ne_empty (singleName_ne_empty ht) given
  · exact nameOr_ne_empty (collectionName_ne_empty ht) given
  · exact h.2

theorem mem_allDemands {declared : List String} {records : List RelationshipRecord} {d : Demand} :
    d ∈ allDemands declared records ↔ ∃ r ∈ records,
      (r.source ∈ declared ∧ r.target ∈ declared) ∧ d ∈ r.demandTable := by
  simp [allDemands, isKnown, and_assoc]

theorem declared_of_mem_allDemands {declared : List String} {records : List RelationshipRecord}
    {d : Demand} (h : d ∈ allDemands declared records) :
    d.owner ∈ declared ∧ d.target ∈ declared := by
  obtain ⟨r, -, ⟨hs, ht⟩, hd⟩ := mem_allDemands.mp h
  rcases mem_demandTable hd with ⟨ho, ht', -⟩ | ⟨ho, ht', -⟩
  · exact ⟨ho ▸ hs, ht' ▸ ht⟩
  · exact ⟨ho ▸ ht, ht' ▸ hs⟩

end RelationshipRecord

/-- The demands of a record with declared entities are on entities that are declared, and have
names. -/
theorem RelationshipRecord.owner_mem_of_mem_demandTable {declared : List String}
    (hn : ∀ entity ∈ declared, entity ≠ "") {r : RelationshipRecord} (hs : r.source ∈ declared)
    (ht : r.target ∈ declared) {d : Demand} (hd : d ∈ r.demandTable) :
    d.owner ∈ declared ∧ d.name ≠ "" := by
  rcases mem_demandTable hd with ⟨ho, -, hname⟩ | ⟨ho, -, hname⟩
  · exact ⟨ho ▸ hs, hname.ne_empty (hn _ ht)⟩
  · exact ⟨ho ▸ ht, hname.ne_empty (hn _ hs)⟩

/-- A record is applied by meeting each of its demands on the entity that owns it. -/
theorem Materialization.applyTo_eq {r : RelationshipRecord} {c : Cardinality}
    (hc : r.cardinality? = some c) (m : Materialization) :
    m.applyTo r.source r.target r = r.demandTable.foldl (fun m d => m.meet d.owner d) m := by
  -- The keys that demands are zipped with are their owners.
  have hzip : (r.demands c).zip [r.source, r.target] = (r.demands c).map fun d => (d, d.owner) := by
    simp only [RelationshipRecord.demands]
    split
    · simp only [List.zip_cons_cons, List.zip_nil_right, List.map_cons, List.map_nil]
    · split <;> simp only [List.zip_cons_cons, List.zip_nil_left, List.zip_nil_right,
        List.map_cons, List.map_nil]
  simp only [applyTo, hc]
  rw [hzip, List.foldl_map, RelationshipRecord.demands_eq_demandTable hc]

/-- Changing one value changes a total by the difference of that value. -/
theorem Dict.sum_values_map_single {α : Type} (d : Dict α) (w : α → Nat) (f : α → α) {key : String}
    {v : α} (h : d.get? key = some v) :
    ((d.map fun k x => if k = key then f x else x).values.map w).sum + w v =
      (d.values.map w).sum + w (f v) := by
  have hl (l : List (String × α)) (hn : (l.map Prod.fst).Nodup) (hv : l.lookup key = some v) :
      (l.map fun e => w (if e.1 = key then f e.2 else e.2)).sum + w v =
        (l.map fun e => w e.2).sum + w (f v) := by
    induction l with
    | nil => simp at hv
    | cons e r ih =>
      rw [List.map_cons, List.nodup_cons] at hn
      rw [lookup_cons_if] at hv
      by_cases he : e.1 = key
      · have hr : (r.map fun e => w (if e.1 = key then f e.2 else e.2)) = r.map fun e => w e.2 := by
          apply List.map_congr_left
          intro a ha
          have : a.1 ≠ key := fun hk => hn.1 (he ▸ hk ▸ List.mem_map_of_mem ha)
          rw [if_neg this]
        rw [if_pos he.symm, Option.some.injEq] at hv
        rw [List.map_cons, List.sum_cons, List.map_cons, List.sum_cons, hr, if_pos he, hv]
        omega
      · rw [if_neg (Ne.symm he)] at hv
        have := ih hn.2 hv
        rw [List.map_cons, List.sum_cons, List.map_cons, List.sum_cons, if_neg he]
        omega
  simpa [Dict.map, Dict.values, Function.comp_def] using hl d.entries d.nodup h

/-- The list grows by one field exactly when the field is new. -/
theorem addRelationshipField_length (fields : List Field) (owner : Option String) (f : Field) :
    (addRelationshipField fields owner f).1.length =
      fields.length + if (addRelationshipField fields owner f).2.1 then 1 else 0 := by
  unfold addRelationshipField
  split
  · simp
  · split <;> simp

def fieldTotal (entities : Dict (List Field)) : Nat := (entities.values.map List.length).sum

/-- What a run has come to after it met the demands `ds` on `entities`. -/
structure Met (entities : Dict (List Field)) (ds : List Demand) (m : Materialization) : Prop where
  named : ∀ d ∈ ds, d.name ≠ ""
  nameless : m.nameless = false
  entities_eq : m.entities =
    entities.map fun entity fields => (Demand.on entity ds).foldl (fun fs d => d.addTo fs) fields
  added_eq : m.added + fieldTotal entities = fieldTotal m.entities

namespace Met

variable {entities : Dict (List Field)} {ds : List Demand} {m : Materialization}

theorem start (entities : Dict (List Field)) : Met entities [] { entities } where
  named := by simp
  nameless := rfl
  entities_eq := by simp [Demand.on]
  added_eq := by simp

theorem keys_eq (h : Met entities ds m) : m.entities.keys = entities.keys := by
  rw [h.entities_eq, Dict.keys_map]

theorem meet (h : Met entities ds m) {d : Demand} (hd : d.owner ∈ entities.keys)
    (hn : d.name ≠ "") : Met entities (ds ++ [d]) (m.meet d.owner d) := by
  obtain ⟨f, hf, -⟩ := Demand.field?_isSome hn
  obtain ⟨fields, hfields⟩ : ∃ fields, m.entities.get? d.owner = some fields := by
    rw [← Option.isSome_iff_exists, Dict.get?_isSome_iff, h.keys_eq]
    exact hd
  have hadd (fs : List Field) : (addRelationshipField fs (some d.owner) f).1 = d.addTo fs := by
    simp [Demand.addTo, hf]
  have hm : m.entities.modify d.owner
      (fun _ => (addRelationshipField ((m.entities.get? d.owner).getD []) (some d.owner) f).1) =
        m.entities.map fun k fs => if k = d.owner then d.addTo fs else fs := by
    rw [hadd]
    exact m.entities.modify_get? d.owner (fun fs => d.addTo fs) []
  have hf' : Field.relationship? d.name d.cardinality d.target = some f := hf
  simp only [Materialization.meet, h.nameless, Bool.false_eq_true, if_false, hf']
  constructor
  · intro e he
    rcases List.mem_append.mp he with he | he
    · exact h.named e he
    · rwa [List.mem_singleton.mp he]
  · rfl
  · simp only [hm]
    rw [h.entities_eq, Dict.map_map]
    congr 1
    funext k fs
    by_cases hk : k = d.owner
    · simp [Demand.on, hk]
    · simp [Demand.on, hk, Ne.symm hk]
  · have hlen := addRelationshipField_length fields (some d.owner) f
    have hsum := m.entities.sum_values_map_single List.length (fun fs => d.addTo fs) hfields
    have hadded := h.added_eq
    rw [hadd] at hlen
    simp only [hm]
    simp only [hfields, Option.getD_some, fieldTotal] at hadded ⊢
    change m.added + (if (addRelationshipField fields (some d.owner) f).2.1 = true then 1 else 0) +
      _ = _
    omega

theorem foldl_meet (h : Met entities ds m) {more : List Demand}
    (hm : ∀ d ∈ more, d.owner ∈ entities.keys ∧ d.name ≠ "") :
    Met entities (ds ++ more) (more.foldl (fun m d => m.meet d.owner d) m) := by
  induction more generalizing ds m with
  | nil => simpa using h
  | cons d more ih =>
    have hd := hm d (by simp)
    have := ih (h.meet hd.1 hd.2) fun e he => hm e (by simp [he])
    simpa using this

theorem applyTo (h : Met entities ds m) (hn : ∀ entity ∈ entities.keys, entity ≠ "")
    {r : RelationshipRecord} {c : Cardinality} (hc : r.cardinality? = some c)
    (hs : r.source ∈ entities.keys) (ht : r.target ∈ entities.keys) :
    Met entities (ds ++ r.demandTable) (m.applyTo r.source r.target r) := by
  rw [Materialization.applyTo_eq hc]
  exact h.foldl_meet fun d hd => RelationshipRecord.owner_mem_of_mem_demandTable hn hs ht hd

theorem apply (h : Met entities ds m) (hn : ∀ entity ∈ entities.keys, entity ≠ "")
    (r : RelationshipRecord) :
    Met entities (ds ++ RelationshipRecord.allDemands entities.keys [r]) (m.apply r) := by
  have skip (message : String) (f : Jdl.Finding) : Met entities ds (m.skip message f) :=
    ⟨h.named, h.nameless, h.entities_eq, h.added_eq⟩
  have hmissing : ([r.source, r.target].filter fun e => !m.entities.contains e) = [] ↔
      r.isKnown entities.keys = true := by
    simp [RelationshipRecord.isKnown, Dict.contains, h.keys_eq]
  simp only [Materialization.apply, h.nameless, Bool.false_eq_true, if_false]
  by_cases hk : r.isKnown entities.keys = true
  · have hst : r.source ∈ entities.keys ∧ r.target ∈ entities.keys := by
      simpa [RelationshipRecord.isKnown] using hk
    rw [if_neg (not_not.mpr (hmissing.mpr hk))]
    cases hc : r.cardinality? with
    | none =>
      have : r.demandTable = [] := by simp [RelationshipRecord.demandTable, hc]
      simpa [RelationshipRecord.allDemands, hk, this] using skip _ _
    | some c =>
      simpa [RelationshipRecord.allDemands, hk] using h.applyTo hn hc hst.1 hst.2
  · rw [if_pos (fun hm => hk (hmissing.mp hm))]
    simpa [RelationshipRecord.allDemands, hk] using skip _ _

theorem foldl_apply (h : Met entities ds m) (hn : ∀ entity ∈ entities.keys, entity ≠ "")
    (records : List RelationshipRecord) :
    Met entities (ds ++ RelationshipRecord.allDemands entities.keys records)
      (records.foldl Materialization.apply m) := by
  induction records generalizing ds m with
  | nil => simpa [RelationshipRecord.allDemands] using h
  | cons r records ih =>
    have hsplit : RelationshipRecord.allDemands entities.keys (r :: records) =
        RelationshipRecord.allDemands entities.keys [r] ++
          RelationshipRecord.allDemands entities.keys records := by
      rw [← List.singleton_append, RelationshipRecord.allDemands, List.filter_append,
        List.flatMap_append]
      rfl
    rw [List.foldl_cons, hsplit, ← List.append_assoc]
    exact ih (h.apply hn r)

theorem materialize (hn : ∀ entity ∈ entities.keys, entity ≠ "")
    (records : List RelationshipRecord) :
    Met entities (RelationshipRecord.allDemands entities.keys records)
      (materialize entities records) := by
  have h := (start entities).foldl_apply hn records
  rw [List.nil_append] at h
  simp only [EntitySchema.materialize, h.nameless, Bool.false_eq_true, if_false]
  exact ⟨h.named, rfl, h.entities_eq, h.added_eq⟩

/-- The fields of an entity after a run: its own, then those of the demands that are kept. -/
theorem get?_eq (h : Met entities ds m) (entity : String) :
    m.entities.get? entity = (entities.get? entity).map fun fields =>
      fields ++ (Demand.kept fields (Demand.on entity ds)).filterMap Demand.field? := by
  have hn : ∀ d ∈ Demand.on entity ds, d.name ≠ "" := fun d hd =>
    h.named d (List.mem_of_mem_filter hd)
  rw [h.entities_eq, Dict.get?_map]
  congr 1
  funext fields
  exact Demand.foldl_addTo hn fields

theorem forall₂_kept (h : Met entities ds m) (entity : String) (fields : List Field) :
    List.Forall₂ Demand.IsMetBy (Demand.kept fields (Demand.on entity ds))
      ((Demand.kept fields (Demand.on entity ds)).filterMap Demand.field?) :=
  Demand.forall₂_filterMap_field? fun d hd =>
    h.named d (List.mem_of_mem_filter ((Demand.kept_sublist _ _).subset hd))

theorem added_eq_sum (h : Met entities ds m) :
    m.added =
      (entities.entries.map fun e => (Demand.kept e.2 (Demand.on e.1 ds)).length).sum := by
  have hn (entity : String) : ∀ d ∈ Demand.on entity ds, d.name ≠ "" := fun d hd =>
    h.named d (List.mem_of_mem_filter hd)
  have hadded := h.added_eq
  have hlen (e : String × List Field) :
      ((Demand.on e.1 ds).foldl (fun fs d => d.addTo fs) e.2).length =
        e.2.length + (Demand.kept e.2 (Demand.on e.1 ds)).length := by
    rw [Demand.foldl_addTo (hn e.1), List.length_append, ← (h.forall₂_kept e.1 e.2).length_eq]
  simp only [fieldTotal, h.entities_eq, Dict.values, Dict.map, List.map_map, Function.comp_def,
    hlen, List.sum_map_add] at hadded
  omega

end Met

/-- Materialization keeps the entities in their order. Each entity keeps its fields and gains, in the
order of the records, one field for the first demand of each name that is neither `id` in some letter
case nor held by one of its own relationship fields. The count is that of the fields gained. -/
theorem materialize_closedForm (entities : Dict (List Field)) (records : List RelationshipRecord)
    (named : ∀ entity ∈ entities.keys, entity ≠ "") :
    let m := materialize entities records
    let demands := RelationshipRecord.allDemands entities.keys records
    m.nameless = false ∧ m.entities.keys = entities.keys ∧
      (∀ entity fields, entities.get? entity = some fields → ∃ gained,
        m.entities.get? entity = some (fields ++ gained) ∧
          List.Forall₂ Demand.IsMetBy (Demand.kept fields (Demand.on entity demands)) gained) ∧
      m.added =
        (entities.entries.map fun e => (Demand.kept e.2 (Demand.on e.1 demands)).length).sum := by
  intro m demands
  have h : Met entities demands m := Met.materialize named records
  refine ⟨h.nameless, h.keys_eq, ?_, h.added_eq_sum⟩
  intro entity fields hfields
  refine ⟨_, ?_, h.forall₂_kept entity fields⟩
  rw [h.get?_eq, hfields, Option.map_some]

/-- A record on one entity with itself, a clash with an earlier name, the reserved name, an unknown
type and an undeclared entity. -/
theorem materialize_closedForm_tree :
    (materialize ⟨[("Node", [Field.id]), ("Tag", [Field.id])], by decide⟩
      [⟨"OneToMany", "Node", "Node", some "children", some "parent"⟩,
        ⟨"ManyToMany", "Node", "Tag", some "", none⟩,
        ⟨"onetoone", "Tag", "Node", some "nodes", some "ID"⟩,
        ⟨"Many", "Node", "Tag", none, none⟩, ⟨"OneToOne", "Node", "Leaf", none, none⟩]).added = 4 := by
  have h := (materialize_closedForm ⟨[("Node", [Field.id]), ("Tag", [Field.id])], by decide⟩
    [⟨"OneToMany", "Node", "Node", some "children", some "parent"⟩,
      ⟨"ManyToMany", "Node", "Tag", some "", none⟩,
      ⟨"onetoone", "Tag", "Node", some "nodes", some "ID"⟩,
      ⟨"Many", "Node", "Tag", none, none⟩, ⟨"OneToOne", "Node", "Leaf", none, none⟩]
    (by decide)).2.2.2
  exact h.trans (by decide)

end EntitySchema
