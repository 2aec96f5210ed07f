import Mathlib.Data.List.Nodup
import Mathlib.Logic.Relation
import RetrievalKit.Json.Record
import RetrievalKit.Proofs.Json.Dict

/-!
# Spellings of a record

What may be written differently in a record without changing what is read from it.  A reader is
described by one rule for each field; a spelling changes one thing that the rules leave open.

* `FieldRule` — whether a field may be null, what its absence stands for, and which of its values
  say the same;
* `Respells` — one change to an object: an unknown key, a null that comes or goes, a standard value
  left out, a value that says the same;
* `IsRow` — an array of the fields in order, from whose end standard values may be missing;
* `RecordReader` — a reader that goes by its rules;
* `RecordReader.read_respelled`, `RecordReader.read_row` — it reads every spelling alike.
-/

namespace RetrievalKit

/-! ## Rules -/

/-- What a reader makes of one field. -/
structure FieldRule where
  name : String
  /-- Whether null and absence both say that there is no value. -/
  isOption : Bool
  /-- What absence stands for, in an object and at the end of an array. -/
  standard : Option Json
  /-- Values that say the same. -/
  alike : Json → Json → Prop

namespace FieldRule

/-- A field that has to be there. -/
def plain (name : String) : FieldRule := ⟨name, false, none, Eq⟩

/-- A field that may be missing or null. -/
def option (name : String) : FieldRule := ⟨name, true, some .null, Eq⟩

/-- A field that may be missing when it holds a given value. -/
def withStandard (name : String) (value : Json) : FieldRule := ⟨name, false, some value, Eq⟩

/-- A field that holds a record, or several, with spellings of their own. -/
def nested (alike : Json → Json → Prop) (rule : FieldRule) : FieldRule :=
  { rule with alike := alike }

@[simp] theorem plain_name (name : String) : (plain name).name = name := rfl

@[simp] theorem option_name (name : String) : (option name).name = name := rfl

@[simp] theorem withStandard_name (name : String) (value : Json) :
    (withStandard name value).name = name := rfl

@[simp] theorem nested_name (alike : Json → Json → Prop) (rule : FieldRule) :
    (rule.nested alike).name = rule.name := rfl

/-- What a field holds says the same, for one that goes by the rule. -/
inductive Same (rule : FieldRule) : Option Json → Option Json → Prop
  | refl (o : Option Json) : Same rule o o
  | symm {o o' : Option Json} (h : Same rule o o') : Same rule o' o
  | null (h : rule.isOption = true) : Same rule none (some .null)
  | standard {v : Json} (h : rule.standard = some v) : Same rule none (some v)
  | alike {v v' : Json} (h : rule.alike v v') : Same rule (some v) (some v')

theorem Same.eq_of_plain {name : String} {o o' : Option Json} (h : (plain name).Same o o') :
    o = o' := by
  induction h with
  | refl o => rfl
  | symm _ ih => exact ih.symm
  | null h => cases h
  | standard h => cases h
  | alike h => exact congrArg some h

end FieldRule

namespace Field

variable {α : Type} {read : Json → Option α} {rule : FieldRule} {o o' : Option Json}

theorem required_same (hoption : rule.isOption = false) (hstandard : rule.standard = none)
    (halike : ∀ v v', rule.alike v v' → read v = read v') (h : rule.Same o o') :
    required read o = required read o' := by
  induction h with
  | refl o => rfl
  | symm _ ih => exact ih.symm
  | null h => rw [hoption] at h; cases h
  | standard h => rw [hstandard] at h; cases h
  | alike h => exact halike _ _ h

theorem optional_same (hstandard : ∀ v, rule.standard = some v → v = .null)
    (halike : ∀ v v', rule.alike v v' → optional read (some v) = optional read (some v'))
    (h : rule.Same o o') : optional read o = optional read o' := by
  induction h with
  | refl o => rfl
  | symm _ ih => exact ih.symm
  | null _ => rfl
  | standard h => rw [hstandard _ h]; rfl
  | alike h => exact halike _ _ h

theorem withDefault_same {value : α} (hoption : rule.isOption = false)
    (hstandard : ∀ v, rule.standard = some v → read v = some value)
    (halike : ∀ v v', rule.alike v v' → read v = read v') (h : rule.Same o o') :
    withDefault value read o = withDefault value read o' := by
  induction h with
  | refl o => rfl
  | symm _ ih => exact ih.symm
  | null h => rw [hoption] at h; cases h
  | standard h => exact (hstandard _ h).symm
  | alike h => exact halike _ _ h

end Field

/-! ## Objects -/

/-- One change to an object that is to make no difference. -/
inductive Respells (rules : List FieldRule) (d : Dict) : Dict → Prop
  /-- A key that names no field. -/
  | unknown {key : String} {value : Json} (h : key ∉ rules.map (·.name)) :
    Respells rules d (d.insert key value)
  /-- Null in place of an absent value. -/
  | null {rule : FieldRule} (hrule : rule ∈ rules) (hoption : rule.isOption = true)
    (habsent : Dict.get? rule.name d = none) : Respells rules d (d.insert rule.name .null)
  /-- No value in place of null. -/
  | absent {rule : FieldRule} (hrule : rule ∈ rules) (hoption : rule.isOption = true)
    (hnull : Dict.get? rule.name d = some .null) : Respells rules d (d.erase rule.name)
  /-- A standard value left out. -/
  | standard {rule : FieldRule} {v : Json} (hrule : rule ∈ rules)
    (hstandard : rule.standard = some v) (hv : Dict.get? rule.name d = some v) :
    Respells rules d (d.erase rule.name)
  /-- Another value that says the same. -/
  | alike {rule : FieldRule} {v v' : Json} (hrule : rule ∈ rules)
    (hv : Dict.get? rule.name d = some v) (halike : rule.alike v v') :
    Respells rules d (d.insert rule.name v')

theorem same_of_change {rules : List FieldRule} (hnodup : (rules.map (·.name)).Nodup)
    {rule : FieldRule} (hrule : rule ∈ rules) {d d' : Dict}
    (hothers : ∀ name, rule.name ≠ name → Dict.get? name d' = Dict.get? name d)
    (hself : rule.Same (Dict.get? rule.name d) (Dict.get? rule.name d')) :
    ∀ other ∈ rules, other.Same (Dict.get? other.name d) (Dict.get? other.name d') := by
  intro other hother
  by_cases hname : rule.name = other.name
  · rw [← List.inj_on_of_nodup_map hnodup hrule hother hname]
    exact hself
  · rw [hothers other.name hname]
    exact .refl _

/-- A change leaves every field to say the same. -/
theorem Respells.same {rules : List FieldRule} (hnodup : (rules.map (·.name)).Nodup) {d d' : Dict}
    (h : Respells rules d d') :
    ∀ rule ∈ rules, rule.Same (Dict.get? rule.name d) (Dict.get? rule.name d') := by
  cases h with
  | @unknown key value hkey =>
    intro rule hrule
    have hne : key ≠ rule.name := by
      rintro rfl
      exact hkey (List.mem_map_of_mem hrule)
    rw [Dict.get?_insert_of_ne hne]
    exact .refl _
  | null hrule hoption habsent =>
    refine same_of_change hnodup hrule (fun name hne => Dict.get?_insert_of_ne hne _ _) ?_
    rw [habsent, Dict.get?_insert_self]
    exact .null hoption
  | absent hrule hoption hnull =>
    refine same_of_change hnodup hrule (fun name hne => ?_) ?_
    · rw [Dict.get?_erase, if_neg hne]
    · rw [hnull, Dict.get?_erase, if_pos rfl]
      exact (FieldRule.Same.null hoption).symm
  | standard hrule hstandard hv =>
    refine same_of_change hnodup hrule (fun name hne => ?_) ?_
    · rw [Dict.get?_erase, if_neg hne]
    · rw [hv, Dict.get?_erase, if_pos rfl]
      exact (FieldRule.Same.standard hstandard).symm
  | alike hrule hv halike =>
    refine same_of_change hnodup hrule (fun name hne => Dict.get?_insert_of_ne hne _ _) ?_
    rw [hv, Dict.get?_insert_self]
    exact .alike halike

/-! ## Arrays -/

/-- The items are the values of the fields in order; of those at the end, any number may be missing
that are the standard ones. -/
def IsRow (rules : List FieldRule) (values items : List Json) : Prop :=
  ∃ missing, values = items ++ missing ∧
    missing.map some = (rules.drop items.length).map (·.standard)

/-- A row begins with the value of a field that has to be there. -/
theorem IsRow.exists_cons {rule : FieldRule} {rules : List FieldRule} {v : Json}
    {values items : List Json} (hneeded : rule.standard = none)
    (h : IsRow (rule :: rules) (v :: values) items) :
    ∃ rest, items = v :: rest ∧ IsRow rules values rest := by
  obtain ⟨missing, hvalues, hmissing⟩ := h
  cases items with
  | nil =>
    rw [List.nil_append] at hvalues
    rw [← hvalues, List.length_nil, List.drop_zero, List.map_cons, List.map_cons, hneeded]
      at hmissing
    cases hmissing
  | cons item rest =>
    obtain ⟨rfl, hrest⟩ := List.cons.inj hvalues
    exact ⟨rest, rfl, missing, hrest, hmissing⟩

/-- All values make a row. -/
theorem isRow_self {rules : List FieldRule} {values : List Json}
    (hlength : values.length = rules.length) : IsRow rules values values := by
  refine ⟨[], (List.append_nil values).symm, ?_⟩
  rw [hlength, List.drop_length]
  rfl

/-- The item of an array under the name of a field. -/
def itemOf (rules : List FieldRule) (items : List Json) (name : String) : Option Json :=
  ((rules.map (·.name)).zip items).lookup name

@[simp] theorem itemOf_cons (rule : FieldRule) (rules : List FieldRule) (v : Json)
    (items : List Json) (name : String) :
    itemOf (rule :: rules) (v :: items) name =
      if name = rule.name then some v else itemOf rules items name := by
  unfold itemOf
  rw [List.map_cons, List.zip_cons_cons, List.lookup_cons]
  by_cases h : name = rule.name
  · rw [if_pos h, beq_iff_eq.mpr h]
  · rw [if_neg h, beq_eq_false_iff_ne.mpr h]

theorem itemOf_eq {rules : List FieldRule} (hnodup : (rules.map (·.name)).Nodup)
    (items : List Json) {i : Nat} {rule : FieldRule} (hi : rules[i]? = some rule) :
    itemOf rules items rule.name = items[i]? := by
  induction rules generalizing items i with
  | nil => cases hi
  | cons first rules ih =>
    obtain ⟨hfirst, hnodup⟩ := List.nodup_cons.mp hnodup
    cases items with
    | nil => rfl
    | cons item items =>
      rw [itemOf_cons]
      cases i with
      | zero =>
        cases hi
        exact if_pos rfl
      | succ i =>
        have hne : ¬ rule.name = first.name := fun heq =>
          hfirst (List.mem_map.mpr ⟨rule, List.mem_of_getElem? hi, heq⟩)
        rw [if_neg hne]
        exact ih hnodup items hi

/-- What is missing from a row is what the fields stand for. -/
theorem IsRow.same {rules : List FieldRule} (hnodup : (rules.map (·.name)).Nodup)
    {values items : List Json} (h : IsRow rules values items) :
    ∀ rule ∈ rules, rule.Same (itemOf rules items rule.name) (itemOf rules values rule.name) := by
  obtain ⟨missing, rfl, hmissing⟩ := h
  intro rule hrule
  obtain ⟨i, hi⟩ := List.mem_iff_getElem?.mp hrule
  rw [itemOf_eq hnodup _ hi, itemOf_eq hnodup _ hi]
  by_cases hlt : i < items.length
  · rw [List.getElem?_append_left hlt]
    exact .refl _
  · have hge : items.length ≤ i := Nat.le_of_not_lt hlt
    rw [List.getElem?_append_right hge, List.getElem?_eq_none hge]
    have hstandard := congrArg (fun values => values[i - items.length]?) hmissing
    simp only [List.getElem?_map, List.getElem?_drop, Nat.add_sub_cancel' hge, hi,
      Option.map_some] at hstandard
    obtain ⟨v, hv, heq⟩ := Option.map_eq_some_iff.mp hstandard
    rw [hv]
    exact .standard heq.symm

/-! ## Readers -/

/-- A reader that looks its fields up by name and goes by their rules. -/
structure RecordReader (α : Type) where
  rules : List FieldRule
  /-- How many items an array has at least. -/
  least : Nat
  decode : (String → Option Json) → Option α
  nodup : (rules.map (·.name)).Nodup
  least_le : least ≤ rules.length
  /-- A shorter array lacks a field that has to be there. -/
  needed : ∀ n < least, ∃ rule ∈ rules.drop n, rule.standard = none
  /-- Fields that say the same are read alike. -/
  sees : ∀ get get' : String → Option Json,
    (∀ rule ∈ rules, rule.Same (get rule.name) (get' rule.name)) → decode get = decode get'

namespace RecordReader

variable {α : Type} (r : RecordReader α)

def read (v : Json) : Option α := (v.record? (r.rules.map (·.name)) r.least).bind r.decode

theorem read_obj (d : Dict) : r.read (.obj d) = r.decode fun name => Dict.get? name d := rfl

/-- **A change that the rules leave open makes no difference**, whether the object can be read or
not. -/
theorem read_respelled {d d' : Dict} (h : Respells r.rules d d') :
    r.read (.obj d') = r.read (.obj d) := by
  rw [read_obj, read_obj]
  exact (r.sees _ _ (h.same r.nodup)).symm

/-- A row is long enough. -/
theorem least_le_of_row {values items : List Json} (h : IsRow r.rules values items) :
    r.least ≤ items.length := by
  by_contra hshort
  obtain ⟨missing, -, hmissing⟩ := h
  obtain ⟨rule, hrule, hnone⟩ := r.needed items.length (Nat.lt_of_not_le hshort)
  have hmem : none ∈ missing.map some := by
    rw [hmissing, ← hnone]
    exact List.mem_map_of_mem hrule
  obtain ⟨v, -, hv⟩ := List.mem_map.mp hmem
  cases hv

/-- **A row is read as the whole array of its fields is.** -/
theorem read_row {values items : List Json} (hlength : values.length = r.rules.length)
    (h : IsRow r.rules values items) : r.read (.arr items) = r.decode (itemOf r.rules values) := by
  have hle : items.length ≤ (r.rules.map (·.name)).length := by
    obtain ⟨missing, rfl, -⟩ := h
    rw [List.length_map, ← hlength, List.length_append]
    omega
  unfold read Json.record?
  dsimp only
  rw [if_pos ⟨r.least_le_of_row h, hle⟩]
  exact r.sees _ _ (h.same r.nodup)

end RecordReader

end RetrievalKit
