import Mathlib.Data.List.Nodup
import SqlDialects.Dialect.Settings

/-!
Dialects and their documents. A setting is read from where it is put and from nowhere else, so a
document gives a dialect back, and any part of it replaces the same part of the standard dialect.
-/

namespace SqlDialects

namespace Document

variable {name : String} {fields : List (String × Document)}

theorem field?_eq_some {document : Document}
    (alike : ∀ field ∈ fields, field.1 = name → field.2 = document)
    (given : ∃ field ∈ fields, field.1 = name) : field? name fields = some document := by
  obtain ⟨field, member, named⟩ := given
  cases found : fields.find? fun field => field.1 = name with
  | none => exact absurd named (by simpa using List.find?_eq_none.mp found field member)
  | some first =>
      have same := alike first (List.mem_of_find?_eq_some found)
        (by simpa using List.find?_some found)
      simp [field?, found, same]

theorem field?_eq_none (missing : ∀ field ∈ fields, field.1 ≠ name) :
    field? name fields = none := by
  simpa [field?] using missing

end Document

def Setting.content (setting : Setting) (dialect : Dialect) : (Content : Type) × Content :=
  ⟨setting.Content, setting.get dialect⟩

namespace Dialect

def contents (dialect : Dialect) : List ((Content : Type) × Content) :=
  settings.map fun setting => setting.content dialect

theorem contents_set : ∀ place ∈ settings.zipIdx, ∀ (dialect : Dialect) (content : place.1.Content),
    (place.1.set dialect content).contents =
      dialect.contents.set place.2 ⟨place.1.Content, content⟩ := by
  repeat refine List.forall_mem_cons.mpr ⟨fun _ _ => rfl, ?_⟩
  exact List.forall_mem_nil _

/-- There is nothing in a dialect but its settings. -/
theorem ext_settings {left right : Dialect}
    (same : ∀ setting ∈ settings, setting.get left = setting.get right) : left = right := by
  obtain ⟨⟨⟩, ⟨⟩, ⟨⟩, ⟨⟩, ⟨⟩, ⟨⟩⟩ := left
  obtain ⟨⟨⟩, ⟨⟩, ⟨⟩, ⟨⟩, ⟨⟩, ⟨⟩⟩ := right
  simp only [settings, Setting.of, List.forall_mem_cons] at same
  simp only [same]

theorem settingNames_nodup : (settings.map Setting.name).Nodup := by decide +kernel

theorem eq_of_settingName_eq {setting other : Setting} (listed : setting ∈ settings)
    (otherListed : other ∈ settings) (same : setting.name = other.name) : setting = other :=
  List.inj_on_of_nodup_map settingNames_nodup listed otherListed same

end Dialect

open Dialect

namespace Setting

variable {setting other : Setting}

theorem get_set (listed : setting ∈ settings) (dialect : Dialect) (content : setting.Content) :
    setting.get (setting.set dialect content) = content := by
  obtain ⟨place, found⟩ := List.mem_iff_getElem?.mp listed
  have whole := contents_set (setting, place) (List.mem_zipIdx_iff_getElem?.mpr found) dialect
    content
  have here := congrArg (fun contents => contents[place]?) whole
  obtain ⟨-, read⟩ :
      place < settings.length ∧ setting.get (setting.set dialect content) = content :=
    by simpa [contents, found, Setting.content, List.getElem?_set] using here
  exact read

theorem get_set_of_ne (listed : setting ∈ settings) (otherListed : other ∈ settings)
    (different : setting.name ≠ other.name) (dialect : Dialect) (content : other.Content) :
    setting.get (other.set dialect content) = setting.get dialect := by
  obtain ⟨place, found⟩ := List.mem_iff_getElem?.mp listed
  obtain ⟨otherPlace, otherFound⟩ := List.mem_iff_getElem?.mp otherListed
  have apart : otherPlace ≠ place := by
    rintro rfl
    rw [found] at otherFound
    cases otherFound
    exact different rfl
  have whole := contents_set (other, otherPlace) (List.mem_zipIdx_iff_getElem?.mpr otherFound)
    dialect content
  have here := congrArg (fun contents => contents[place]?) whole
  simpa [contents, found, Setting.content, List.getElem?_set_ne apart] using here

end Setting

namespace Dialect

variable {chosen : String → Bool} {source : Dialect} {fields others : List (String × Document)}

/-- The dialect with one setting taken from another dialect, if that is among the chosen ones. -/
def adopt (chosen : String → Bool) (source dialect : Dialect) (setting : Setting) : Dialect :=
  if chosen setting.name then setting.set dialect (setting.get source) else dialect

theorem get_adopt {setting other : Setting} (listed : setting ∈ settings)
    (otherListed : other ∈ settings) (dialect : Dialect) :
    setting.get (adopt chosen source dialect other) =
      if setting.name = other.name ∧ chosen setting.name then setting.get source
      else setting.get dialect := by
  unfold adopt
  by_cases same : setting.name = other.name
  · obtain rfl := eq_of_settingName_eq listed otherListed same
    by_cases taken : chosen setting.name = true
    · simp [taken, Setting.get_set listed]
    · simp [taken]
  · by_cases taken : chosen other.name = true
    · simp [taken, same, Setting.get_set_of_ne listed otherListed same]
    · simp [taken, same]

theorem get_foldl_adopt {setting : Setting} (listed : setting ∈ settings) :
    ∀ (rest : List Setting) (dialect : Dialect), rest ⊆ settings →
      setting.get (rest.foldl (adopt chosen source) dialect) =
        if setting.name ∈ rest.map Setting.name ∧ chosen setting.name then setting.get source
        else setting.get dialect := by
  intro rest
  induction rest with
  | nil => simp
  | cons first rest ih =>
      intro dialect known
      obtain ⟨firstListed, restKnown⟩ := List.cons_subset.mp known
      rw [List.foldl_cons, ih _ restKnown, get_adopt listed firstListed]
      by_cases here : setting.name = first.name
      · obtain rfl := eq_of_settingName_eq listed firstListed here
        by_cases taken : chosen setting.name = true <;> simp [taken]
      · simp [here]

theorem field?_of_perm (foreign : ∀ field ∈ others, ∀ setting ∈ settings, field.1 ≠ setting.name)
    (given : fields.Perm (source.toDocument.filter (fun field => chosen field.1) ++ others))
    {setting : Setting} (listed : setting ∈ settings) :
    Document.field? setting.name fields =
      if chosen setting.name then some (setting.codec.encode (setting.get source)) else none := by
  have written : ∀ field ∈ fields, field.1 = setting.name →
      chosen setting.name = true ∧ field = setting.encode source := by
    intro field member named
    rcases List.mem_append.mp (given.subset member) with kept | other
    · obtain ⟨encoded, taken⟩ := List.mem_filter.mp kept
      obtain ⟨named', listed', rfl⟩ := List.mem_map.mp encoded
      obtain rfl := eq_of_settingName_eq listed' listed named
      exact ⟨taken, rfl⟩
    · exact absurd named (foreign field other setting listed)
  by_cases taken : chosen setting.name = true
  · rw [if_pos taken]
    refine Document.field?_eq_some (fun field member named => ?_) ⟨setting.encode source, ?_, rfl⟩
    · rw [(written field member named).2]
      rfl
    · refine given.mem_iff.mpr (List.mem_append_left _ (List.mem_filter.mpr ⟨?_, taken⟩))
      exact List.mem_map_of_mem listed
  · rw [if_neg taken]
    exact Document.field?_eq_none fun field member named => taken (written field member named).1

theorem changeFrom?_of_perm
    (foreign : ∀ field ∈ others, ∀ setting ∈ settings, field.1 ≠ setting.name)
    (given : fields.Perm (source.toDocument.filter (fun field => chosen field.1) ++ others))
    {setting : Setting} (listed : setting ∈ settings) (dialect : Dialect) :
    setting.changeFrom? fields dialect = some (adopt chosen source dialect setting) := by
  unfold Setting.changeFrom? adopt
  rw [field?_of_perm foreign given listed]
  by_cases taken : chosen setting.name = true
  · simp [taken, Setting.change?, setting.codec.decode_encode]
  · simp [taken]

theorem foldlM_changeFrom?
    (foreign : ∀ field ∈ others, ∀ setting ∈ settings, field.1 ≠ setting.name)
    (given : fields.Perm (source.toDocument.filter (fun field => chosen field.1) ++ others)) :
    ∀ (rest : List Setting) (dialect : Dialect), rest ⊆ settings →
      rest.foldlM (Setting.changeFrom? fields) dialect =
        some (rest.foldl (adopt chosen source) dialect) := by
  intro rest
  induction rest with
  | nil => intro dialect _; rfl
  | cons first rest ih =>
      intro dialect known
      obtain ⟨firstListed, restKnown⟩ := List.cons_subset.mp known
      rw [List.foldlM_cons, changeFrom?_of_perm foreign given firstListed, List.foldl_cons]
      exact ih _ restKnown

theorem override?_of_perm (chosen : String → Bool)
    (foreign : ∀ field ∈ others, ∀ setting ∈ settings, field.1 ≠ setting.name)
    (given : fields.Perm (source.toDocument.filter (fun field => chosen field.1) ++ others))
    (base : Dialect) :
    ∃ overridden, base.override? fields = some overridden ∧
      ∀ setting ∈ settings, setting.get overridden =
        if chosen setting.name then setting.get source else setting.get base := by
  refine ⟨_, foldlM_changeFrom? foreign given settings base (List.Subset.refl _), ?_⟩
  intro setting listed
  rw [get_foldl_adopt listed settings base (List.Subset.refl _)]
  simp [List.mem_map_of_mem listed]

theorem override?_toDocument (dialect base : Dialect) :
    base.override? dialect.toDocument = some dialect := by
  have whole : dialect.toDocument.Perm
      (dialect.toDocument.filter (fun _ => true) ++ []) := by simp
  obtain ⟨overridden, done, same⟩ :=
    override?_of_perm (fun _ => true) (List.forall_mem_nil _) whole base
  have alike : overridden = dialect :=
    ext_settings fun setting listed => by simpa using same setting listed
  rw [done, alike]

end Dialect

/-- The document of a dialect gives the dialect back. A document with some of its fields, in any
order, and with fields of other names gives the standard dialect with exactly those settings
replaced, each of them whole. -/
theorem documents_override_settings (dialect : Dialect) :
    Dialect.ofDocument? (.object dialect.toDocument) = some dialect ∧
    ∀ (chosen : String → Bool) (others fields : List (String × Document)),
      (∀ field ∈ others, ∀ setting ∈ settings, field.1 ≠ setting.name) →
      fields.Perm (dialect.toDocument.filter (fun field => chosen field.1) ++ others) →
      ∃ overridden, Dialect.ofDocument? (.object fields) = some overridden ∧
        ∀ other, other = overridden ↔ ∀ setting ∈ settings, setting.get other =
          if chosen setting.name then setting.get dialect else setting.get .standard := by
  refine ⟨override?_toDocument dialect .standard, ?_⟩
  intro chosen others fields foreign given
  obtain ⟨overridden, done, replaced⟩ := override?_of_perm chosen foreign given .standard
  refine ⟨overridden, done, fun other => ⟨?_, fun same => ?_⟩⟩
  · rintro rfl
    exact replaced
  · exact ext_settings fun setting listed => (same setting listed).trans
      (replaced setting listed).symm

theorem documents_override_settings_mySql :
    (∀ field ∈ [("comment", Document.text "draft")], ∀ setting ∈ settings,
      field.1 ≠ setting.name) ∧
    Dialect.ofDocument? (.object [("comment", .text "draft"), ("nulls_last_fragment", .null),
      ("excluded_prefix", .text "VALUES(")]) =
        some { Dialect.standard with
          lexicon.excludedOpening := "VALUES("
          keywords.nullsLast := none } := by
  have foreign : ∀ field ∈ [("comment", Document.text "draft")], ∀ setting ∈ settings,
      field.1 ≠ setting.name := by
    simp [settings, Setting.of]
  have kept : (Dialect.mySql.toDocument.filter fun field =>
      ["excluded_prefix", "nulls_last_fragment"].contains field.1) =
        [("excluded_prefix", .text "VALUES("), ("nulls_last_fragment", .null)] := by
    simp [toDocument, settings, Setting.of, Setting.encode, Codec.text, Codec.optionalText, mySql]
  have given : [("comment", Document.text "draft"), ("nulls_last_fragment", .null),
      ("excluded_prefix", .text "VALUES(")].Perm
        (Dialect.mySql.toDocument.filter (fun field =>
          ["excluded_prefix", "nulls_last_fragment"].contains field.1) ++
            [("comment", .text "draft")]) := by
    rw [kept]
    exact List.reverse_perm [_, _, _]
  obtain ⟨overridden, done, replaced⟩ :=
    (documents_override_settings .mySql).2 _ _ _ foreign given
  refine ⟨foreign, ?_⟩
  rw [done, Option.some_inj]
  refine ((replaced _).mpr ?_).symm
  simp [settings, Setting.of, mySql]

end SqlDialects
