import AegisFortress.Monitoring.PrometheusExporter
import Mathlib.Algebra.Order.BigOperators.Group.List
import Mathlib.Data.List.Find

/-!
# What is exported of the metrics

A history of calls of the registry, and what the collector yields after it.  Every series that has been
recorded should come out as one sample with its labels and its value.

`exported_faithfully_iff`: it does exactly if all keys can be read back, and the names of the labels
continue no further than those the name was first recorded with.  A comma in the value of a label is
enough to break it.
-/

namespace Aegis

namespace PrometheusExporter

variable {α : Type}

/-! ## Samples -/

section Samples

variable (series : Dict String α)

/-- The names of the labels of a family: those of its first key. -/
def firstNames (base : String) : List String :=
  ((series.keys.find? fun key => (parseKey key).1 = base).map fun key => (parseKey key).2.keys).getD []

/-- The sample that a family makes of a pair. -/
def pairSample (base : String) (pair : Dict String String × α) : MetricSample α where
  name := safeName base
  labels := Dict.ofList ((firstNames series base).zip (pair.1.entries.map Prod.snd))
  value := pair.2

/-- The sample of a key. -/
def sampleOf (entry : String × α) : MetricSample α :=
  pairSample series (parseKey entry.1).1 ((parseKey entry.1).2, entry.2)

/-- The labels of the first pair of a family are those of the first key. -/
lemma head_grouped {base : String} {pairs : List (Dict String String × α)}
    (h : (base, pairs) ∈ (grouped series).entries) :
    (pairs.head?.elim [] fun pair => pair.1.keys) = firstNames series base := by
  have hget := Dict.get?_eq_some.mpr h
  rw [grouped, Dict.get?_gather] at hget
  split_ifs at hget
  cases hget
  rw [List.head?_map, List.head?_filter, firstNames, Dict.keys, List.find?_map]
  cases hfound : series.entries.find? fun entry => (parseKey entry.1).1 = base with
  | none => simp [hfound]
  | some entry => simp [hfound]

/-- **The samples** of the families are those of the keys. -/
theorem scraped_families (kind : MetricKind) :
    ((families kind series).flatMap MetricFamily.scraped).Perm
      (series.entries.map (sampleOf series)) := by
  have hgroups : (families kind series).flatMap MetricFamily.scraped
      = (grouped series).entries.flatMap fun group => group.2.map (pairSample series group.1) := by
    rw [families, List.flatMap_map]
    refine List.flatMap_congr fun group hgroup => ?_
    obtain ⟨base, pairs⟩ := group
    simp only [MetricFamily.scraped, List.map_map, head_grouped series hgroup]
    rfl
  have hperm := Dict.flatMap_gather (fun entry : String × α => (parseKey entry.1).1)
    (fun entry => ((parseKey entry.1).2, entry.2)) series.entries (pairSample series)
  rw [← grouped] at hperm
  rw [hgroups]
  exact hperm

lemma kind_families {kind : MetricKind} {family : MetricFamily α} (h : family ∈ families kind series) :
    family.kind = kind := by
  rw [families, List.mem_map] at h
  obtain ⟨group, -, rfl⟩ := h
  rfl

lemma filter_families (kind other : MetricKind) :
    (families other series).filter (fun family => family.kind = kind)
      = if other = kind then families other series else [] := by
  split_ifs with h
  · refine List.filter_eq_self.mpr fun family hfamily => ?_
    rw [kind_families series hfamily]
    exact decide_eq_true h
  · refine List.filter_eq_nil_iff.mpr fun family hfamily => ?_
    rw [kind_families series hfamily]
    simpa using h

lemma scrapedOf_counter (registry : MetricsRegistry α) : scrapedOf .counter registry
    = (families .counter registry.counters).flatMap MetricFamily.scraped := by
  rw [scrapedOf, collect, List.filter_append, filter_families, filter_families]
  simp

lemma scrapedOf_gauge (registry : MetricsRegistry α) : scrapedOf .gauge registry
    = (families .gauge registry.gauges).flatMap MetricFamily.scraped := by
  rw [scrapedOf, collect, List.filter_append, filter_families, filter_families]
  simp

end Samples

/-! ## Faithful exports -/

/-- The recording is of this series. -/
def ofSeries (name : String) (labels : Dict String String) (recording : Recording α) : Bool :=
  recording.name = name ∧ sortedItems recording.labels = sortedItems labels

/-- The values that have been recorded for a series. -/
def valuesOf (recordings : List (Recording α)) (name : String) (labels : Dict String String) :
    List α := (recordings.filter (ofSeries name labels)).map Recording.value

/-- The sample is of this series: it has its name, and exactly its labels. -/
def carries (name : String) (labels : Dict String String) (sample : MetricSample α) : Bool :=
  sample.name = safeName name ∧ sortedItems sample.labels = sortedItems labels

/-- The values of all samples that are of a series. -/
def exported (samples : List (MetricSample α)) (name : String) (labels : Dict String String) :
    List α := (samples.filter (carries name labels)).map MetricSample.value

/-- The value of a series, as it is updated. -/
def latest (update : Option α → α → α) (values : List α) : Option α :=
  values.foldl (fun old value => some (update old value)) none

/-- Every series that has been recorded has one sample, with its value. -/
def Faithful (update : Option α → α → α) (recordings : List (Recording α))
    (samples : List (MetricSample α)) : Prop :=
  ∀ name labels total, latest update (valuesOf recordings name labels) = some total →
    exported samples name labels = [total]

/-- The names of labels. -/
def labelNames (labels : Dict String String) : List String := (sortedItems labels).map Prod.fst

/-- The key of a recording can be read back, and its labels are named like the first ones that were
recorded with its name, or like the first few of these. -/
structure Exportable (recordings : List (Recording α)) (recording : Recording α) : Prop where
  items : PlainItems recording.labels
  name : ReadableName recording.name recording.labels
  aligned : ∀ first ∈ recordings.find? fun other => other.name = recording.name,
    labelNames recording.labels <+: labelNames first.labels

lemma ofSeries_congr {name : String} {labels other : Dict String String}
    (h : sortedItems labels = sortedItems other) :
    ofSeries (α := α) name labels = ofSeries name other := by
  funext recording
  rw [ofSeries, ofSeries, h]

lemma carries_congr {name : String} {labels other : Dict String String}
    (h : sortedItems labels = sortedItems other) :
    carries (α := α) name labels = carries name other := by
  funext sample
  rw [carries, carries, h]

instance (recordings : List (Recording α)) (recording : Recording α) :
    Decidable (Exportable recordings recording) :=
  decidable_of_iff (PlainItems recording.labels ∧ ReadableName recording.name recording.labels
      ∧ ∀ first ∈ recordings.find? fun other => other.name = recording.name,
        labelNames recording.labels <+: labelNames first.labels)
    ⟨fun ⟨items, name, aligned⟩ => ⟨items, name, aligned⟩,
      fun ⟨items, name, aligned⟩ => ⟨items, name, aligned⟩⟩

/-- Names that are different stay different. -/
def Distinct (recordings : List (Recording α)) : Prop :=
  ∀ first ∈ recordings, ∀ second ∈ recordings, safeName first.name = safeName second.name →
    first.name = second.name

instance (recordings : List (Recording α)) : Decidable (Distinct recordings) :=
  inferInstanceAs (Decidable (∀ first ∈ recordings, ∀ second ∈ recordings, _ → _))

/-! ## What is recorded -/

section Recorded

variable {update : Option α → α → α} {recordings : List (Recording α)} {recording : Recording α}

lemma mem_keys_recorded {key : String} : key ∈ (MetricsRegistry.recorded update recordings).keys
    ↔ ∃ recording ∈ recordings, metricKey recording.name recording.labels = key :=
  Dict.mem_keys_accumulate _ _ _ _

lemma get?_recorded (key : String) : (MetricsRegistry.recorded update recordings).get? key
    = latest update ((recordings.filter fun recording =>
      metricKey recording.name recording.labels = key).map Recording.value) := by
  rw [MetricsRegistry.recorded, Dict.get?_accumulate, latest, List.foldl_map]

/-- A recording whose key can be read back. -/
structure Readable (recording : Recording α) : Prop where
  items : PlainItems recording.labels
  name : ReadableName recording.name recording.labels

lemma Readable.parse (h : Readable recording) :
    parseKey (metricKey recording.name recording.labels)
      = (recording.name, Dict.ofList (sortedItems recording.labels)) :=
  parseKey_metricKey h.items h.name

/-- Keys that can be read back are different for different series. -/
lemma Readable.key_eq_iff {other : Recording α} (h : Readable recording) (hother : Readable other) :
    metricKey other.name other.labels = metricKey recording.name recording.labels
      ↔ ofSeries recording.name recording.labels other = true := by
  rw [ofSeries, decide_eq_true_eq]
  constructor
  · intro hkey
    have hparse := congrArg parseKey hkey
    rw [h.parse, hother.parse, Prod.mk.injEq] at hparse
    refine ⟨hparse.1, ?_⟩
    rw [← Dict.entries_ofList (sortedItems_nodup other.labels), hparse.2,
      Dict.entries_ofList (sortedItems_nodup recording.labels)]
  · rintro ⟨hname, hitems⟩
    rw [hname, metricKey_congr hitems]

lemma firstNames_recorded (hread : ∀ recording ∈ recordings, Readable recording) {name : String}
    {first : Recording α} (hfirst : recordings.find? (fun other => other.name = name) = some first) :
    firstNames (MetricsRegistry.recorded update recordings) name = labelNames first.labels := by
  have hsame : recordings.find? ((fun key => decide ((parseKey key).1 = name))
      ∘ fun recording => metricKey recording.name recording.labels)
        = recordings.find? fun other => other.name = name := by
    refine List.find?_congr fun other hother => ?_
    rw [Function.comp_apply, (hread other hother).parse]
  have hparse := (hread first (List.mem_of_find?_eq_some hfirst)).parse
  rw [firstNames, MetricsRegistry.recorded, Dict.find?_keys_accumulate, List.find?_map, hsame, hfirst]
  simp only [Option.map_some, Option.getD_some, hparse, Dict.keys,
    Dict.entries_ofList (sortedItems_nodup first.labels), labelNames]

lemma zip_prefix : ∀ {items : List (String × String)} {names : List String},
    items.map Prod.fst <+: names → names.zip (items.map Prod.snd) = items
  | [], names, _ => by simp
  | item :: items, [], h => by simp at h
  | item :: items, name :: names, h => by
      rw [List.map_cons, List.cons_prefix_cons] at h
      rw [List.map_cons, List.zip_cons_cons, zip_prefix h.2, ← h.1]

end Recorded

/-! ## Enough -/

section Sufficient

variable {update : Option α → α → α} {recordings : List (Recording α)} {recording : Recording α}

lemma Exportable.readable (h : Exportable recordings recording) : Readable recording :=
  ⟨h.items, h.name⟩

/-- The sample of a recording has its labels. -/
lemma sampleOf_recorded (hall : ∀ recording ∈ recordings, Exportable recordings recording)
    (hmem : recording ∈ recordings) (value : α) :
    sampleOf (MetricsRegistry.recorded update recordings)
        (metricKey recording.name recording.labels, value)
      = ⟨safeName recording.name, Dict.ofList (sortedItems recording.labels), value⟩ := by
  have hread : ∀ recording ∈ recordings, Readable recording :=
    fun recording hrecording => (hall recording hrecording).readable
  obtain ⟨first, hfirst⟩ : ∃ first,
      recordings.find? (fun other => other.name = recording.name) = some first :=
    Option.isSome_iff_exists.mp (List.find?_isSome.mpr ⟨recording, hmem, by simp⟩)
  have haligned := (hall recording hmem).aligned first hfirst
  simp only [sampleOf, pairSample, (hread recording hmem).parse, firstNames_recorded hread hfirst,
    Dict.entries_ofList (sortedItems_nodup recording.labels), zip_prefix haligned]

/-- A sample carries the series it was recorded for, and no other. -/
lemma carries_recorded (hdistinct : Distinct recordings) {other : Recording α}
    (hmem : recording ∈ recordings) (hother : other ∈ recordings) (value : α) :
    carries recording.name recording.labels
        ⟨safeName other.name, Dict.ofList (sortedItems other.labels), value⟩
      = ofSeries recording.name recording.labels other := by
  have hitems : sortedItems (Dict.ofList (sortedItems other.labels)) = sortedItems other.labels :=
    sortedItems_ofList (sortedItems_nodup other.labels) (sortedItems_pairwise other.labels)
  have hname : safeName other.name = safeName recording.name ↔ other.name = recording.name := by
    constructor
    · exact hdistinct other hother recording hmem
    · intro h
      rw [h]
  simp only [carries, ofSeries, hitems, hname]

/-- The value under the key of a recording is that of its series. -/
lemma get?_key (hread : ∀ recording ∈ recordings, Readable recording) (hmem : recording ∈ recordings) :
    (MetricsRegistry.recorded update recordings).get? (metricKey recording.name recording.labels)
      = latest update (valuesOf recordings recording.name recording.labels) := by
  rw [get?_recorded, valuesOf]
  congr 2
  refine List.filter_congr fun other hother => ?_
  rw [Bool.eq_iff_iff, decide_eq_true_eq]
  exact (hread recording hmem).key_eq_iff (hread other hother)

/-- What has a value has been recorded. -/
lemma exists_of_latest {name : String} {labels : Dict String String} {total : α}
    (h : latest update (valuesOf recordings name labels) = some total) :
    ∃ recording ∈ recordings, recording.name = name
      ∧ sortedItems recording.labels = sortedItems labels := by
  rw [valuesOf] at h
  cases hvalues : recordings.filter (ofSeries name labels) with
  | nil =>
      rw [hvalues] at h
      cases h
  | cons recording rest =>
      have hmem : recording ∈ recordings.filter (ofSeries name labels) :=
        hvalues ▸ List.mem_cons_self
      obtain ⟨hrecording, hseries⟩ := List.mem_filter.mp hmem
      exact ⟨recording, hrecording, of_decide_eq_true hseries⟩

/-- **Enough**: keys that can be read back, under aligned labels, are exported faithfully. -/
lemma faithful_of_exportable (hdistinct : Distinct recordings)
    (hall : ∀ recording ∈ recordings, Exportable recordings recording)
    {samples : List (MetricSample α)} (hsamples : samples.Perm
      ((MetricsRegistry.recorded update recordings).entries.map
        (sampleOf (MetricsRegistry.recorded update recordings)))) :
    Faithful update recordings samples := by
  intro name labels total htotal
  obtain ⟨recording, hmem, rfl, hitems⟩ := exists_of_latest htotal
  have hread : ∀ recording ∈ recordings, Readable recording :=
    fun recording hrecording => (hall recording hrecording).readable
  have hvalues : valuesOf recordings recording.name labels
      = valuesOf recordings recording.name recording.labels := by
    rw [valuesOf, valuesOf, ofSeries_congr hitems]
  have hexported : exported samples recording.name labels
      = exported samples recording.name recording.labels := by
    rw [exported, exported, carries_congr hitems]
  rw [hvalues, ← get?_key hread hmem, Dict.get?_eq_some] at htotal
  -- of all keys, only that of the recording has a sample that carries the series
  have honly : ((MetricsRegistry.recorded update recordings).entries.filter fun entry =>
      carries recording.name recording.labels
        (sampleOf (MetricsRegistry.recorded update recordings) entry))
      = [(metricKey recording.name recording.labels, total)] := by
    refine Dict.filter_eq_singleton _ htotal ?_ ?_
    · rw [sampleOf_recorded hall hmem, carries_recorded hdistinct hmem hmem]
      simp [ofSeries]
    · rintro ⟨key, value⟩ hentry hcarries
      obtain ⟨other, hother, rfl⟩ := mem_keys_recorded.mp (List.mem_map_of_mem hentry)
      rw [sampleOf_recorded hall hother, carries_recorded hdistinct hmem hother] at hcarries
      exact ((hread recording hmem).key_eq_iff (hread other hother)).mpr hcarries
  rw [hexported, exported]
  have hperm := (hsamples.filter (carries recording.name recording.labels)).map MetricSample.value
  rw [List.filter_map, Function.comp_def, honly] at hperm
  exact List.perm_singleton.mp hperm

end Sufficient

/-! ## No less -/

section Necessary

variable {update : Option α → α → α} {recordings : List (Recording α)} {recording : Recording α}
  {samples : List (MetricSample α)}

/-- The key of the other recording has a sample that carries the series of this one. -/
structure Carrier (series : Dict String α) (recording other : Recording α) : Prop where
  name : safeName (parseKey (metricKey other.name other.labels)).1 = safeName recording.name
  labels : sortedItems (Dict.ofList
    ((firstNames series (parseKey (metricKey other.name other.labels)).1).zip
      ((parseKey (metricKey other.name other.labels)).2.entries.map Prod.snd)))
    = sortedItems recording.labels

lemma exists_latest (update : Option α → α → α) {values : List α} (h : values ≠ []) :
    ∃ total, latest update values = some total := by
  rcases values.eq_nil_or_concat with rfl | ⟨rest, last, rfl⟩
  · exact absurd rfl h
  · rw [latest, List.concat_eq_append, List.foldl_append]
    exact ⟨_, rfl⟩

/-- In a faithful export every recording has a carrier. -/
lemma exists_carrier (hfaithful : Faithful update recordings samples) (hsamples : samples.Perm
    ((MetricsRegistry.recorded update recordings).entries.map
      (sampleOf (MetricsRegistry.recorded update recordings)))) (hmem : recording ∈ recordings) :
    ∃ other ∈ recordings, Carrier (MetricsRegistry.recorded update recordings) recording other := by
  have hvalues : valuesOf recordings recording.name recording.labels ≠ [] := by
    refine List.ne_nil_of_mem (List.mem_map_of_mem (List.mem_filter.mpr ⟨hmem, ?_⟩))
    simp [ofSeries]
  obtain ⟨total, htotal⟩ := exists_latest update hvalues
  have hexported := hfaithful recording.name recording.labels total htotal
  obtain ⟨sample, hsample, -⟩ := List.mem_map.mp
    (hexported ▸ List.mem_singleton_self total : total ∈ exported samples _ _)
  obtain ⟨hsample, hcarries⟩ := List.mem_filter.mp hsample
  obtain ⟨entry, hentry, rfl⟩ := List.mem_map.mp (hsamples.mem_iff.mp hsample)
  obtain ⟨other, hother, hkey⟩ := mem_keys_recorded.mp (List.mem_map_of_mem hentry)
  obtain ⟨hname, hlabels⟩ := of_decide_eq_true hcarries
  refine ⟨other, hother, ?_, ?_⟩
  · rw [hkey]
    exact hname
  · rw [hkey]
    exact hlabels

/-- The names of a family can be read back. -/
lemma plain_firstNames {series : Dict String α} {base name : String}
    (h : name ∈ firstNames series base) : PlainName name := by
  rw [firstNames] at h
  cases hfound : series.keys.find? fun key => (parseKey key).1 = base with
  | none =>
      rw [hfound] at h
      cases h
  | some key =>
      rw [hfound] at h
      obtain ⟨item, hitem, rfl⟩ := List.mem_map.mp h
      exact (parseKey_plain key item hitem).1

/-- What a carrier carries can be read back: it has been read. -/
lemma Carrier.plain {series : Dict String α} {other : Recording α}
    (h : Carrier series recording other) : PlainItems recording.labels := by
  intro item hitem
  rw [← mem_sortedItems, ← h.labels, mem_sortedItems] at hitem
  obtain ⟨hname, hvalue⟩ := List.of_mem_zip (Dict.mem_of_mem_ofList hitem)
  obtain ⟨read, hread, hitem⟩ := List.mem_map.mp hvalue
  refine ⟨plain_firstNames hname, ?_⟩
  rw [← hitem]
  exact (parseKey_plain _ read hread).2

/-- A family whose first key has no labels has a name that is read as one. -/
lemma searchLabels_of_firstNames {series : Dict String α} {key : String} (hkey : key ∈ series.keys)
    (hnone : firstNames series (parseKey key).1 = []) :
    searchLabels (parseKey key).1.toList = none := by
  obtain ⟨first, hfirst⟩ : ∃ first,
      series.keys.find? (fun other => (parseKey other).1 = (parseKey key).1) = some first :=
    Option.isSome_iff_exists.mp (List.find?_isSome.mpr ⟨key, hkey, by simp⟩)
  have hbase : (parseKey first).1 = (parseKey key).1 := by simpa using List.find?_some hfirst
  rw [firstNames, hfirst, Option.map_some, Option.getD_some, Dict.keys, List.map_eq_nil_iff] at hnone
  obtain ⟨hname, hsearch⟩ := parseKey_bare hnone
  rwa [← hbase, hname]

/-- With a carrier whose key can be read back, the name can be read back. -/
lemma Carrier.readableName (hdistinct : Distinct recordings) {other : Recording α}
    (hmem : recording ∈ recordings) (hother : other ∈ recordings)
    (h : Carrier (MetricsRegistry.recorded update recordings) recording other)
    (hread : Readable other) : ReadableName recording.name recording.labels := by
  have hname := h.name
  have hlabels := h.labels
  rw [hread.parse] at hname
  have hsame : other.name = recording.name := hdistinct other hother recording hmem hname
  have hreadable := hread.name
  rw [ReadableName, hsame] at hreadable
  have hvalues : (parseKey (metricKey other.name other.labels)).2.entries
      = sortedItems other.labels := by
    rw [hread.parse]
    exact Dict.entries_ofList (sortedItems_nodup other.labels)
  rw [hvalues] at hlabels
  rw [ReadableName]
  split_ifs with hbare
  · by_cases hnone : other.labels.entries = []
    · rwa [if_pos hnone] at hreadable
    · -- a family without names of labels would be one of bare names
      rw [sortedItems_eq_nil.mpr hbare, sortedItems_eq_nil, Dict.ofList_entries_eq_nil,
        List.zip_eq_nil_iff, List.map_eq_nil_iff, sortedItems_eq_nil] at hlabels
      have hsearch := searchLabels_of_firstNames (mem_keys_recorded.mpr ⟨other, hother, rfl⟩)
        (hlabels.resolve_right hnone)
      rwa [hread.parse, hsame] at hsearch
  · by_cases hnone : other.labels.entries = []
    · rw [sortedItems_eq_nil.mpr hnone, List.map_nil, List.zip_nil_right] at hlabels
      exact absurd (sortedItems_eq_nil.mp hlabels.symm) hbare
    · rwa [if_neg hnone] at hreadable

lemma length_safeName (raw : String) : (safeName raw).length = raw.length := by
  simp [safeName, ← String.length_toList]

/-- A name that cannot be read back is carried under a longer one that cannot either. -/
lemma exists_longer (hfaithful : Faithful update recordings samples) (hsamples : samples.Perm
    ((MetricsRegistry.recorded update recordings).entries.map
      (sampleOf (MetricsRegistry.recorded update recordings)))) (hdistinct : Distinct recordings)
    (hplain : ∀ recording ∈ recordings, PlainItems recording.labels) (hmem : recording ∈ recordings)
    (hbad : ¬ ReadableName recording.name recording.labels) :
    ∃ other ∈ recordings, ¬ ReadableName other.name other.labels
      ∧ recording.name.length < other.name.length := by
  obtain ⟨other, hother, hcarrier⟩ := exists_carrier hfaithful hsamples hmem
  refine ⟨other, hother, ?_, ?_⟩
  · exact fun hread => hbad (hcarrier.readableName hdistinct hmem hother ⟨hplain other hother, hread⟩)
  · have hlength := congrArg String.length hcarrier.name
    rw [length_safeName, length_safeName] at hlength
    rcases parseKey_shorter (hplain other hother) with hread | hshorter
    · exact absurd (hcarrier.readableName hdistinct hmem hother ⟨hplain other hother, hread⟩) hbad
    · rwa [hlength] at hshorter

lemma map_fst_zip_prefix : ∀ names values : List String, (names.zip values).map Prod.fst <+: names
  | [], _ => by simp
  | _ :: _, [] => by simp
  | name :: names, value :: values => by
      rw [List.zip_cons_cons, List.map_cons]
      exact List.cons_prefix_cons.mpr ⟨rfl, map_fst_zip_prefix names values⟩

/-- **No less**: in a faithful export every recording is exportable. -/
lemma exportable_of_faithful (hfaithful : Faithful update recordings samples)
    (hsamples : samples.Perm ((MetricsRegistry.recorded update recordings).entries.map
      (sampleOf (MetricsRegistry.recorded update recordings)))) (hdistinct : Distinct recordings)
    (hmem : recording ∈ recordings) : Exportable recordings recording := by
  have hplain : ∀ recording ∈ recordings, PlainItems recording.labels := by
    intro recording hrecording
    obtain ⟨other, -, hcarrier⟩ := exists_carrier hfaithful hsamples hrecording
    exact hcarrier.plain
  -- otherwise there would be longer and longer names
  have hnames : ∀ recording ∈ recordings, ReadableName recording.name recording.labels := by
    by_contra! hbad
    obtain ⟨start, hstart, hbad⟩ := hbad
    have hlonger : ∀ n, ∃ other ∈ recordings, ¬ ReadableName other.name other.labels
        ∧ n ≤ other.name.length := by
      intro n
      induction n with
      | zero => exact ⟨start, hstart, hbad, Nat.zero_le _⟩
      | succ n ih =>
          obtain ⟨other, hother, hbad', hle⟩ := ih
          obtain ⟨next, hnext, hbad'', hlt⟩ :=
            exists_longer hfaithful hsamples hdistinct hplain hother hbad'
          exact ⟨next, hnext, hbad'', by omega⟩
    obtain ⟨other, hother, -, hle⟩ :=
      hlonger ((recordings.map fun recording => recording.name.length).sum + 1)
    have hsum := List.single_le_sum (fun _ _ => Nat.zero_le _) _
      (List.mem_map_of_mem (f := fun recording : Recording α => recording.name.length) hother)
    omega
  have hread : ∀ recording ∈ recordings, Readable recording :=
    fun recording hrecording => ⟨hplain recording hrecording, hnames recording hrecording⟩
  refine ⟨hplain recording hmem, hnames recording hmem, fun first hfirst => ?_⟩
  obtain ⟨other, hother, hcarrier⟩ := exists_carrier hfaithful hsamples hmem
  have hname := hcarrier.name
  have hlabels := hcarrier.labels
  rw [(hread other hother).parse] at hname hlabels
  rw [hdistinct other hother recording hmem hname, firstNames_recorded hread hfirst] at hlabels
  generalize (Dict.ofList (sortedItems other.labels)).entries.map Prod.snd = values at hlabels
  have hprefixed := map_fst_zip_prefix (labelNames first.labels) values
  have hnodup : (labelNames first.labels).Nodup := sortedItems_nodup first.labels
  have hordered : (labelNames first.labels).Pairwise (· ≤ ·) :=
    List.pairwise_map.mpr (sortedItems_pairwise first.labels)
  rw [sortedItems_ofList (hnodup.sublist hprefixed.sublist)
    (List.pairwise_map.mp (hordered.sublist hprefixed.sublist))] at hlabels
  rwa [labelNames, ← hlabels]

end Necessary

/-! ## Histories -/

section History

open MetricsRegistry

lemma latest_snoc (update : Option α → α → α) (values : List α) (value : α) :
    latest update (values ++ [value]) = some (update (latest update values) value) := by
  rw [latest, List.foldl_append]
  rfl

lemma latest_setting (values : List α) : latest (fun _ value => value) values = values.getLast? := by
  induction values using List.reverseRecOn with
  | nil => rfl
  | append_singleton values value ih => rw [latest_snoc, List.getLast?_concat]

/-- **Faithful or not**, as far as the series of one kind are concerned. -/
lemma faithful_iff (update : Option α → α → α) {recordings : List (Recording α)}
    (hdistinct : Distinct recordings) (kind : MetricKind) :
    Faithful update recordings
        ((families kind (recorded update recordings)).flatMap MetricFamily.scraped)
      ↔ ∀ recording ∈ recordings, Exportable recordings recording :=
  ⟨fun hfaithful _ hmem =>
    exportable_of_faithful hfaithful (scraped_families _ kind) hdistinct hmem,
    fun hall => faithful_of_exportable hdistinct hall (scraped_families _ kind)⟩

variable [Add α] [Zero α]

lemma latest_increment (values : List α) :
    latest (fun old value => old.getD 0 + value) values
      = if values = [] then none else some (values.foldl (· + ·) 0) := by
  induction values using List.reverseRecOn with
  | nil => rfl
  | append_singleton values value ih =>
      rw [latest_snoc, ih, if_neg (List.concat_ne_nil value values), List.foldl_append]
      by_cases hnil : values = []
      · subst hnil
        rfl
      · rw [if_neg hnil]
        rfl

/-- Every counter is exported once, with the sum of what has been added, and every gauge once, with the
value that was set last. -/
structure ExportedFaithfully (history : List (MetricCall α)) : Prop where
  counters : ∀ name labels, valuesOf (increments history) name labels ≠ [] →
    exported (scrapedOf .counter (after history)) name labels
      = [(valuesOf (increments history) name labels).foldl (· + ·) 0]
  gauges : ∀ name labels value,
    (valuesOf (settings history) name labels).getLast? = some value →
      exported (scrapedOf .gauge (after history)) name labels = [value]

lemma counters_faithful_iff (history : List (MetricCall α)) :
    Faithful (fun old value => old.getD 0 + value) (increments history)
        (scrapedOf .counter (after history))
      ↔ ∀ name labels, valuesOf (increments history) name labels ≠ [] →
        exported (scrapedOf .counter (after history)) name labels
          = [(valuesOf (increments history) name labels).foldl (· + ·) 0] := by
  constructor
  · intro hfaithful name labels hsome
    refine hfaithful name labels _ ?_
    rw [latest_increment, if_neg hsome]
  · intro hcounters name labels total htotal
    rw [latest_increment] at htotal
    split_ifs at htotal with hnone
    cases htotal
    exact hcounters name labels hnone

/-- **When metrics are exported faithfully**: exactly if each key can be read back, and its labels are
named like the first ones of its name, or like the first few of these. -/
theorem exported_faithfully_iff (history : List (MetricCall α))
    (hcounters : Distinct (increments history)) (hgauges : Distinct (settings history)) :
    ExportedFaithfully history
      ↔ (∀ recording ∈ increments history, Exportable (increments history) recording)
        ∧ ∀ recording ∈ settings history, Exportable (settings history) recording := by
  have hcounter : scrapedOf .counter (after history)
      = (families .counter (recorded (fun old value => old.getD 0 + value)
        (increments history))).flatMap MetricFamily.scraped := by
    rw [scrapedOf_counter, counters_after]
  have hgauge : scrapedOf .gauge (after history)
      = (families .gauge (recorded (fun _ value => value) (settings history))).flatMap
        MetricFamily.scraped := by
    rw [scrapedOf_gauge, gauges_after]
  rw [← faithful_iff (fun old value => old.getD 0 + value) hcounters .counter,
    ← faithful_iff (fun _ value => value) hgauges .gauge, ← hcounter, ← hgauge,
    counters_faithful_iff]
  constructor
  · rintro ⟨hsums, hlast⟩
    refine ⟨hsums, fun name labels value hvalue => ?_⟩
    rw [latest_setting] at hvalue
    exact hlast name labels value hvalue
  · rintro ⟨hsums, hlast⟩
    refine ⟨hsums, fun name labels value hvalue => hlast name labels value ?_⟩
    rw [latest_setting]
    exact hvalue

end History

/-- Two exchanges with braces and equals signs in their names, and a balance. -/
def demoHistory : List (MetricCall ℚ) :=
  [.increment ⟨"orders.placed", Dict.ofList [("exchange", "a=b"), ("side", "\x7bbuy\x7d")], 1⟩,
    .increment ⟨"orders.placed", Dict.ofList [("exchange", "c")], 2⟩,
    .increment ⟨"orders.placed", Dict.ofList [("side", "\x7bbuy\x7d"), ("exchange", "a=b")], 4⟩,
    .setGauge ⟨"balance", ∅, 100⟩, .setGauge ⟨"balance", ∅, 90⟩]

theorem exported_faithfully_demo : ExportedFaithfully demoHistory :=
  (exported_faithfully_iff demoHistory (by decide +kernel) (by decide +kernel)).mpr
    ⟨by decide +kernel, by decide +kernel⟩

/-- A comma makes two labels of one. -/
def commaHistory : List (MetricCall ℚ) := [.increment ⟨"orders", Dict.ofList [("x", "1,y=2")], 1⟩]

/-- The counter is not exported under its label. -/
theorem comma_splits_label : Distinct (MetricsRegistry.increments commaHistory)
    ∧ Distinct (MetricsRegistry.settings commaHistory) ∧ ¬ ExportedFaithfully commaHistory := by
  refine ⟨by decide +kernel, by decide +kernel, fun hfaithful => ?_⟩
  have hcounter := hfaithful.counters "orders" (Dict.ofList [("x", "1,y=2")]) (by decide +kernel)
  have hnone : exported (scrapedOf .counter (MetricsRegistry.after commaHistory)) "orders"
      (Dict.ofList [("x", "1,y=2")]) = [] := by
    decide +kernel
  rw [hnone] at hcounter
  cases hcounter

end PrometheusExporter

end Aegis
