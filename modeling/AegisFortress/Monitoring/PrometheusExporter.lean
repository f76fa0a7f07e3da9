import AegisFortress.Metrics.MetricsRegistry
import AegisFortress.Python.Builtins
import Mathlib.Data.List.DropRight

/-!
# The Prometheus exporter

`monitoring/prometheus/exporter.py`.  The collector reads the keys of the registry back into names and
labels, and yields one family for each name; the labels of a family are those of its first sample, and
the values of the others are paired with them by position.

`parseKey_metricKey` says which keys are read back as they were written.
-/

namespace Aegis

namespace PrometheusExporter

/-! ## Reading a key -/

/-- Leftmost brace with a text of one line behind it. -/
def splitBrace : List Char → Option (List Char × List Char)
  | [] => none
  | c :: rest =>
      if c = '\x7b' ∧ rest ≠ [] ∧ '\n' ∉ rest then some ([], rest)
      else (splitBrace rest).map fun found => (c :: found.1, found.2)

/-- `_LABEL_RE.search(key)`: the part before the match, and its group.  The end that the expression asks
for may be followed by one end of line. -/
def searchLabels (key : List Char) : Option (List Char × List Char) :=
  let line := if key.getLast? = some '\n' then key.dropLast else key
  if line.getLast? = some '\x7d' then splitBrace line.dropLast else none

/-- `s.partition(separator)`, less the separator. -/
def partition (separator : Char) (s : String) : String × String :=
  (String.ofList (s.toList.takeWhile (· ≠ separator)),
    String.ofList ((s.toList.dropWhile (· ≠ separator)).drop 1))

/-- A label and its value. -/
def parseLabel (part : String) : String × String :=
  let (name, value) := partition '=' part
  (pyStrip name, pyStrip value)

/-- `_parse_key(key)`. -/
def parseKey (key : String) : String × Dict String String :=
  match searchLabels key.toList with
  | none => (key, ∅)
  | some (base, text) =>
      (String.ofList base, Dict.ofList ((pySplit ',' (String.ofList text)).map parseLabel))

/-- `_safe_name(raw)`. -/
def safeName (raw : String) : String :=
  String.ofList (raw.toList.map fun c => if c.isAlphanum ∨ c = '_' then c else '_')

/-! ## The collector -/

/-- The two kinds of families. -/
inductive MetricKind
  | counter
  | gauge
  deriving DecidableEq

def MetricKind.value : MetricKind → String
  | counter => "counter"
  | gauge => "gauge"

/-- `CounterMetricFamily` or `GaugeMetricFamily`, with the samples that have been added. -/
structure MetricFamily (α : Type) where
  kind : MetricKind
  name : String
  documentation : String
  labels : List String
  samples : List (List String × α)

section Collector

variable {α : Type}

/-- The series of a snapshot by the name in their keys. -/
def grouped (series : Dict String α) : Dict String (List (Dict String String × α)) :=
  Dict.gather (fun entry => (parseKey entry.1).1) (fun entry => ((parseKey entry.1).2, entry.2))
    series.entries

/-- The families of one kind. -/
def families (kind : MetricKind) (series : Dict String α) : List (MetricFamily α) :=
  (grouped series).entries.map fun (base, pairs) =>
    { kind, name := safeName base, documentation := s!"Aegis {kind.value}: {base}"
      labels := pairs.head?.elim [] fun pair => pair.1.keys
      samples := pairs.map fun pair => (pair.1.entries.map Prod.snd, pair.2) }

/-- `AegisCollector.collect()`. -/
def collect (registry : MetricsRegistry α) : List (MetricFamily α) :=
  families .counter registry.counters ++ families .gauge registry.gauges

/-- What is scraped: a name, labels, and a value. -/
structure MetricSample (α : Type) where
  name : String
  labels : Dict String String
  value : α

/-- The samples of a family, names and values of the labels paired by position. -/
def MetricFamily.scraped (family : MetricFamily α) : List (MetricSample α) :=
  family.samples.map fun sample =>
    ⟨family.name, Dict.ofList (family.labels.zip sample.1), sample.2⟩

/-- The samples of one kind that a collection yields. -/
def scrapedOf (kind : MetricKind) (registry : MetricsRegistry α) : List (MetricSample α) :=
  ((collect registry).filter fun family => family.kind = kind).flatMap MetricFamily.scraped

end Collector

/-! ## Which keys are read back -/

/-- Every brace is followed by an end of line. -/
def Clear : List Char → Prop
  | [] => True
  | c :: rest => (c = '\x7b' → '\n' ∈ rest) ∧ Clear rest

instance decidableClear : DecidablePred Clear
  | [] => isTrue trivial
  | c :: rest =>
      have := decidableClear rest
      inferInstanceAs (Decidable ((c = '\x7b' → '\n' ∈ rest) ∧ Clear rest))

/-- **The search** splits at the first brace that is not followed by an end of line. -/
lemma splitBrace_eq_some {l base text : List Char} : splitBrace l = some (base, text)
    ↔ l = base ++ '\x7b' :: text ∧ text ≠ [] ∧ '\n' ∉ text ∧ Clear base := by
  induction l generalizing base with
  | nil => simp [splitBrace]
  | cons c rest ih =>
      rw [splitBrace]
      split_ifs with hbrace
      · obtain ⟨rfl, hrest, hline⟩ := hbrace
        constructor
        · intro h
          cases h
          exact ⟨rfl, hrest, hline, trivial⟩
        · rintro ⟨hl, htext, hline', hclear⟩
          cases base with
          | nil =>
              cases hl
              rfl
          | cons b base =>
              cases hl
              exact absurd (List.mem_append_left _ (hclear.1 rfl)) hline
      · rw [Option.map_eq_some_iff]
        constructor
        · rintro ⟨⟨base', text'⟩, hfound, heq⟩
          cases heq
          obtain ⟨rfl, htext, hline, hclear⟩ := ih.mp hfound
          refine ⟨rfl, htext, hline, ?_, hclear⟩
          rintro rfl
          by_contra hnone
          exact hbrace ⟨rfl, by simp, by simp [hnone, hline]⟩
        · rintro ⟨hl, htext, hline, hclear⟩
          cases base with
          | nil =>
              cases hl
              exact absurd ⟨rfl, htext, hline⟩ hbrace
          | cons b base =>
              cases hl
              exact ⟨(base, text), ih.mpr ⟨rfl, htext, hline, hclear.2⟩, rfl⟩

lemma clear_append {before rest : List Char} (h : Clear (before ++ rest)) : Clear rest := by
  induction before with
  | nil => exact h
  | cons c before ih => exact ih h.2

/-- No blanks at the ends, and none of these characters. -/
structure Plain (excluded : List Char) (s : String) : Prop where
  without : ∀ c ∈ excluded, c ∉ s.toList
  trimmed : pyStrip s = s

instance (excluded : List Char) (s : String) : Decidable (Plain excluded s) :=
  -- run through the list: by itself the search for an instance runs through all characters
  have := List.decidableBAll (fun c => c ∉ s.toList) excluded
  decidable_of_iff ((∀ c ∈ excluded, c ∉ s.toList) ∧ pyStrip s = s)
    ⟨fun ⟨without, trimmed⟩ => ⟨without, trimmed⟩, fun ⟨without, trimmed⟩ => ⟨without, trimmed⟩⟩

/-- A name that can be read back. -/
abbrev PlainName (name : String) : Prop := Plain [',', '=', '\n'] name

/-- A value that can be read back. -/
abbrev PlainValue (value : String) : Prop := Plain [',', '\n'] value

lemma mem_pyStrip {s : String} {c : Char} (h : c ∈ (pyStrip s).toList) : c ∈ s.toList := by
  rw [pyStrip, strip, String.toList_ofList, List.mem_reverse] at h
  have hrest := (List.dropWhile_sublist isSpace).subset h
  rw [List.mem_reverse] at hrest
  exact (List.dropWhile_sublist isSpace).subset hrest

/-- What has been stripped has no blanks at its ends. -/
lemma pyStrip_pyStrip (s : String) : pyStrip (pyStrip s) = pyStrip s := by
  have hstrip : ∀ l : List Char, pyStrip (String.ofList l)
      = String.ofList ((l.dropWhile isSpace).rdropWhile isSpace) := by
    intro l
    rw [pyStrip, String.toList_ofList]
    rfl
  have hs : pyStrip s = String.ofList ((s.toList.dropWhile isSpace).rdropWhile isSpace) := rfl
  rw [hs, hstrip]
  have hfront : ((s.toList.dropWhile isSpace).rdropWhile isSpace).dropWhile isSpace
      = (s.toList.dropWhile isSpace).rdropWhile isSpace := by
    obtain ⟨rest, hrest⟩ := List.rdropWhile_prefix isSpace (s.toList.dropWhile isSpace)
    cases hstripped : (s.toList.dropWhile isSpace).rdropWhile isSpace with
    | nil => rfl
    | cons c stripped =>
        rw [hstripped, List.cons_append] at hrest
        have hagain := List.dropWhile_idempotent isSpace s.toList
        rw [← hrest] at hagain
        cases hc : isSpace c with
        | false => rw [List.dropWhile_cons_of_neg (by simp [hc])]
        | true =>
            -- a blank in front would have been dropped
            rw [List.dropWhile_cons_of_pos hc] at hagain
            have hlength := (List.dropWhile_sublist isSpace (l := stripped ++ rest)).length_le
            rw [hagain, List.length_cons] at hlength
            omega
  rw [hfront, List.rdropWhile_idempotent]

lemma plain_pyStrip {excluded : List Char} {s : String} (h : ∀ c ∈ excluded, c ∉ s.toList) :
    Plain excluded (pyStrip s) :=
  ⟨fun c hc hmem => h c hc (mem_pyStrip hmem), pyStrip_pyStrip s⟩

lemma partition_item {separator : Char} {name value : List Char} (h : separator ∉ name) :
    partition separator (String.ofList (name ++ separator :: value))
      = (String.ofList name, String.ofList value) := by
  have hname : ∀ c ∈ name, decide (c ≠ separator) = true := by
    intro c hc
    rw [decide_eq_true_eq]
    rintro rfl
    exact h hc
  rw [partition, String.toList_ofList, List.takeWhile_append_of_pos hname,
    List.dropWhile_append_of_pos hname, List.takeWhile_cons_of_neg (by simp),
    List.dropWhile_cons_of_neg (by simp), List.append_nil]
  rfl

/-- A plain label is read back from its item. -/
lemma parseLabel_item {name value : String} (hname : PlainName name) (hvalue : PlainValue value) :
    parseLabel (name ++ "=" ++ value) = (name, value) := by
  have hitem : name ++ "=" ++ value = String.ofList (name.toList ++ '=' :: value.toList) := by
    simp [← String.toList_inj]
  have hseparator : '=' ∉ name.toList := hname.without '=' (by simp)
  simp only [parseLabel, hitem, partition_item hseparator, String.ofList_toList, hname.trimmed,
    hvalue.trimmed]

lemma mem_intercalate {separator c : Char} : ∀ {parts : List (List Char)},
    c ∈ [separator].intercalate parts → c = separator ∨ ∃ part ∈ parts, c ∈ part
  | [], h => by simp at h
  | [part], h => by simpa using Or.inr h
  | part :: next :: rest, h => by
      rw [List.intercalate_cons_cons, List.mem_append, List.mem_append] at h
      rcases h with (hpart | hseparator) | hrest
      · exact Or.inr ⟨part, List.mem_cons_self, hpart⟩
      · exact Or.inl (List.mem_singleton.mp hseparator)
      · rcases mem_intercalate hrest with hseparator | ⟨part', hmem, hc⟩
        · exact Or.inl hseparator
        · exact Or.inr ⟨part', List.mem_cons_of_mem _ hmem, hc⟩

/-! ### The keys of the registry -/

/-- The text of labels in a key. -/
def labelText (labels : Dict String String) : List Char :=
  [','].intercalate ((sortedItems labels).map fun item => (item.1 ++ "=" ++ item.2).toList)

section Keys

variable {name : String} {labels : Dict String String}

lemma metricKey_bare (h : labels.entries = []) : metricKey name labels = name := if_pos h

lemma toList_metricKey (h : labels.entries ≠ []) : (metricKey name labels).toList
    = name.toList ++ '\x7b' :: (labelText labels ++ ['\x7d']) := by
  rw [metricKey, if_neg h]
  simp [labelText, Function.comp_def]

lemma searchLabels_concat (line : List Char) : searchLabels (line ++ ['\x7d']) = splitBrace line := by
  simp [searchLabels]

/-- With labels, it is up to the first brace that is not followed by an end of line. -/
lemma searchLabels_metricKey (h : labels.entries ≠ []) : searchLabels (metricKey name labels).toList
    = splitBrace (name.toList ++ '\x7b' :: labelText labels) := by
  have hsplit : name.toList ++ '\x7b' :: (labelText labels ++ ['\x7d'])
      = (name.toList ++ '\x7b' :: labelText labels) ++ ['\x7d'] := by
    rw [List.append_assoc, List.cons_append]
  rw [toList_metricKey h, hsplit, searchLabels_concat]

/-- Labels that can be read back from their text. -/
def PlainItems (labels : Dict String String) : Prop :=
  ∀ item ∈ labels.entries, PlainName item.1 ∧ PlainValue item.2

instance (labels : Dict String String) : Decidable (PlainItems labels) :=
  inferInstanceAs (Decidable (∀ item ∈ labels.entries, PlainName item.1 ∧ PlainValue item.2))

lemma mem_item {item : String × String} {c : Char} : c ∈ (item.1 ++ "=" ++ item.2).toList
    ↔ c ∈ item.1.toList ∨ c = '=' ∨ c ∈ item.2.toList := by
  simp

lemma labelText_line (hplain : PlainItems labels) : '\n' ∉ labelText labels := by
  intro h
  rcases mem_intercalate h with hseparator | ⟨part, hpart, hmem⟩
  · cases hseparator
  · obtain ⟨item, hitem, rfl⟩ := List.mem_map.mp hpart
    obtain ⟨hname, hvalue⟩ := hplain item (mem_sortedItems.mp hitem)
    rcases mem_item.mp hmem with hmem | hmem | hmem
    · exact hname.without '\n' (by simp) hmem
    · cases hmem
    · exact hvalue.without '\n' (by simp) hmem

lemma labelText_ne_nil (h : labels.entries ≠ []) : labelText labels ≠ [] := by
  obtain ⟨item, rest, hitems⟩ := List.exists_cons_of_ne_nil (fun e => h (sortedItems_eq_nil.mp e))
  rw [labelText, hitems]
  cases rest <;> simp

lemma split_labelText (h : labels.entries ≠ []) (hplain : PlainItems labels) :
    (pySplit ',' (String.ofList (labelText labels))).map parseLabel = sortedItems labels := by
  have hparts : ∀ part ∈ (sortedItems labels).map fun item => (item.1 ++ "=" ++ item.2).toList,
      ',' ∉ part := by
    intro part hpart hmem
    obtain ⟨item, hitem, rfl⟩ := List.mem_map.mp hpart
    obtain ⟨hname, hvalue⟩ := hplain item (mem_sortedItems.mp hitem)
    rcases mem_item.mp hmem with hmem | hmem | hmem
    · exact hname.without ',' (by simp) hmem
    · cases hmem
    · exact hvalue.without ',' (by simp) hmem
  have hsome : (sortedItems labels).map (fun item => (item.1 ++ "=" ++ item.2).toList) ≠ [] := by
    rw [ne_eq, List.map_eq_nil_iff, sortedItems_eq_nil]
    exact h
  rw [pySplit, String.toList_ofList, labelText, List.splitOn_intercalate ',' hparts hsome,
    List.map_map, List.map_map]
  refine (List.map_congr_left fun item hitem => ?_).trans (List.map_id _)
  obtain ⟨hname, hvalue⟩ := hplain item (mem_sortedItems.mp hitem)
  simp only [Function.comp_apply, String.ofList_toList, id_eq]
  exact parseLabel_item hname hvalue

/-- A name that can be read back from a key with these labels. -/
def ReadableName (name : String) (labels : Dict String String) : Prop :=
  if labels.entries = [] then searchLabels name.toList = none else Clear name.toList

instance (name : String) (labels : Dict String String) : Decidable (ReadableName name labels) :=
  inferInstanceAs (Decidable (if labels.entries = [] then searchLabels name.toList = none
    else Clear name.toList))

/-- **A key is read back** as it was written. -/
theorem parseKey_metricKey (hplain : PlainItems labels) (hname : ReadableName name labels) :
    parseKey (metricKey name labels) = (name, Dict.ofList (sortedItems labels)) := by
  rw [ReadableName] at hname
  split_ifs at hname with hbare
  · rw [metricKey_bare hbare, parseKey, hname, sortedItems_eq_nil.mpr hbare]
    rfl
  · have hfound : splitBrace (name.toList ++ '\x7b' :: labelText labels)
        = some (name.toList, labelText labels) :=
      splitBrace_eq_some.mpr ⟨rfl, labelText_ne_nil hbare, labelText_line hplain, hname⟩
    rw [parseKey, searchLabels_metricKey hbare, hfound]
    simp only [String.ofList_toList, split_labelText hbare hplain]

/-! ### What is read from any key -/

lemma splitOn_parts {separator : Char} {text part : List Char} (h : part ∈ text.splitOn separator) :
    separator ∉ part ∧ ∀ c ∈ part, c ∈ text := by
  induction text generalizing part with
  | nil =>
      rw [List.splitOn_nil, List.mem_singleton] at h
      simp [h]
  | cons c rest ih =>
      rw [List.splitOn_cons_eq_if_modifyHead] at h
      split_ifs at h with hc
      · rcases List.mem_cons.mp h with rfl | hrest
        · simp
        · exact ⟨(ih hrest).1, fun d hd => List.mem_cons_of_mem _ ((ih hrest).2 d hd)⟩
      · have hne : separator ≠ c := fun e => hc (by simp [e])
        cases hparts : rest.splitOn separator with
        | nil => exact absurd hparts (List.splitOn_ne_nil separator rest)
        | cons first others =>
            rw [hparts] at h
            rcases List.mem_cons.mp h with rfl | hother
            · obtain ⟨hfirst, hsub⟩ := ih (hparts ▸ List.mem_cons_self)
              refine ⟨?_, fun d hd => ?_⟩
              · rw [List.mem_cons, not_or]
                exact ⟨hne, hfirst⟩
              · exact List.cons_subset_cons c hsub hd
            · obtain ⟨hpart, hsub⟩ := ih (hparts ▸ List.mem_cons_of_mem _ hother)
              exact ⟨hpart, fun d hd => List.mem_cons_of_mem _ (hsub d hd)⟩

/-- A label that is read is plain. -/
lemma plain_parseLabel {part : String} (hcomma : ',' ∉ part.toList) (hline : '\n' ∉ part.toList) :
    PlainName (parseLabel part).1 ∧ PlainValue (parseLabel part).2 := by
  have hname : ∀ c ∈ (partition '=' part).1.toList, c ∈ part.toList ∧ c ≠ '=' := by
    intro c hc
    rw [partition, String.toList_ofList] at hc
    exact ⟨(List.takeWhile_sublist _).subset hc, by simpa using List.mem_takeWhile_imp hc⟩
  have hvalue : ∀ c ∈ (partition '=' part).2.toList, c ∈ part.toList := by
    intro c hc
    rw [partition, String.toList_ofList] at hc
    exact (List.dropWhile_sublist _).subset (List.mem_of_mem_drop hc)
  constructor
  · refine plain_pyStrip fun c hc hmem => ?_
    obtain ⟨hpart, hne⟩ := hname c hmem
    simp only [List.mem_cons, List.not_mem_nil, or_false] at hc
    rcases hc with rfl | rfl | rfl
    · exact hcomma hpart
    · exact hne rfl
    · exact hline hpart
  · refine plain_pyStrip fun c hc hmem => ?_
    simp only [List.mem_cons, List.not_mem_nil, or_false] at hc
    rcases hc with rfl | rfl
    · exact hcomma (hvalue _ hmem)
    · exact hline (hvalue _ hmem)

lemma searchLabels_length {key base text : List Char} (h : searchLabels key = some (base, text)) :
    base.length < key.length := by
  simp only [searchLabels] at h
  have hdropped : ∀ line : List Char, splitBrace line.dropLast = some (base, text) →
      base.length < line.length := by
    intro line hfound
    have hlength := congrArg List.length (splitBrace_eq_some.mp hfound).1
    rw [List.length_dropLast, List.length_append, List.length_cons] at hlength
    omega
  split_ifs at h
  · have hlt := hdropped _ h
    rw [List.length_dropLast] at hlt
    omega
  · exact hdropped _ h

lemma searchLabels_line {key base text : List Char} (h : searchLabels key = some (base, text)) :
    '\n' ∉ text := by
  simp only [searchLabels] at h
  split_ifs at h
  · exact (splitBrace_eq_some.mp h).2.2.1
  · exact (splitBrace_eq_some.mp h).2.2.1

/-- **Whatever the key**, the labels that are read from it are plain. -/
lemma parseKey_plain (key : String) : PlainItems (parseKey key).2 := by
  intro item hitem
  rw [parseKey] at hitem
  cases hfound : searchLabels key.toList with
  | none =>
      rw [hfound] at hitem
      cases hitem
  | some found =>
      obtain ⟨base, text⟩ := found
      rw [hfound] at hitem
      obtain ⟨part, hpart, rfl⟩ := List.mem_map.mp (Dict.mem_of_mem_ofList hitem)
      rw [pySplit, String.toList_ofList] at hpart
      obtain ⟨chars, hchars, rfl⟩ := List.mem_map.mp hpart
      obtain ⟨hcomma, hsub⟩ := splitOn_parts hchars
      refine plain_parseLabel ?_ ?_
      · rwa [String.toList_ofList]
      · rw [String.toList_ofList]
        exact fun hmem => searchLabels_line hfound (hsub _ hmem)

/-- A key that is read without labels is a name. -/
lemma parseKey_bare {key : String} (h : (parseKey key).2.entries = []) :
    (parseKey key).1 = key ∧ searchLabels key.toList = none := by
  rw [parseKey] at h ⊢
  cases hfound : searchLabels key.toList with
  | none => exact ⟨rfl, rfl⟩
  | some found =>
      rw [hfound] at h
      rw [Dict.ofList_entries_eq_nil, List.map_eq_nil_iff, pySplit, List.map_eq_nil_iff] at h
      exact absurd h (List.splitOn_ne_nil _ _)

lemma splitBrace_isSome (base : List Char) {text : List Char} (htext : text ≠ [])
    (hline : '\n' ∉ text) : ∃ found, splitBrace (base ++ '\x7b' :: text) = some found := by
  induction base with
  | nil => exact ⟨([], text), if_pos ⟨rfl, htext, hline⟩⟩
  | cons c base ih =>
      rw [List.cons_append, splitBrace]
      split_ifs with hbrace
      · exact ⟨_, rfl⟩
      · obtain ⟨found, hfound⟩ := ih
        rw [hfound]
        exact ⟨_, rfl⟩

/-- **The name that is read** from a key with plain labels is the name that was written, or shorter. -/
lemma parseKey_shorter (hplain : PlainItems labels) :
    ReadableName name labels ∨ (parseKey (metricKey name labels)).1.length < name.length := by
  rw [ReadableName]
  by_cases hbare : labels.entries = []
  · rw [if_pos hbare, metricKey_bare hbare, parseKey]
    cases hfound : searchLabels name.toList with
    | none => exact Or.inl rfl
    | some found =>
        right
        have hlt := searchLabels_length hfound
        rw [String.length_toList] at hlt
        simpa using hlt
  · rw [if_neg hbare, parseKey, searchLabels_metricKey hbare]
    obtain ⟨⟨base, text⟩, hfound⟩ := splitBrace_isSome name.toList (labelText_ne_nil hbare)
      (labelText_line hplain)
    rw [hfound]
    obtain ⟨hkey, -, -, hclear⟩ := splitBrace_eq_some.mp hfound
    simp only [String.length_ofList, ← String.length_toList (s := name)]
    rcases List.append_eq_append_iff.mp hkey with ⟨rest, rfl, hrest⟩ | ⟨rest, hname, hrest⟩
    · cases rest with
      | nil =>
          rw [List.append_nil] at hclear
          exact Or.inl hclear
      | cons c rest =>
          -- a brace of the labels would be followed by an end of line
          rw [List.cons_append, List.cons.injEq] at hrest
          obtain ⟨rfl, htext⟩ := hrest
          refine absurd ?_ (labelText_line hplain)
          rw [htext]
          exact List.mem_append_left _ ((clear_append hclear).1 rfl)
    · cases rest with
      | nil =>
          rw [List.append_nil] at hname
          exact Or.inl (hname ▸ hclear)
      | cons c rest =>
          right
          rw [hname, List.length_append, List.length_cons]
          omega

end Keys

end PrometheusExporter

end Aegis
