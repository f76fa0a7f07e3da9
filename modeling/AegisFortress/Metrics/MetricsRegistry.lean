import AegisFortress.Lib.Gather
import Mathlib.Data.List.Sort
import Mathlib.Data.String.Basic

/-!
# The metrics registry

`metrics/metrics_registry.py`.  A counter or a gauge is kept under a text that is made of its name and
its labels.  Labels that are missing are no labels.  Histograms are left out, and so are the times of
the calls, which nothing reads.

`counters_after` and `gauges_after` say what a history of calls leaves.
-/

namespace Aegis

/-! ## Labels -/

/-- `sorted(labels.items())`. -/
def sortedItems (labels : Dict String String) : List (String × String) :=
  labels.entries.insertionSort fun a b => a.1 ≤ b.1

section Labels

variable {labels other : Dict String String}

lemma sortedItems_perm (labels : Dict String String) :
    (sortedItems labels).Perm labels.entries := List.perm_insertionSort _ _

lemma mem_sortedItems {item : String × String} : item ∈ sortedItems labels
    ↔ item ∈ labels.entries := (sortedItems_perm labels).mem_iff

lemma sortedItems_eq_nil : sortedItems labels = [] ↔ labels.entries = [] := by
  rw [← List.length_eq_zero_iff, (sortedItems_perm labels).length_eq, List.length_eq_zero_iff]

lemma sortedItems_nodup (labels : Dict String String) :
    ((sortedItems labels).map Prod.fst).Nodup :=
  ((sortedItems_perm labels).map Prod.fst).nodup_iff.mpr labels.nodup

lemma sortedItems_pairwise (labels : Dict String String) :
    (sortedItems labels).Pairwise fun a b => a.1 ≤ b.1 := by
  have htotal : Std.Total fun a b : String × String => a.1 ≤ b.1 := ⟨fun a b => le_total a.1 b.1⟩
  have htrans : IsTrans (String × String) fun a b => a.1 ≤ b.1 := ⟨fun _ _ _ => le_trans⟩
  exact List.pairwise_insertionSort _ _

/-- A list of items in order, with no name twice, is sorted. -/
lemma eq_sortedItems {items : List (String × String)} (hperm : items.Perm labels.entries)
    (hpairwise : items.Pairwise fun a b => a.1 ≤ b.1) : items = sortedItems labels := by
  refine (hperm.trans (sortedItems_perm labels).symm).eq_of_pairwise ?_ hpairwise
    (sortedItems_pairwise labels)
  intro a b ha hb hab hba
  exact List.inj_on_of_nodup_map labels.nodup (hperm.mem_iff.mp ha) (mem_sortedItems.mp hb)
    (le_antisymm hab hba)

lemma sortedItems_ofList {items : List (String × String)} (hnodup : (items.map Prod.fst).Nodup)
    (hpairwise : items.Pairwise fun a b => a.1 ≤ b.1) : sortedItems (Dict.ofList items) = items := by
  refine (eq_sortedItems ?_ hpairwise).symm
  rw [Dict.entries_ofList hnodup]

end Labels

/-! ## The registry -/

/-- `MetricsRegistry._key(name, labels)`. -/
def metricKey (name : String) (labels : Dict String String) : String :=
  if labels.entries = [] then name
  else name ++ "\x7b" ++ String.intercalate "," ((sortedItems labels).map fun item =>
    item.1 ++ "=" ++ item.2) ++ "\x7d"

lemma metricKey_congr {name : String} {labels other : Dict String String}
    (h : sortedItems labels = sortedItems other) : metricKey name labels = metricKey name other := by
  have hbare : labels.entries = [] ↔ other.entries = [] := by
    rw [← sortedItems_eq_nil, h, sortedItems_eq_nil]
  simp only [metricKey, hbare, h]

/-- `MetricsRegistry`. -/
structure MetricsRegistry (α : Type) where
  counters : Dict String α
  gauges : Dict String α

/-- A metric that is recorded. -/
structure Recording (α : Type) where
  name : String
  labels : Dict String String
  value : α

/-- A call of the registry. -/
inductive MetricCall (α : Type)
  | increment (recording : Recording α)
  | setGauge (recording : Recording α)

namespace MetricsRegistry

section Definitions

variable {α : Type} [Add α] [Zero α]

/-- `MetricsRegistry()`. -/
def init : MetricsRegistry α := ⟨∅, ∅⟩

/-- `increment(name, value, labels)`. -/
def increment (registry : MetricsRegistry α) (recording : Recording α) : MetricsRegistry α :=
  let key := metricKey recording.name recording.labels
  let value := registry.counters.getD key 0 + recording.value
  { registry with counters := registry.counters.set key value }

/-- `set_gauge(name, value, labels)`. -/
def setGauge (registry : MetricsRegistry α) (recording : Recording α) : MetricsRegistry α :=
  let key := metricKey recording.name recording.labels
  { registry with gauges := registry.gauges.set key recording.value }

def call (registry : MetricsRegistry α) : MetricCall α → MetricsRegistry α
  | .increment recording => registry.increment recording
  | .setGauge recording => registry.setGauge recording

/-- The registry after a history of calls. -/
def after (history : List (MetricCall α)) : MetricsRegistry α := history.foldl call init

end Definitions

/-! ## What a history leaves -/

section History

variable {α : Type}

/-- What has been added to counters. -/
def increments (history : List (MetricCall α)) : List (Recording α) :=
  history.filterMap fun
    | .increment recording => some recording
    | .setGauge _ => none

/-- What gauges have been set to. -/
def settings (history : List (MetricCall α)) : List (Recording α) :=
  history.filterMap fun
    | .increment _ => none
    | .setGauge recording => some recording

/-- What a recording makes of the value that is there: a counter adds, a gauge forgets. -/
def recorded (update : Option α → α → α) (recordings : List (Recording α)) : Dict String α :=
  Dict.accumulate (fun old recording => update old recording.value)
    (fun recording => metricKey recording.name recording.labels) recordings

lemma recorded_snoc (update : Option α → α → α) (recordings : List (Recording α))
    (last : Recording α) : recorded update (recordings ++ [last])
      = (recorded update recordings).set (metricKey last.name last.labels)
        (update ((recorded update recordings).get? (metricKey last.name last.labels)) last.value) :=
  Dict.accumulate_concat _ _ recordings last

variable [Add α] [Zero α]

lemma after_snoc (history : List (MetricCall α)) (last : MetricCall α) :
    after (history ++ [last]) = (after history).call last := by
  rw [after, List.foldl_append]
  rfl

lemma counters_after (history : List (MetricCall α)) :
    (after history).counters = recorded (fun old value => old.getD 0 + value) (increments history) := by
  induction history using List.reverseRecOn with
  | nil => rfl
  | append_singleton history last ih =>
      rw [after_snoc]
      cases last with
      | increment recording =>
          have hlast : increments (history ++ [.increment recording])
              = increments history ++ [recording] := List.filterMap_append
          rw [hlast, recorded_snoc, ← ih]
          rfl
      | setGauge recording =>
          have hlast : increments (history ++ [.setGauge recording]) = increments history ++ [] :=
            List.filterMap_append
          rw [hlast, List.append_nil, ← ih]
          rfl

lemma gauges_after (history : List (MetricCall α)) :
    (after history).gauges = recorded (fun _ value => value) (settings history) := by
  induction history using List.reverseRecOn with
  | nil => rfl
  | append_singleton history last ih =>
      rw [after_snoc]
      cases last with
      | increment recording =>
          have hlast : settings (history ++ [.increment recording]) = settings history ++ [] :=
            List.filterMap_append
          rw [hlast, List.append_nil, ← ih]
          rfl
      | setGauge recording =>
          have hlast : settings (history ++ [.setGauge recording])
              = settings history ++ [recording] := List.filterMap_append
          rw [hlast, recorded_snoc, ← ih]
          rfl

end History

end MetricsRegistry

end Aegis
