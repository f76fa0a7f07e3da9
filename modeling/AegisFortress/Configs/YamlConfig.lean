import AegisFortress.Lib.PathWrites
import AegisFortress.Python.Builtins

/-!
# The configuration file and the environment

`load_yaml_config` of `configs/__init__.py`.  What the YAML file says is overridden by environment
variables, each under the path of keys its name spells: `AEGIS_EXCHANGE__PRIMARY` is
`config["exchange"]["primary"]`.  The variables come in the order in which the process happens to
enumerate them.

PyYAML hands out one dictionary for an anchor and for every alias of it, and the overrides are written
into the dictionaries it has handed out.  What is written in one place of such a dictionary is then
seen in the others, and the last of two overrides wins in all of them (`overrides_of_alias`).
`overrides_commute`: as long as none of those on the way to an override stands in a second place, and no
path is a prefix of another, the order makes no difference.
-/

namespace Aegis

open ObjectGraph

/-- A key of a YAML mapping: a string, or something else (a number, a date, `null`). -/
inductive YamlKey (κ : Type)
  | str (s : String)
  | other (key : κ)
  deriving DecidableEq

/-- What `yaml.safe_load` returns: dictionaries and lists, as objects that refer to each other, and
plain values, of which `None` is the value `none`. -/
abbrev Yaml (κ τ : Type) := Rooted (YamlKey κ) (Option τ)

/-- What the code calls from PyYAML, and `str.lower` in any script. -/
structure YamlLib (κ τ : Type) where
  safeLoad : String → Except PyError (Yaml κ τ)
  /-- What it hands out refers to what it has made. -/
  closed : ∀ text config, safeLoad text = .ok config → config.Closed
  /-- A string as a value. -/
  ofString : String → τ
  lower : String → String

variable {κ τ : Type} [DecidableEq κ] (lib : YamlLib κ τ)

/-- A value that is no object. -/
def Yaml.ofValue (value : Option τ) : Yaml κ τ := ⟨[], .value value⟩

/-- `{}`. -/
def Yaml.emptyDict : Yaml κ τ := ⟨[.dict ∅], .object 0⟩

/-- `coerce_env_value(raw_value)`. -/
def coerceEnvValue (rawValue : String) : Yaml κ τ :=
  match lib.safeLoad rawValue with
  | .ok parsed => parsed
  | .error _ => Yaml.ofValue (some (lib.ofString rawValue))

/-- `set_nested_value(target, nested_keys, value)`: `current` is where the loop is. -/
def setNestedValue (heap : Heap (YamlKey κ) (Option τ)) (current : ℕ) :
    List String → Ref (Option τ) → Heap (YamlKey κ) (Option τ)
  | [], _ => heap
  | [finalKey], value => assign heap current (.str (lib.lower finalKey)) value
  | key :: rest, value =>
      let normalizedKey := YamlKey.str (lib.lower key)
      match dictUnder heap current normalizedKey with
      | some existing => setNestedValue heap existing rest value
      | none => setNestedValue (makeDict heap current normalizedKey) heap.length rest value

/-- `s.split("__")`. -/
def splitDunder : List Char → List (List Char)
  | [] => [[]]
  | '_' :: '_' :: rest => [] :: splitDunder rest
  | c :: rest =>
      match splitDunder rest with
      | [] => [[c]]
      | part :: parts => (c :: part) :: parts

/-- The keys a variable name spells; `none` when the variable is none of the configuration's. -/
def nestedKeys (envName : String) : Option (List String) :=
  match "AEGIS_".toList.isPrefixOf envName.toList with
  | false => none
  | true =>
      let parts := splitDunder (envName.toList.drop "AEGIS_".length)
      let keys := (parts.map fun part => pyStrip (String.ofList part)).filter (· ≠ "")
      if parts.length < 2 ∨ keys = [] then none else some keys

/-- The loop over the environment. -/
def applyOverrides (heap : Heap (YamlKey κ) (Option τ)) (config : ℕ)
    (environ : List (String × String)) : Heap (YamlKey κ) (Option τ) :=
  environ.foldl (fun heap (envName, envValue) =>
    match nestedKeys envName with
    | none => heap
    | some keys =>
        let coercedValue := coerceEnvValue lib envValue
        setNestedValue lib (load heap coercedValue) config keys (loaded heap coercedValue)) heap

/-- `load_yaml_config(path)`: `file` is the text of the file, if there is one. -/
def loadYamlConfig (file : Option String) (environ : List (String × String)) :
    Except PyError (Yaml κ τ) :=
  match file with
  | none => .ok Yaml.emptyDict
  | some text => do
      let config ← lib.safeLoad text
      match config.root with
      | .value none =>
          let empty : Yaml κ τ := Yaml.emptyDict
          .ok ⟨applyOverrides lib empty.heap 0 environ, empty.root⟩
      | .value (some _) => .ok Yaml.emptyDict
      | .object root =>
          if isDict config.heap root then
            .ok ⟨applyOverrides lib config.heap root environ, .object root⟩
          else .ok Yaml.emptyDict

example : nestedKeys "AEGIS_EXCHANGE__PRIMARY" = some ["EXCHANGE", "PRIMARY"] := by decide +kernel

/-! ## Overrides as writes -/

/-- The path of an override. -/
def overridePath (keys : List String) : List (YamlKey κ) := keys.map fun key => .str (lib.lower key)

/-- What the environment overrides: the paths, and the values that are written there. -/
def overrides (environ : List (String × String)) : List (List (YamlKey κ) × Yaml κ τ) :=
  environ.filterMap fun (envName, envValue) =>
    (nestedKeys envName).map fun keys => (overridePath lib keys, coerceEnvValue lib envValue)

lemma nestedKeys_ne_nil {envName : String} {keys : List String} (h : nestedKeys envName = some keys) :
    keys ≠ [] := by
  rw [nestedKeys] at h
  split at h
  · cases h
  · simp only at h
    split_ifs at h with hnone
    cases h
    exact fun hnil => hnone (Or.inr hnil)

/-- An override is one write. -/
lemma setNestedValue_eq (keys : List String) (heap : Heap (YamlKey κ) (Option τ)) (current : ℕ)
    (value : Ref (Option τ)) :
    setNestedValue lib heap current keys value = setAt heap current (overridePath lib keys) value := by
  induction keys generalizing heap current with
  | nil => rfl
  | cons key rest ih =>
      cases rest with
      | nil => rfl
      | cons next rest =>
          rw [setNestedValue, overridePath, List.map_cons, List.map_cons, setAt]
          · cases dictUnder heap current (.str (lib.lower key)) with
            | some existing => exact ih heap existing
            | none => exact ih _ _
          · simp
          · simp

/-- **The loop** is a run of writes. -/
lemma applyOverrides_eq (heap : Heap (YamlKey κ) (Option τ)) (config : ℕ)
    (environ : List (String × String)) :
    applyOverrides lib heap config environ = writeAll heap config (overrides lib environ) := by
  induction environ generalizing heap with
  | nil => rfl
  | cons entry rest ih =>
      obtain ⟨envName, envValue⟩ := entry
      simp only [applyOverrides, List.foldl_cons, overrides, List.filterMap_cons]
      cases nestedKeys envName with
      | none => exact ih heap
      | some keys =>
          have hwrite := setNestedValue_eq lib keys (load heap (coerceEnvValue lib envValue)) config
            (loaded heap (coerceEnvValue lib envValue))
          simp only [hwrite]
          exact ih _

omit [DecidableEq κ] in
lemma Yaml.ofValue_closed (value : Option τ) : (Yaml.ofValue value : Yaml κ τ).Closed :=
  ⟨fun _ hmem => absurd hmem List.not_mem_nil, trivial⟩

omit [DecidableEq κ] in
lemma coerceEnvValue_closed (rawValue : String) : (coerceEnvValue lib rawValue).Closed := by
  rw [coerceEnvValue]
  cases hload : lib.safeLoad rawValue with
  | ok parsed => exact lib.closed rawValue parsed hload
  | error e => exact Yaml.ofValue_closed _

omit [DecidableEq κ] in
/-- An override has a path, and its value refers to nothing of the configuration's. -/
lemma overrides_closed (environ : List (String × String)) :
    ∀ override ∈ overrides lib environ, override.1 ≠ [] ∧ override.2.Closed := by
  intro override hmem
  obtain ⟨⟨envName, envValue⟩, -, hentry⟩ := List.mem_filterMap.mp hmem
  obtain ⟨keys, hkeys, rfl⟩ := Option.map_eq_some_iff.mp hentry
  refine ⟨?_, coerceEnvValue_closed lib envValue⟩
  rw [overridePath, ne_eq, List.map_eq_nil_iff]
  exact nestedKeys_ne_nil hkeys

/-- What the overrides write, as a reader sees it. -/
def overrideViews (environ : List (String × String)) :
    List (List (YamlKey κ) × View (YamlKey κ) (Option τ)) :=
  (overrides lib environ).map fun override => (override.1, override.2.view)

section Root

variable {text : String} {heap : Heap (YamlKey κ) (Option τ)} {root : ℕ}
  (hload : lib.safeLoad text = .ok ⟨heap, .object root⟩) (hdict : isDict heap root)

include hload hdict

/-- The configuration's root is a dictionary: the file is read and overridden. -/
lemma loadYamlConfig_dict (environ : List (String × String)) :
    loadYamlConfig lib (some text) environ
      = .ok ⟨writeAll heap root (overrides lib environ), .object root⟩ := by
  rw [← applyOverrides_eq, loadYamlConfig, hload]
  exact if_pos hdict

/-- **What is loaded**, when no dictionary on the way to an override stands in a second place. -/
lemma loadYamlConfig_view (environ : List (String × String))
    (hapart : AllApart (overrides lib environ))
    (hsole : SoleOnWay heap (.object root) (overrides lib environ)) :
    ∃ loaded, loadYamlConfig lib (some text) environ = .ok loaded
      ∧ loaded.view = overwriteAll (view heap (.object root)) (overrideViews lib environ) :=
  ⟨_, loadYamlConfig_dict lib hload hdict environ,
    writeAll_spec (lib.closed text _ hload).1 hdict (overrides_closed lib environ) hapart hsole⟩

/-- **Overrides in any order.**  Where no override's path is a prefix of another's, and no dictionary on
the way to an override stands in a second place, two enumerations of one environment give the same
configuration; every override is there with its value; and what the file has under a path that is
neither on the way to an override nor behind one is left as it was. -/
theorem overrides_commute (environ environ' : List (String × String))
    (hapart : AllApart (overrides lib environ)) (hperm : environ.Perm environ')
    (hsole : SoleOnWay heap (.object root) (overrides lib environ)) :
    ∃ loaded loaded', loadYamlConfig lib (some text) environ = .ok loaded
      ∧ loadYamlConfig lib (some text) environ' = .ok loaded'
      ∧ loaded.view = loaded'.view
      ∧ (∀ override ∈ overrides lib environ, ∀ rest,
          loaded.view (steps override.1 ++ rest) = override.2.view rest)
      ∧ ∀ path, (∀ override ∈ overrides lib environ, Apart override.1 path) → ∀ rest,
          loaded.view (steps path ++ rest) = view heap (.object root) (steps path ++ rest) := by
  have hoverrides : (overrides lib environ).Perm (overrides lib environ') := hperm.filterMap _
  have hapart' : AllApart (overrides lib environ') :=
    hoverrides.pairwise hapart fun happart => happart.symm
  have hviews : AllApart (overrideViews lib environ) := List.pairwise_map.mpr hapart
  obtain ⟨loaded, hloaded, hview⟩ := loadYamlConfig_view lib hload hdict environ hapart hsole
  obtain ⟨loaded', hloaded', hview'⟩ := loadYamlConfig_view lib hload hdict environ' hapart'
    fun override hmem => hsole override (hoverrides.mem_iff.mpr hmem)
  refine ⟨loaded, loaded', hloaded, hloaded', ?_, fun override hmem rest => ?_,
    fun path haway rest => ?_⟩
  · rw [hview, hview']
    exact overwriteAll_perm hviews (hoverrides.map _)
  · rw [hview]
    exact overwriteAll_self hviews (List.mem_map.mpr ⟨override, hmem, rfl⟩) rest
  · rw [hview]
    refine overwriteAll_apart (fun write hwrite => ?_) rest
    obtain ⟨override, hmem, rfl⟩ := List.mem_map.mp hwrite
    exact haway override hmem

end Root

/-! ## With and without an alias -/

/-- On the way to an entry of a section there are the root and the section. -/
lemma sole_on_way_of_section {heap : Heap (YamlKey κ) (Option τ)} {root : Ref (Option τ)}
    {name entry : YamlKey κ} (hroot : Sole heap root []) (hsection : Sole heap root (steps [name]))
    {path : List (YamlKey κ)} (hpre : path <+: [name, entry]) (hne : path ≠ [name, entry]) :
    Sole heap root (steps path) := by
  have hsplit : path <+: [name] ++ [entry] := hpre
  have hway : path <+: [name] := (List.prefix_concat_iff.mp hsplit).resolve_left hne
  rcases List.prefix_cons_iff.mp hway with rfl | ⟨rest, rfl, hrest⟩
  · exact hroot
  · obtain rfl := List.prefix_nil.mp hrest
    exact hsection

/-- Two sections and an alias of one of them, out of the way of what is overridden. -/
def sectionsConfig : Yaml Empty String where
  heap := [.dict ⟨[(.str "exchange", .object 1), (.str "spare", .object 2), (.str "backup", .object 2)],
      by decide⟩,
    .dict ⟨[(.str "primary", .value (some "binance"))], by decide⟩,
    .dict ⟨[(.str "primary", .value (some "kraken"))], by decide⟩]
  root := .object 0

/-- One section under two keys. -/
def aliasConfig : Yaml Empty String where
  heap := [.dict ⟨[(.str "a", .object 1), (.str "b", .object 1)], by decide⟩,
    .dict ⟨[(.str "k", .value (some "one"))], by decide⟩]
  root := .object 0

def sectionsText : String :=
  "exchange:\n  primary: binance\nspare: &s\n  primary: kraken\nbackup: *s\n"

def aliasText : String := "a: &x\n  k: one\nb: *x\n"

/-- The two files, and plain words, as PyYAML reads them. -/
def wordsLib : YamlLib Empty String where
  safeLoad text :=
    if text = sectionsText then .ok sectionsConfig
    else if text = aliasText then .ok aliasConfig
    else .ok (Yaml.ofValue (some text))
  closed := by
    intro text config hload
    split_ifs at hload with hsections halias
    · cases hload
      decide
    · cases hload
      decide
    · cases hload
      exact Yaml.ofValue_closed _
  ofString := id
  lower := pyLower

/-- Two variables of two sections, one of which the file does not have. -/
def sectionsEnviron : List (String × String) :=
  [("AEGIS_EXCHANGE__PRIMARY", "coinbase"), ("AEGIS_TRADING__SYMBOL", "ETH")]

theorem overrides_commute_sections : ∃ loaded loaded',
    loadYamlConfig wordsLib (some sectionsText) sectionsEnviron = .ok loaded
      ∧ loadYamlConfig wordsLib (some sectionsText) sectionsEnviron.reverse = .ok loaded'
      ∧ loaded.view = loaded'.view
      ∧ (∀ override ∈ overrides wordsLib sectionsEnviron, ∀ rest,
          loaded.view (steps override.1 ++ rest) = override.2.view rest)
      ∧ ∀ path, (∀ override ∈ overrides wordsLib sectionsEnviron, Apart override.1 path) → ∀ rest,
          loaded.view (steps path ++ rest)
            = view sectionsConfig.heap (.object 0) (steps path ++ rest) := by
  have hpaths : (overrides wordsLib sectionsEnviron).map Prod.fst
      = [[.str "exchange", .str "primary"], [.str "trading", .str "symbol"]] := by decide +kernel
  have hapart : AllApart (overrides wordsLib sectionsEnviron) := by
    rw [AllApart, ← List.pairwise_map (f := Prod.fst), hpaths]
    decide +kernel
  -- the root, the section that the file has, and nothing where it has none
  have hroot : Sole sectionsConfig.heap (.object 0) [] := sole_nil (by decide)
  have hexchange : Sole sectionsConfig.heap (.object 0) (steps [.str "exchange"]) :=
    hroot.concat rfl fun a ha => by cases ha; decide
  have htrading : Sole sectionsConfig.heap (.object 0) (steps [.str "trading"]) :=
    hroot.concat rfl fun a ha => by cases ha
  have hway : SoleOnWay sectionsConfig.heap (.object 0) (overrides wordsLib sectionsEnviron) := by
    intro override hmem p hpre hne
    have hpath := List.mem_map_of_mem (f := Prod.fst) hmem
    rw [hpaths] at hpath
    rcases List.mem_cons.mp hpath with hfirst | hsecond
    · rw [hfirst] at hpre hne
      exact sole_on_way_of_section hroot hexchange hpre hne
    · rw [List.mem_singleton.mp hsecond] at hpre hne
      exact sole_on_way_of_section hroot htrading hpre hne
  exact overrides_commute wordsLib (if_pos rfl) (by decide) sectionsEnviron _ hapart
    (List.reverse_perm _).symm hway

/-- What a reader sees in the configuration that is loaded from the file with the alias. -/
def seenInAlias (environ : List (String × String)) (path : List (YamlKey Empty)) :
    Option (Content (Option String)) :=
  (loadYamlConfig wordsLib (some aliasText) environ).toOption.bind fun config =>
    config.view (steps path)

/-- An override of one name of a section is seen under the other, where nothing overrides it; and of two
overrides that are apart the last one wins under both. -/
theorem overrides_of_alias :
    AllApart (overrides wordsLib [("AEGIS_A__K", "two"), ("AEGIS_B__K", "three")])
      ∧ seenInAlias [] [.str "b", .str "k"] = some (.value (some "one"))
      ∧ seenInAlias [("AEGIS_A__K", "two")] [.str "b", .str "k"] = some (.value (some "two"))
      ∧ seenInAlias [("AEGIS_A__K", "two"), ("AEGIS_B__K", "three")] [.str "a", .str "k"]
        = some (.value (some "three"))
      ∧ seenInAlias [("AEGIS_B__K", "three"), ("AEGIS_A__K", "two")] [.str "a", .str "k"]
        = some (.value (some "two")) := by
  refine ⟨?_, by decide +kernel, by decide +kernel, by decide +kernel, by decide +kernel⟩
  have hpaths : (overrides wordsLib [("AEGIS_A__K", "two"), ("AEGIS_B__K", "three")]).map Prod.fst
      = [[.str "a", .str "k"], [.str "b", .str "k"]] := by decide +kernel
  rw [AllApart, ← List.pairwise_map (f := Prod.fst), hpaths]
  decide +kernel

end Aegis
