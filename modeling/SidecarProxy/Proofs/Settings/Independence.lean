import Mathlib.Data.List.Basic
import Mathlib.Data.List.Nodup
import SidecarProxy.Settings.Load

/-!
# Problems that do not hide one another

Each check reads one setting, where the URL of the gateway and whether it is to
be used are one.  So a problem with one setting is reported whatever the others
are.  Main statement: the report on settings is the merge, in the order of the
checks, of the reports on settings with one of the faults each.
-/

namespace SidecarProxy
namespace Settings

section Checked

/-- A setting that is checked. -/
inductive Checked where
  | bindAddress
  | moduleId
  | moduleName
  | moduleUrl
  | controlPlaneUrl
  | requestTimeoutSecs
  | maxAttempts
  /-- The URL of the gateway, with whether it is to be used. -/
  | gateway
  | maxEntries
  | ttlSecs
  | requestTimeoutMillis
  | writeQueueFrames
  deriving DecidableEq, Repr

namespace Checked

/-- The settings in the order of their checks. -/
def all : List Checked := [
  .bindAddress, .moduleId, .moduleName, .moduleUrl, .controlPlaneUrl, .requestTimeoutSecs,
  .maxAttempts, .gateway, .maxEntries, .ttlSecs, .requestTimeoutMillis, .writeQueueFrames]

/-- The name that a problem with a setting has in a report. -/
def field : Checked → String
  | .bindAddress => "listener.bind_address"
  | .moduleId => "module.id"
  | .moduleName => "module.name"
  | .moduleUrl => "module.url"
  | .controlPlaneUrl => "control_plane.url"
  | .requestTimeoutSecs => "control_plane.request_timeout_secs"
  | .maxAttempts => "control_plane.bootstrap_retry.max_attempts"
  | .gateway => "routing.gateway_url"
  | .maxEntries => "routing.discovery_cache.max_entries"
  | .ttlSecs => "routing.discovery_cache.ttl_secs"
  | .requestTimeoutMillis => "proxy.request_timeout_ms"
  | .writeQueueFrames => "proxy.write_queue_frames"

/-- The values that a setting can have. -/
def Value : Checked → Type
  | .bindAddress | .moduleId | .moduleName | .moduleUrl | .controlPlaneUrl => String
  | .gateway => Option String × Bool
  | .requestTimeoutSecs | .maxAttempts | .maxEntries | .ttlSecs | .requestTimeoutMillis
  | .writeQueueFrames => Nat

def value : (x : Checked) → Settings → x.Value
  | .bindAddress, s => s.listener.bindAddress
  | .moduleId, s => s.module.id
  | .moduleName, s => s.module.name
  | .moduleUrl, s => s.module.url
  | .controlPlaneUrl, s => s.controlPlane.url
  | .requestTimeoutSecs, s => s.controlPlane.requestTimeoutSecs
  | .maxAttempts, s => s.controlPlane.retry.maxAttempts
  | .gateway, s => (s.routing.gatewayUrl, s.routing.forwardUnknown)
  | .maxEntries, s => s.routing.cache.maxEntries
  | .ttlSecs, s => s.routing.cache.ttlSecs
  | .requestTimeoutMillis, s => s.proxy.requestTimeoutMillis
  | .writeQueueFrames, s => s.proxy.writeQueueFrames

/-- Settings with another value of one of them. -/
def put : (x : Checked) → x.Value → Settings → Settings
  | .bindAddress, v, s => { s with listener.bindAddress := v }
  | .moduleId, v, s => { s with module.id := v }
  | .moduleName, v, s => { s with module.name := v }
  | .moduleUrl, v, s => { s with module.url := v }
  | .controlPlaneUrl, v, s => { s with controlPlane.url := v }
  | .requestTimeoutSecs, v, s => { s with controlPlane.requestTimeoutSecs := v }
  | .maxAttempts, v, s => { s with controlPlane.retry.maxAttempts := v }
  | .gateway, v, s => { s with routing.gatewayUrl := v.1, routing.forwardUnknown := v.2 }
  | .maxEntries, v, s => { s with routing.cache.maxEntries := v }
  | .ttlSecs, v, s => { s with routing.cache.ttlSecs := v }
  | .requestTimeoutMillis, v, s => { s with proxy.requestTimeoutMillis := v }
  | .writeQueueFrames, v, s => { s with proxy.writeQueueFrames := v }

/-- What is wrong with a value of a setting. -/
def fault? : (x : Checked) → x.Value → Option Fault
  | .bindAddress => checkAddress
  | .moduleId => checkText
  | .moduleName => checkText
  | .moduleUrl => checkUrl
  | .controlPlaneUrl => checkUrl
  | .requestTimeoutSecs => checkNumber
  | .maxAttempts => checkNumber
  | .gateway => fun v => checkGateway v.1 v.2
  | .maxEntries => checkNumber
  | .ttlSecs => checkNumber
  | .requestTimeoutMillis => checkNumber
  | .writeQueueFrames => checkNumber

variable {x y : Checked}

theorem mem_all
    (x : Checked) :
    x ∈ all := by
  cases x <;> decide

theorem nodup_fields :
    (all.map field).Nodup := by
  decide

theorem field_injective :
    Function.Injective field := by
  intro x y h
  exact List.inj_on_of_nodup_map nodup_fields (mem_all x) (mem_all y) h

@[simp] theorem value_put_self
    (x : Checked) (v : x.Value) (s : Settings) :
    x.value (x.put v s) = v := by
  cases x <;> rfl

theorem value_put_of_ne
    (h : y ≠ x)
    (v : x.Value) (s : Settings) :
    y.value (x.put v s) = y.value s := by
  cases x <;> cases y <;> first | rfl | exact absurd rfl h

theorem filterMap_all_of_only
    {f : Checked → Option Problem}
    (x : Checked)
    (h : ∀ y, y ≠ x → f y = none) :
    all.filterMap f = (f x).toList := by
  obtain ⟨before, after, hall⟩ := List.append_of_mem (mem_all x)
  have hnodup : all.Nodup := nodup_fields.of_map
  rw [hall, List.nodup_middle, List.nodup_cons, List.mem_append, not_or] at hnodup
  have hquiet : ∀ l : List Checked, x ∉ l → l.filterMap f = [] := fun l hx =>
    List.filterMap_eq_nil_iff.2 fun y hy => h y (ne_of_mem_of_not_mem hy hx)
  rw [hall, List.filterMap_append, List.filterMap_cons, hquiet before hnodup.1.1,
    hquiet after hnodup.1.2]
  cases f x <;> rfl

end Checked

/-- Every check reads one setting and nothing else. -/
theorem checks_eq :
    checks = Checked.all.map fun x => (x.field, fun s => x.fault? (x.value s)) := by
  rfl

end Checked

section Reports

variable {s s' g : Settings} {x : Checked}

/-- The problem with a setting, if there is one. -/
def problem? (s : Settings) (x : Checked) : Option Problem :=
  (x.fault? (x.value s)).map fun fault => ⟨x.field, fault⟩

/-- Whether there is a problem with a setting. -/
def isFaulty (s : Settings) (x : Checked) : Bool :=
  (x.fault? (x.value s)).isSome

/-- The problems that a check of settings reports. -/
def reported (s : Settings) : List Problem :=
  match s.validate with
  | .ok _ => []
  | .error ps => ps

/-- Settings with one of their settings taken over from others. -/
def withFrom (g : Settings) (x : Checked) (s : Settings) : Settings :=
  x.put (x.value s) g

theorem problems_eq_filterMap
    (s : Settings) :
    s.problems = Checked.all.filterMap s.problem? := by
  rw [problems, checks_eq, List.filterMap_map]
  rfl

theorem reported_eq
    (s : Settings) :
    s.reported = Checked.all.filterMap s.problem? := by
  rw [← problems_eq_filterMap]
  unfold reported validate
  cases hproblems : s.problems <;> simp

theorem validate_eq
    (s : Settings) :
    s.validate = if s.reported = [] then .ok s else .error s.reported := by
  rw [reported_eq, ← problems_eq_filterMap, validate]
  simp only [List.isEmpty_iff]

theorem field_of_problem?
    {p : Problem}
    (h : s.problem? x = some p) :
    p.field = x.field := by
  obtain ⟨fault, -, rfl⟩ := Option.map_eq_some_iff.1 h
  rfl

theorem reported_eq_nil_of_validate
    (h : g.validate = .ok s) :
    g.reported = [] := by
  rw [validate_eq] at h
  split at h
  · assumption
  · cases h

theorem problem?_eq_none_of_validate
    (h : g.validate = .ok s)
    (x : Checked) :
    g.problem? x = none := by
  have hnil := reported_eq_nil_of_validate h
  rw [reported_eq, List.filterMap_eq_nil_iff] at hnil
  exact hnil x (Checked.mem_all x)

theorem problem?_withFrom
    (g : Settings) (x : Checked) (s : Settings) :
    (g.withFrom x s).problem? x = s.problem? x := by
  simp only [problem?, withFrom, Checked.value_put_self]

theorem problem?_withFrom_of_ne
    {y : Checked}
    (h : y ≠ x)
    (g s : Settings) :
    (g.withFrom x s).problem? y = g.problem? y := by
  simp only [problem?, withFrom, Checked.value_put_of_ne h]

/-- With one setting taken over, settings without a problem have its problem alone. -/
theorem reported_withFrom
    (h : g.validate = .ok s')
    (x : Checked) (s : Settings) :
    (g.withFrom x s).reported = (s.problem? x).toList := by
  rw [reported_eq, Checked.filterMap_all_of_only x, problem?_withFrom]
  intro y hy
  rw [problem?_withFrom_of_ne hy, problem?_eq_none_of_validate h]

theorem map_field_problem?
    (s : Settings) (x : Checked) :
    (s.problem? x).map (·.field) = if s.isFaulty x then some x.field else none := by
  unfold problem? isFaulty
  cases x.fault? (x.value s) <;> rfl

/-- The fields of a report are those of the faulty settings, in the order of the checks. -/
theorem fields_reported
    (s : Settings) :
    s.reported.map (·.field) = (Checked.all.filter s.isFaulty).map Checked.field := by
  rw [reported_eq, List.map_filterMap, ← List.filterMap_eq_map, List.filterMap_filter]
  exact List.filterMap_congr fun x _ => map_field_problem? s x

/-- What is reported for some fields are the problems of their settings. -/
theorem reported_filter
    (s : Settings) (keep : String → Bool) :
    s.reported.filter (fun p => keep p.field) =
      Checked.all.filterMap fun x => if keep x.field then s.problem? x else none := by
  rw [reported_eq, List.filter_filterMap]
  refine List.filterMap_congr fun x _ => ?_
  cases hproblem : s.problem? x with
  | none =>
      simp
  | some p =>
      simp [Option.filter, field_of_problem? hproblem]

/-- Settings that have some of their values in common report the same of these. -/
theorem reported_filter_eq
    {xs : List Checked}
    (h : ∀ y, y ∉ xs → y.value s = y.value s') :
    s.reported.filter (·.field ∉ xs.map Checked.field) =
      s'.reported.filter (·.field ∉ xs.map Checked.field) := by
  rw [reported_filter s (· ∉ xs.map Checked.field), reported_filter s' (· ∉ xs.map Checked.field)]
  refine List.filterMap_congr fun y _ => ?_
  by_cases hy : y ∈ xs
  · simp [List.mem_map_of_mem hy]
  · rw [problem?, problem?, h y hy]

/-- What is reported for one field is the problem of its setting. -/
theorem reported_filter_field
    (s : Settings) (x : Checked) :
    s.reported.filter (·.field = x.field) = (s.problem? x).toList := by
  rw [reported_filter s (· = x.field), Checked.filterMap_all_of_only x]
  · simp
  · intro y hy
    simp [Checked.field_injective.ne hy]

/-- A document is refused with all problems of the settings that it describes. -/
theorem ofText_eq
    {text : String}
    (h : read? text = some s) :
    ofText text = if s.reported = [] then .ok s else .error (.invalid s.reported) := by
  rw [ofText, h]
  dsimp only
  rw [validate_eq]
  split <;> rfl

end Reports

section Main

/-- What a check of settings reports, whatever is wrong with them. -/
structure ReportsEach (s : Settings) : Prop where
  /-- The other settings are reported alike where some are exchanged; what no check reads may be
  exchanged as well. -/
  others :
    ∀ (exchanged : List Checked) (s' : Settings),
      (∀ x, x ∉ exchanged → x.value s = x.value s') →
        s.reported.filter (·.field ∉ exchanged.map Checked.field) =
          s'.reported.filter (·.field ∉ exchanged.map Checked.field)
  told : s.reported = Checked.all.filterMap s.problem?
  onePerField : (s.reported.map (·.field)).Nodup
  accepted_iff : (∃ s', s.validate = .ok s') ↔ s.reported = []
  /-- A fault alone is reported as it is among the others. -/
  alone :
    ∀ g g' : Settings, g.validate = .ok g' →
      ∀ x, (g.withFrom x s).reported = s.reported.filter (·.field = x.field)
  merged :
    ∀ g g' : Settings, g.validate = .ok g' →
      s.reported = Checked.all.flatMap fun x => (g.withFrom x s).reported
  loaded :
    ∀ text, read? text = some s →
      ofText text = if s.reported = [] then .ok s else .error (.invalid s.reported)

/-- Each problem of settings is reported once, in the order of the checks, and none hides
another. -/
theorem reports_each
    (s : Settings) :
    s.ReportsEach where
  others _ _ := reported_filter_eq
  told := reported_eq s
  onePerField := by
    rw [fields_reported]
    exact Checked.nodup_fields.sublist (List.filter_sublist.map _)
  accepted_iff := by
    rw [validate_eq]
    split <;> simp [*]
  alone g g' h x := by
    rw [reported_withFrom h, reported_filter_field]
  merged g g' h := by
    simp only [reported_withFrom h]
    rw [reported_eq, List.filterMap_eq_flatMap_toList]
  loaded _ := ofText_eq

/-- Settings without a problem. -/
def soundSettings : Settings where
  module := { id := "mod-foo-1.0.0", name := "mod-foo" }

/-- Settings with three problems. -/
def faultySettings : Settings where
  module := { id := "mod-foo-1.0.0", name := "mod-foo", url := "not a url" }
  routing := { gatewayUrl := some "ftp://gateway" }
  proxy := { requestTimeoutMillis := 0 }

theorem reports_each_faultySettings :
    let oneFault := soundSettings.withFrom .moduleUrl faultySettings
    soundSettings.validate = .ok soundSettings ∧
      faultySettings.reported = [
        ⟨"module.url", .badUrl .relative⟩,
        ⟨"routing.gateway_url", .unsupportedScheme "ftp"⟩,
        ⟨"proxy.request_timeout_ms", .notPositive⟩] ∧
      (Checked.all.flatMap fun x => (soundSettings.withFrom x faultySettings).reported) =
        faultySettings.reported ∧
      oneFault.reported = [⟨"module.url", .badUrl .relative⟩] := by
  have hsound : soundSettings.validate = .ok soundSettings := by
    decide
  have hfaulty := reports_each faultySettings
  refine ⟨hsound, by decide, (hfaulty.merged _ _ hsound).symm, ?_⟩
  rw [hfaulty.alone _ _ hsound]
  decide

end Main

end Settings
end SidecarProxy
